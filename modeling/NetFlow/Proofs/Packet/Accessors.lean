import NetFlow.Proofs.Packet.RoundTrip
import NetFlow.Proofs.Record.Image
import NetFlow.Proofs.Wire.Tiling

/-! What flow records of all versions have in common, in the bytes. Each accessor returns what the
layout of the version has at the field of that name, and in a datagram the bytes at one place, which
the version and the position of the record give. No other bytes behind the header matter to it. -/
namespace NetFlow
open Layout

/-- The fields that records of every version have and that can be asked for in any of them. -/
inductive CommonField where
  | srcAddr
  | dstAddr
  | srcPort
  | dstPort
  | protocol
  | packets
  | octets
  deriving DecidableEq, Repr

namespace CommonField

def name : CommonField → String
  | .srcAddr => "src_addr"
  | .dstAddr => "dst_addr"
  | .srcPort => "src_port"
  | .dstPort => "dst_port"
  | .protocol => "protocol"
  | .packets => "packets"
  | .octets => "octets"

def value : CommonField → FlowRecord → FieldValue
  | .srcAddr, r => .addr r.srcAddr
  | .dstAddr, r => .addr r.dstAddr
  | .srcPort, r => .u16 r.srcPort
  | .dstPort, r => .u16 r.dstPort
  | .protocol, r => .u8 r.protocol
  | .packets, r => .u32 r.packets
  | .octets, r => .u32 r.octets

def kind : CommonField → Kind
  | .srcAddr | .dstAddr => .addr
  | .srcPort | .dstPort => .u16
  | .protocol => .u8
  | .packets | .octets => .u32

/-- Where the field stands in a record. In version 7 one more byte comes before the protocol. -/
def offset (v : Version) : CommonField → Nat
  | .srcAddr => 0
  | .dstAddr => 4
  | .packets => 16
  | .octets => 20
  | .srcPort => 32
  | .dstPort => 34
  | .protocol =>
    match v with
    | .v1 | .v5 => 38
    | .v7 => 39

theorem offsetOf?_name (f : CommonField) (v : Version) :
    (FlowRecord.layout v).offsetOf? f.name = some (f.offset v) := by
  cases v <;> cases f <;> rfl

theorem filter_fieldValues (f : CommonField) (r : FlowRecord) :
    r.fieldValues.filter (fun v => v.1 = f.name) = [(f.name, f.value r)] := by
  cases r <;> cases f <;> rfl

def place (f : CommonField) (v : Version) : Nat × Field := (f.offset v, ⟨f.name, f.kind⟩)

/-- The field at its place in a packet, in the record with `k` others in front. -/
def placeIn (f : CommonField) (v : Version) (k : Nat) : Nat × Field :=
  (v.headerLen + k * v.recordLen + f.offset v, ⟨f.name, f.kind⟩)

theorem place_mem (f : CommonField) (v : Version) : f.place v ∈ (FlowRecord.layout v).offsets := by
  cases v <;> cases f <;> decide

theorem kind_value (f : CommonField) (r : FlowRecord) : (f.value r).kind = f.kind := by
  cases f <;> rfl

end CommonField

theorem FlowRecord.aligned (r : FlowRecord) :
    Aligned (layout r.version) r.fieldValues r.encode := by
  cases r with
  | v1 r => exact V1FlowRecord.schema.aligned (Record.toRow r)
  | v5 r => exact V5FlowRecord.schema.aligned (Record.toRow r)
  | v7 r => exact V7FlowRecord.schema.aligned (Record.toRow r)

theorem exists_shows {bs : List UInt8} {ps : List (Nat × Field)} {vs : List (String × FieldValue)}
    (h : List.Forall₂ (Shows bs) ps vs) {p : Nat × Field} (hp : p ∈ ps) :
    ∃ v ∈ vs, Shows bs p v := by
  induction h with
  | nil => cases hp
  | cons hv _ ih =>
    cases hp with
    | head => exact ⟨_, List.mem_cons_self, hv⟩
    | tail _ hp =>
      obtain ⟨v, hmem, hshows⟩ := ih hp
      exact ⟨v, List.mem_cons_of_mem _ hmem, hshows⟩

theorem CommonField.speltBy_slice (f : CommonField) (r : FlowRecord) :
    (f.value r).SpeltBy (slice r.encode (f.place r.version)) := by
  obtain ⟨v, hmem, hshows⟩ := exists_shows r.aligned.slices (f.place_mem r.version)
  have hv : v ∈ r.fieldValues.filter (fun v => v.1 = f.name) :=
    List.mem_filter.mpr ⟨hmem, decide_eq_true hshows.name⟩
  rw [filter_fieldValues, List.mem_singleton] at hv
  rw [hv] at hshows
  exact hshows.spelt

theorem FieldValue.eq_of_contents {x y : FieldValue} (hk : x.kind = y.kind)
    (hn : x.asNat? = y.asNat?) (ha : x.asAddress? = y.asAddress?) : x = y := by
  cases x <;> cases y <;>
    simp_all [kind, asNat?, asAddress?, UInt8.toNat_inj, UInt16.toNat_inj, UInt32.toNat_inj]

theorem FieldValue.asNat?_isNone {x : FieldValue} : x.asNat? = none ↔ x.kind = .addr := by
  cases x <;> simp [asNat?, kind]

theorem FieldValue.SpeltBy.unique {bs : List UInt8} {x y : FieldValue} (hx : x.SpeltBy bs)
    (hy : y.SpeltBy bs) (hk : x.kind = y.kind) : x = y := by
  cases hx with
  | number hn ha _ hv =>
    cases hy with
    | number hm hb _ hw => exact eq_of_contents hk (by rw [hn, hm, ← hv, ← hw]) (ha.trans hb.symm)
    | address hm =>
      rw [asNat?_isNone, ← hk, ← asNat?_isNone, hn] at hm
      cases hm
  | @address a hn ha hoctets =>
    cases hy with
    | number hm =>
      rw [asNat?_isNone, hk, ← asNat?_isNone, hm] at hn
      cases hn
    | @address b hm hb hoctets' =>
      have hab : a = b := Address.eq_of_octets_eq (hoctets.symm.trans hoctets')
      exact eq_of_contents hk (hn.trans hm.symm) (by rw [ha, hb, hab])

theorem FlowRecord.drop_flatMap_encode {v : Version} {rs : List FlowRecord} {k : Nat}
    {r : FlowRecord} (hv : ∀ r ∈ rs, r.version = v) (hr : rs[k]? = some r) (t : List UInt8) :
    ∃ rest, (rs.flatMap encode ++ t).drop (k * v.recordLen) = r.encode ++ rest := by
  induction rs generalizing k with
  | nil => cases hr
  | cons q rs ih =>
    obtain ⟨hq, hrs⟩ := List.forall_mem_cons.mp hv
    rw [List.flatMap_cons, List.append_assoc]
    cases k with
    | zero =>
      cases hr
      exact ⟨rs.flatMap encode ++ t, by rw [Nat.zero_mul, List.drop_zero]⟩
    | succ k =>
      have hlen : q.encode.length = v.recordLen := by rw [q.encode_length, encodedLen, hq]
      obtain ⟨rest, hrest⟩ := ih hrs hr
      refine ⟨rest, ?_⟩
      rw [Nat.succ_mul, Nat.add_comm, ← List.drop_drop, List.drop_left' hlen, hrest]

theorem slice_append_left {bs t : List UInt8} {p : Nat × Field}
    (h : p.1 + p.2.width ≤ bs.length) : slice (bs ++ t) p = slice bs p := by
  have hlen : p.2.width ≤ (bs.drop p.1).length := by
    rw [List.length_drop]
    omega
  rw [slice, List.drop_append_of_le_length (by omega), List.take_append_of_le_length hlen, slice]

theorem Packet.slice_record {p : Packet} {bs : List UInt8} {k : Nat} {r : FlowRecord}
    (hp : ∀ r ∈ p.records, r.version = p.version) (hpre : p.encode <+: bs)
    (hr : p.records[k]? = some r) {q : Nat × Field}
    (hq : q ∈ (FlowRecord.layout p.version).offsets) :
    slice bs (p.version.headerLen + k * p.version.recordLen + q.1, q.2) = slice r.encode q := by
  obtain ⟨t, rfl⟩ := hpre
  obtain ⟨rest, hrest⟩ := FlowRecord.drop_flatMap_encode hp hr t
  have hheader : p.header.encode.length = p.version.headerLen := by
    rw [Header.encode_length, Header.encodedLen_eq, version]
  have hrecord : r.encode.length = p.version.recordLen := by
    rw [r.encode_length, FlowRecord.encodedLen, hp r (List.mem_of_getElem? hr)]
  have hbound : q.1 + q.2.width ≤ r.encode.length := by
    have hle := (mem_place_bounds hq).2
    rwa [Nat.zero_add, ← Version.recordLen_eq, ← hrecord] at hle
  have hdrop : (p.encode ++ t).drop (p.version.headerLen + k * p.version.recordLen) =
      r.encode ++ rest := by
    rw [encode_eq_append, List.append_assoc, ← List.drop_drop, List.drop_left' hheader, hrest]
  rw [slice, ← List.drop_drop, hdrop]
  exact slice_append_left hbound

theorem Packet.tagOf_take (bs : List UInt8) : tagOf (bs.take 4) = tagOf bs := by
  rw [tagOf, List.take_take]
  rfl

theorem Packet.countOf_take (bs : List UInt8) : countOf (bs.take 4) = countOf bs := by
  rw [countOf, List.drop_take, List.take_take]
  rfl

namespace DecoderConfig
variable {c : DecoderConfig} {bs bs' : List UInt8} {p : Packet}

theorem Verdict.exists_ok {v : Version} {r : Except Error Packet} (h : c.Verdict bs .ended r)
    (ha : c.Admits (Packet.tagOf bs) (Packet.countOf bs) v)
    (hl : v.packetLen (Packet.countOf bs).toNat ≤ bs.length) :
    ∃ p, r = .ok p ∧ p.version = v ∧ p.records.length = (Packet.countOf bs).toNat := by
  have hbase := Packet.le_packetLen v (Packet.countOf bs).toNat
  have hheader := v.headerLen_le_packetLen (Packet.countOf bs).toNat
  cases h with
  | cutInBase hshort => omega
  | refused _ hr => exact absurd hr ha.not_refuses
  | read _ ha' hb =>
    obtain rfl := Version.number_injective (ha'.tag.trans ha.tag.symm)
    cases hb with
    | cutInHeader hshort => omega
    | cutInRecord _ hshort => omega
    | whole _ hv hn => exact ⟨_, rfl, hv, hn⟩

/-- A datagram as long as one with a packet in it, with the same tag and count, has a packet with
as many records of the same version in it. -/
theorem exists_decode_ok (h : (c.decode bs).result = .ok p) (hlen : bs'.length = bs.length)
    (htag : Packet.tagOf bs' = Packet.tagOf bs) (hcount : Packet.countOf bs' = Packet.countOf bs) :
    ∃ p', (c.decode bs').result = .ok p' ∧ p'.version = p.version ∧
      p'.records.length = p.records.length := by
  obtain ⟨hv, hend⟩ := decode_ok_iff.mp h
  obtain ⟨r, hr, -⟩ := decode_run (c := c) bs'
  cases hv with
  | read _ ha hb =>
    cases hb with
    | whole hn hv hrecords =>
      -- The version was admitted for its tag and count, which the other bytes have as well.
      subst hv
      rw [← htag, ← hcount] at ha
      rw [← hcount, ← hlen] at hn
      obtain ⟨p', rfl, hversion, hnumber⟩ := hr.exists_ok ha hn
      have hsame : p'.records.length = p.records.length := by rw [hnumber, hrecords, hcount]
      refine ⟨p', decode_ok_iff.mpr ⟨hr, ?_⟩, hversion, hsame⟩
      rwa [hlen, hversion, hsame]

theorem speltBy_slice_of_decode (h : (c.decode bs).result = .ok p) {k : Nat} {r : FlowRecord}
    (hr : p.records[k]? = some r) (f : CommonField) :
    (f.value r).SpeltBy (slice bs (f.placeIn p.version k)) := by
  obtain ⟨ht, hpre⟩ := takes_of_decode h
  have hv : r.version = p.version := ht.consistent.records r (List.mem_of_getElem? hr)
  have hslice : slice bs (f.placeIn p.version k) = slice r.encode (f.place p.version) :=
    Packet.slice_record ht.consistent.records hpre hr (f.place_mem p.version)
  rw [hslice, ← hv]
  exact f.speltBy_slice r

/-- Whatever else changes behind the header, the accessor of a record returns the same value as
long as the bytes at its own place stay as they are. -/
theorem exists_value_of_slice_eq (h : (c.decode bs).result = .ok p) {k : Nat} {r : FlowRecord}
    (hr : p.records[k]? = some r) (f : CommonField) (hlen : bs'.length = bs.length)
    (hfront : bs'.take 4 = bs.take 4)
    (hslice : slice bs' (f.placeIn p.version k) = slice bs (f.placeIn p.version k)) :
    ∃ p' r', (c.decode bs').result = .ok p' ∧ p'.version = p.version ∧
      p'.records[k]? = some r' ∧ f.value r' = f.value r := by
  have htag : Packet.tagOf bs' = Packet.tagOf bs := by
    rw [← Packet.tagOf_take, hfront, Packet.tagOf_take]
  have hcount : Packet.countOf bs' = Packet.countOf bs := by
    rw [← Packet.countOf_take, hfront, Packet.countOf_take]
  obtain ⟨p', hp', hversion, hnumber⟩ := exists_decode_ok h hlen htag hcount
  have hk : k < p'.records.length := by
    rw [hnumber]
    exact (List.getElem?_eq_some_iff.mp hr).1
  have hr' : p'.records[k]? = some p'.records[k] := List.getElem?_eq_getElem hk
  have hspelt := speltBy_slice_of_decode h hr f
  have hspelt' := speltBy_slice_of_decode hp' hr' f
  rw [hversion, hslice] at hspelt'
  refine ⟨p', _, hp', hversion, hr', hspelt'.unique hspelt ?_⟩
  rw [f.kind_value, f.kind_value]

end DecoderConfig

def FlowRecord.behindPorts (v : Version) : List String :=
  (((layout v).fields.map Field.name).drop 11).take 4

/-- Each accessor returns the only field value of its name, which the bytes at the field's offset
spell. So it does in a decoded packet, where no more of the datagram matters than those bytes, the
tag and the count. Versions order the fields behind the ports in different ways, and have no common
offset for the protocol. -/
theorem CommonField.value_located :
    (∀ (f : CommonField) (r : FlowRecord),
      r.fieldValues.filter (fun v => v.1 = f.name) = [(f.name, f.value r)] ∧
      (FlowRecord.layout r.version).offsetOf? f.name = some (f.offset r.version) ∧
      (f.value r).SpeltBy (slice r.encode (f.place r.version))) ∧
    (∀ (c : DecoderConfig) (bs : List UInt8) (p : Packet) (k : Nat) (r : FlowRecord),
      (c.decode bs).result = .ok p → p.records[k]? = some r → ∀ f : CommonField,
        (f.value r).SpeltBy (slice bs (f.placeIn p.version k)) ∧
        ∀ bs' : List UInt8, bs'.length = bs.length → bs'.take 4 = bs.take 4 →
          slice bs' (f.placeIn p.version k) = slice bs (f.placeIn p.version k) →
          ∃ p' r', (c.decode bs').result = .ok p' ∧ p'.version = p.version ∧
            p'.records[k]? = some r' ∧ f.value r' = f.value r) ∧
    (FlowRecord.behindPorts .v1 = ["pad1", "protocol", "tos", "tcp_flags"] ∧
      FlowRecord.behindPorts .v5 = ["pad1", "tcp_flags", "protocol", "tos"] ∧
      FlowRecord.behindPorts .v7 = ["pad", "tcp_flags", "protocol", "tos"]) ∧
    (FlowRecord.layout .v1).offsetOf? "protocol" = some 38 ∧
      (FlowRecord.layout .v5).offsetOf? "protocol" = some 38 ∧
      (FlowRecord.layout .v7).offsetOf? "protocol" = some 39 := by
  refine ⟨?_, ?_, by decide, by decide⟩
  · intro f r
    exact ⟨f.filter_fieldValues r, f.offsetOf?_name r.version, f.speltBy_slice r⟩
  · intro c bs p k r hp hr f
    refine ⟨DecoderConfig.speltBy_slice_of_decode hp hr f, ?_⟩
    intro bs' hlen hfront hslice
    exact DecoderConfig.exists_value_of_slice_eq hp hr f hlen hfront hslice

theorem CommonField.value_located_query :
    (DecoderConfig.default.decode Packet.query.encode).result = .ok .query ∧
    (FieldValue.u8 17).SpeltBy (slice Packet.query.encode (62, ⟨"protocol", .u8⟩)) ∧
    ∃ p r, (DecoderConfig.default.decode (Packet.query.encode.set 63 255)).result = .ok p ∧
      p.records[0]? = some r ∧ r.protocol = 17 := by
  obtain ⟨-, hlocated, -⟩ := CommonField.value_located
  have htakes : DecoderConfig.default.Takes .query :=
    ⟨⟨rfl, rfl, by decide⟩, by decide, by decide⟩
  obtain ⟨hspelt, hchanged⟩ := hlocated _ _ _ 0 _ htakes.decode_encode rfl .protocol
  obtain ⟨p, r, hp, -, hr, hvalue⟩ := hchanged (Packet.query.encode.set 63 255) (by decide)
    (by decide) (by decide)
  exact ⟨htakes.decode_encode, hspelt, p, r, hp, hr, FieldValue.u8.inj hvalue⟩

end NetFlow
