import NetFlow.Proofs.Packet.Body

/-! What a decoder has to make of given bytes, said without a reader: by the lengths, the
tag and the count in the bytes, and the layout entry within which they end. -/
namespace NetFlow
open Layout

def Packet.tagOf (bs : List UInt8) : UInt16 := UInt16.ofNat (BigEndian.value (bs.take 2))

def Packet.countOf (bs : List UInt8) : UInt16 :=
  UInt16.ofNat (BigEndian.value ((bs.drop 2).take 2))

/-- The verdict on a packet of `n` records, once version and number are settled. A cut falls
into the header or, at the same place in each record, into one of the records. -/
inductive Version.Body (v : Version) (n : Nat) (bs : List UInt8) (e : Failure) :
    Except Error Packet → Prop where
  | cutInHeader {p : Nat × Field} : bs.length < v.headerLen → p ∈ (Header.layout v).offsets →
      Covers p bs.length → v.Body n bs e (.error (e.error p.2.name p.1 p.2.width))
  | cutInRecord {p : Nat × Field} : v.headerLen ≤ bs.length → bs.length < v.packetLen n →
      p ∈ (FlowRecord.layout v).offsets →
      Covers p ((bs.length - v.headerLen) % v.recordLen) →
      v.Body n bs e (.error (e.error p.2.name
        (v.headerLen + (bs.length - v.headerLen) / v.recordLen * v.recordLen + p.1) p.2.width))
  | whole {p : Packet} : v.packetLen n ≤ bs.length → p.version = v → p.records.length = n →
      (∀ r ∈ p.records, r.version = v) → p.encode = bs.take (v.packetLen n) →
      v.Body n bs e (.ok p)

namespace DecoderConfig
variable (c : DecoderConfig)

/-- Why a packet with this tag and count is not read any further. -/
inductive Refuses (tag count : UInt16) : Error → Prop where
  | unsupported : (∀ v : Version, v.number ≠ tag) → Refuses tag count (.unsupportedVersion tag)
  | disabled {v : Version} : v.number = tag → v ∉ c.versions →
      Refuses tag count (.versionDisabled v)
  | tooMany {v : Version} : v.number = tag → v ∈ c.versions → c.maxRecordsFor v < count →
      Refuses tag count (.tooManyRecords v count (c.maxRecordsFor v))

structure Admits (tag count : UInt16) (v : Version) : Prop where
  tag : v.number = tag
  accepted : v ∈ c.versions
  count : count ≤ c.maxRecordsFor v

/-- The verdict on bytes behind which the source ends with `e`. Bytes behind the packet do
not matter. -/
inductive Verdict (bs : List UInt8) (e : Failure) : Except Error Packet → Prop where
  | cutInBase {p : Nat × Field} : bs.length < 16 → p ∈ (Record.layout HeaderBase).offsets →
      Covers p bs.length → Verdict bs e (.error (e.error p.2.name p.1 p.2.width))
  | refused {x : Error} : 16 ≤ bs.length →
      c.Refuses (Packet.tagOf bs) (Packet.countOf bs) x → Verdict bs e (.error x)
  | read {v : Version} {r : Except Error Packet} : 16 ≤ bs.length →
      c.Admits (Packet.tagOf bs) (Packet.countOf bs) v →
      v.Body (Packet.countOf bs).toNat bs e r → Verdict bs e r

end DecoderConfig

theorem Packet.tagOf_eq {b : HeaderBase} {bs : List UInt8}
    (h : Record.encode b = bs.take 16) : Packet.tagOf bs = b.version := by
  have ht : bs.take 2 = BigEndian.encode 2 b.version.toNat := by
    have h2 : bs.take 2 = (bs.take 16).take 2 := by simp [List.take_take]
    rw [h2, ← h]
    rfl
  rw [tagOf, ht, BigEndian.value_encode_of_lt b.version.toNat_lt, UInt16.ofNat_toNat]

theorem Packet.countOf_eq {b : HeaderBase} {bs : List UInt8}
    (h : Record.encode b = bs.take 16) : Packet.countOf bs = b.count := by
  have ht : (bs.drop 2).take 2 = BigEndian.encode 2 b.count.toNat := by
    have h2 : (bs.drop 2).take 2 = ((bs.take 16).drop 2).take 2 := by
      simp [List.drop_take, List.take_take]
    rw [h2, ← h]
    rfl
  rw [countOf, ht, BigEndian.value_encode_of_lt b.count.toNat_lt, UInt16.ofNat_toNat]

theorem Packet.tagOf_encode_append (p : Packet) (t : List UInt8) :
    tagOf (p.encode ++ t) = p.header.version :=
  tagOf_eq (p.take_encode_append t).symm

theorem Packet.countOf_encode_append (p : Packet) (t : List UInt8) :
    countOf (p.encode ++ t) = p.header.count :=
  countOf_eq (p.take_encode_append t).symm

theorem Version.number_injective {v w : Version} (h : v.number = w.number) : v = w := by
  have hv := ofNumber?_number v
  rw [h, ofNumber?_number w] at hv
  exact (Option.some.inj hv).symm

theorem Version.headerLen_le_packetLen (v : Version) (n : Nat) : v.headerLen ≤ v.packetLen n :=
  Nat.le_add_right _ _

theorem covers_mod {h r k i : Nat} {q : Nat × Field} (hq : q.1 + q.2.width ≤ r)
    (hc : Covers (h + k * r + q.1, q.2) i) : (i - h) / r = k ∧ Covers q ((i - h) % r) := by
  obtain ⟨hlo, hhi⟩ := hc
  dsimp only at hlo hhi
  have hk : (i - h) / r = k := by
    apply Nat.div_eq_of_lt_le
    · omega
    · rw [Nat.succ_mul]
      omega
  have hm := Nat.mod_add_div (i - h) r
  rw [hk, Nat.mul_comm] at hm
  exact ⟨hk, by omega, by omega⟩

theorem Version.Body.cut {v : Version} {n : Nat} {bs : List UInt8} {e : Failure}
    {p : Nat × Field} (hp : p ∈ place 16 (Packet.restFields v n)) (hc : Covers p bs.length) :
    v.Body n bs e (.error (e.error p.2.name p.1 p.2.width)) := by
  have hh := Packet.size_added v
  rw [Packet.restFields, place_append, List.mem_append, hh] at hp
  cases hp with
  | inl hp =>
    refine .cutInHeader ?_ ?_ hc
    · have := mem_place_bounds hp
      have := hc.2
      omega
    · rw [offsets, Header.layout_fields, place_append, List.mem_append]
      exact .inr hp
  | inr hp =>
    -- The field stands in the copy of the record layout that the quotient counts.
    have hlen := mem_place_bounds hp
    obtain ⟨k, -, q, hq, rfl⟩ := mem_place_repeat hp
    have hr := (mem_place_bounds hq).2
    rw [size_repeat, ← v.recordLen_eq] at hlen
    rw [Nat.zero_add, ← v.recordLen_eq] at hr
    rw [← v.recordLen_eq] at hc ⊢
    obtain ⟨hk, hm⟩ := covers_mod hr hc
    have hbody := Version.Body.cutInRecord (n := n) (e := e) ?_ ?_ hq hm
    · rwa [hk] at hbody
    · have := hc.1
      dsimp only at this
      omega
    · have := hc.2
      dsimp only at this hlen
      rw [packetLen]
      omega

theorem Version.Body.unique {v : Version} {n : Nat} {bs : List UInt8} {e : Failure}
    {r r' : Except Error Packet} (h : v.Body n bs e r) (h' : v.Body n bs e r') : r = r' := by
  have hn := v.headerLen_le_packetLen n
  cases h with
  | cutInHeader hl hp hc =>
    cases h' with
    | cutInHeader _ hq hc' => rw [covers_unique hp hq hc hc']
    | cutInRecord hl' => omega
    | whole hl' => omega
  | cutInRecord hl hl₂ hp hc =>
    cases h' with
    | cutInHeader hl' => omega
    | cutInRecord _ _ hq hc' => rw [covers_unique hp hq hc hc']
    | whole hl' => omega
  | whole hl hv hr hrs he =>
    cases h' with
    | cutInHeader hl' => omega
    | cutInRecord _ hl' => omega
    | whole _ hv' hr' hrs' he' =>
      rw [Packet.encode_injective ⟨hv, hr, hrs⟩ ⟨hv', hr', hrs'⟩ (he.trans he'.symm)]

namespace DecoderConfig
variable {c : DecoderConfig} {tag count : UInt16}

theorem Refuses.unique {x y : Error} (h : c.Refuses tag count x) (h' : c.Refuses tag count y) :
    x = y := by
  cases h with
  | unsupported hv =>
    cases h' with
    | unsupported => rfl
    | disabled hw => exact absurd hw (hv _)
    | tooMany hw => exact absurd hw (hv _)
  | disabled hv ha =>
    cases h' with
    | unsupported hw => exact absurd hv (hw _)
    | disabled hw => rw [Version.number_injective (hv.trans hw.symm)]
    | tooMany hw ha' =>
      obtain rfl := Version.number_injective (hv.trans hw.symm)
      exact absurd ha' ha
  | tooMany hv ha =>
    cases h' with
    | unsupported hw => exact absurd hv (hw _)
    | disabled hw ha' =>
      obtain rfl := Version.number_injective (hv.trans hw.symm)
      exact absurd ha ha'
    | tooMany hw => rw [Version.number_injective (hv.trans hw.symm)]

theorem Admits.not_refuses {v : Version} {x : Error} (h : c.Admits tag count v) :
    ¬ c.Refuses tag count x := by
  intro h'
  cases h' with
  | unsupported hw => exact hw v h.tag
  | disabled hw ha =>
    obtain rfl := Version.number_injective (hw.trans h.tag.symm)
    exact ha h.accepted
  | tooMany hw _ hc =>
    obtain rfl := Version.number_injective (hw.trans h.tag.symm)
    exact absurd h.count (UInt16.not_le.mpr hc)

theorem Verdict.unique {bs : List UInt8} {e : Failure} {r r' : Except Error Packet}
    (h : c.Verdict bs e r) (h' : c.Verdict bs e r') : r = r' := by
  cases h with
  | cutInBase hl hp hc =>
    cases h' with
    | cutInBase _ hq hc' => rw [covers_unique hp hq hc hc']
    | refused hl' => omega
    | read hl' => omega
  | refused hl hr =>
    cases h' with
    | cutInBase hl' => omega
    | refused _ hr' => rw [hr.unique hr']
    | read _ ha => exact absurd hr ha.not_refuses
  | read hl ha hb =>
    cases h' with
    | cutInBase hl' => omega
    | refused _ hr' => exact absurd hr' ha.not_refuses
    | read _ ha' hb' =>
      obtain rfl := Version.number_injective (ha.tag.trans ha'.tag.symm)
      exact hb.unique hb'

/-- The packets that a decoder returns are those that are consistent and within its settings,
and it returns them for all bytes that begin with their encoding. -/
theorem verdict_ok_iff {bs : List UInt8} {e : Failure} {p : Packet} :
    c.Verdict bs e (.ok p) ↔ p.Consistent ∧ p.version ∈ c.versions ∧
      p.records.length ≤ (c.maxRecordsFor p.version).toNat ∧ p.encode <+: bs := by
  constructor
  · intro h
    cases h with
    | read hl ha hb =>
      cases hb with
      | whole hn hv hr hrs he =>
        subst hv
        -- The bytes begin with the encoding, so the tag and the count are the packet's own.
        obtain ⟨t, rfl⟩ : p.encode <+: bs := he ▸ List.take_prefix _ _
        obtain ⟨htag, hacc, hcount⟩ := ha
        rw [Packet.tagOf_encode_append] at htag
        rw [Packet.countOf_encode_append] at hr hcount
        refine ⟨⟨htag.symm, hr.symm, hrs⟩, hacc, ?_, List.prefix_append _ _⟩
        rw [hr]
        exact UInt16.le_iff_toNat_le.mp hcount
  · rintro ⟨hp, ha, hm, t, rfl⟩
    have hlen := hp.length
    have hle := Packet.le_packetLen p.version p.records.length
    have hn : (Packet.countOf (p.encode ++ t)).toNat = p.records.length := by
      rw [Packet.countOf_encode_append]
      exact hp.count
    refine .read ?_ ⟨?_, ha, ?_⟩ (.whole ?_ rfl hn.symm hp.records ?_)
    · rw [List.length_append]
      omega
    · rw [Packet.tagOf_encode_append]
      exact hp.tag.symm
    · rw [UInt16.le_iff_toNat_le, hn]
      exact hm
    · rw [hn, ← hlen, List.length_append]
      exact Nat.le_add_right _ _
    · rw [hn, ← hlen, List.take_left]

end DecoderConfig
end NetFlow
