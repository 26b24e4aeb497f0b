import NetFlow.Proofs.Packet.Filtering
import NetFlow.Proofs.Wire.Ending

/-! Records that extend another one, read in two stages: the base, and then what they add to it. A
decoder does so with headers, for it has to look at the version in between. What comes of the two
stages is what comes of reading the record at once. -/
namespace NetFlow
open Layout

variable {α β γ δ : Type}

/-- What `layout` describes is read at once by `read`, or by `readBelow` as far as `below` and by
`readAfter` from there on. The second stage takes any base, wherever it comes from. -/
structure Staged (below layout : Layout) (readBelow : ReadM β) (readAfter : β → ReadM α)
    (read : ReadM α) (base : α → β) (encodeBelow : β → List UInt8) (encode : α → List UInt8) :
    Prop where
  succeeds : ∀ (b : β) (s : Source) (o : Nat), s.Steady →
    ((∃ a r, readAfter b ⟨s, o⟩ = .ok a r) ↔ layout.len - below.len ≤ s.available)
  adds : ∀ (b : β) (s : Source) (o : Nat) (a : α) (r : Reader), s.Steady →
    readAfter b ⟨s, o⟩ = .ok a r →
    r.offset = o + (layout.len - below.len) ∧
      r.source.data = s.data.drop (layout.len - below.len) ∧ base a = b ∧
      encode a = encodeBelow b ++ s.data.take (layout.len - below.len)
  whole : ∀ r : Reader, (readBelow >>= readAfter) r = read r

theorem Schema.staged (base : Schema) (baseKey typeName label : String) (own : List Field) :
    Staged base.layout (Schema.extending base baseKey typeName label own).layout base.read
      (Schema.readAfterBase own) (Schema.extending base baseKey typeName label own).read Prod.fst
      base.encode (Schema.extending base baseKey typeName label own).encode := by
  have hadded : (Schema.extending base baseKey typeName label own).layout.len - base.layout.len =
      size own := by
    rw [Schema.layout, len, foldl_width, Nat.add_sub_cancel_left]
  constructor
  · intro b s o hs
    rw [hadded, Schema.readAfterBase_eq]
    rw [← (Row.format own).ok_iff o hs]
    constructor
    · rintro ⟨a, r, hr⟩
      obtain ⟨row, hrow, -⟩ := exists_of_map_ok hr
      exact ⟨row, r, hrow⟩
    · rintro ⟨row, r, hrow⟩
      exact ⟨(b, row), r, map_ok _ hrow⟩
  · intro b s o a r hs hr
    rw [Schema.readAfterBase_eq] at hr
    obtain ⟨row, hrow, rfl⟩ := exists_of_map_ok hr
    obtain ⟨hl, hoffset, hpast, -, he⟩ := (Row.format own).of_ok hs hrow
    rw [hadded]
    refine ⟨hoffset, hpast.data, rfl, ?_⟩
    rw [Schema.encode, he, s.take_deliverable hl]
  · intro r
    rfl

theorem Staged.map {below layout : Layout} {readBelow : ReadM β} {readAfter : β → ReadM α}
    {read : ReadM α} {base : α → β} {encodeBelow : β → List UInt8} {encode : α → List UInt8}
    (h : Staged below layout readBelow readAfter read base encodeBelow encode)
    {f : α → γ} {g : β → δ} {g' : δ → β} {base' : γ → δ} {encodeBelow' : δ → List UInt8}
    {encode' : γ → List UInt8} (hg : ∀ b, g' (g b) = b) (hg' : ∀ d, g (g' d) = d)
    (hbase : ∀ a, base' (f a) = g (base a)) (hbelow : ∀ d, encodeBelow' d = encodeBelow (g' d))
    (hencode : ∀ a, encode' (f a) = encode a) :
    Staged below layout (g <$> readBelow) (fun d => f <$> readAfter (g' d)) (f <$> read) base'
      encodeBelow' encode' where
  succeeds d s o hs := by
    rw [← h.succeeds (g' d) s o hs]
    constructor
    · rintro ⟨c, r, hc⟩
      obtain ⟨a, ha, -⟩ := exists_of_map_ok hc
      exact ⟨a, r, ha⟩
    · rintro ⟨a, r, ha⟩
      exact ⟨f a, r, map_ok f ha⟩
  adds d s o c r hs hc := by
    obtain ⟨a, ha, rfl⟩ := exists_of_map_ok hc
    obtain ⟨hoffset, hdata, hb, he⟩ := h.adds (g' d) s o a r hs ha
    refine ⟨hoffset, hdata, ?_, ?_⟩
    · rw [hbase, hb, hg']
    · rw [hencode, hbelow, he]
  whole r := by
    have hwhole : readBelow >>= readAfter = read := funext h.whole
    rw [bind_map_left, ← hwhole, map_bind]
    simp only [hg]

theorem V5Header.staged :
    Staged (Record.layout HeaderBase) (Record.layout V5Header) (Record.read HeaderBase)
      V5Header.readAfterBase (Record.read V5Header) V5Header.base Record.encode Record.encode :=
  (HeaderBase.schema.staged "base" "V5Header" "NetFlow v5 header" V5Header.own).map
    (Record.toRow_ofRow (α := HeaderBase)) (Record.ofRow_toRow (α := HeaderBase))
    (fun _ => rfl) (fun _ => rfl) fun _ => rfl

theorem V7Header.staged :
    Staged (Record.layout HeaderBase) (Record.layout V7Header) (Record.read HeaderBase)
      V7Header.readAfterBase (Record.read V7Header) V7Header.base Record.encode Record.encode :=
  (HeaderBase.schema.staged "base" "V7Header" "NetFlow v7 header" V7Header.own).map
    (Record.toRow_ofRow (α := HeaderBase)) (Record.ofRow_toRow (α := HeaderBase))
    (fun _ => rfl) (fun _ => rfl) fun _ => rfl

namespace Header

/-- The header is what its own type decodes from the source. -/
def DecodesFrom (s : Source) : Header → Prop
  | .v1 h => ∃ r, Record.decode HeaderBase s = .ok h r
  | .v5 h => ∃ r, Record.decode V5Header s = .ok h r
  | .v7 h => ∃ r, Record.decode V7Header s = .ok h r

theorem readAs_eq (v : Version) :
    readAs v = Record.read HeaderBase >>= fun b => readAfterBase b v := by
  cases v with
  | v1 => rw [readAs, map_eq_pure_bind]; rfl
  | v5 => rw [readAs, ← funext V5Header.staged.whole, map_bind]; rfl
  | v7 => rw [readAs, ← funext V7Header.staged.whole, map_bind]; rfl

theorem decodesFrom_of_readAs {v : Version} {s : Source} {h : Header} {r : Reader}
    (hr : readAs v (.start s) = .ok h r) : h.DecodesFrom s := by
  cases v with
  | v1 =>
    obtain ⟨b, hb, rfl⟩ := exists_of_map_ok hr
    exact ⟨r, hb⟩
  | v5 =>
    obtain ⟨b, hb, rfl⟩ := exists_of_map_ok hr
    exact ⟨r, hb⟩
  | v7 =>
    obtain ⟨b, hb, rfl⟩ := exists_of_map_ok hr
    exact ⟨r, hb⟩

end Header

namespace DecoderConfig
variable {c : DecoderConfig} {s : Source} {p : Packet} {d : Decoding}

theorem exists_of_lift_ok {read : ReadM α} {a : α} {d t : Decoding}
    (h : Decoding.lift read d = .ok a t) : read d.reader = .ok a t.reader := by
  rw [Decoding.lift] at h
  cases hr : read d.reader with
  | ok b r =>
    rw [hr] at h
    cases h
    rfl
  | error e r =>
    rw [hr] at h
    cases h

theorem eq_of_acceptedVersion {b : HeaderBase} {v : Version} {t : Decoding}
    (h : c.acceptedVersion b d = .ok v t) : t = d := by
  obtain ⟨x, -, hx⟩ | ⟨w, -, hw⟩ := c.acceptedVersion_run b d
  · rw [hx] at h
    cases h
  · rw [hw] at h
    cases h
    rfl

theorem decodesFrom_of_readPacket (h : c.readPacket (.start s) = .ok p d) :
    p.header.DecodesFrom s := by
  rw [readPacket] at h
  obtain ⟨b, t, hbase, hrest⟩ := exists_of_bind_ok h
  obtain ⟨v, u, hversion, hbody⟩ := exists_of_bind_ok hrest
  obtain rfl := eq_of_acceptedVersion hversion
  obtain ⟨hd, w, hheader, hrecords⟩ := exists_of_bind_ok hbody
  obtain ⟨rs, x, -, hend⟩ := exists_of_bind_ok hrecords
  cases hend
  have hfirst : Record.read HeaderBase (.start s) = .ok b u.reader := exists_of_lift_ok hbase
  have hstages : Header.readAs v (.start s) = .ok hd w.reader := by
    rw [Header.readAs_eq]
    simp only [bind, EStateM.bind, hfirst]
    exact exists_of_lift_ok hheader
  exact Header.decodesFrom_of_readAs hstages

end DecoderConfig

/-- A declaration on top of another one is read in two stages or at once, with the same result, and
so are the headers of versions 5 and 7. The header of a packet, which the decoder reads in two
stages, is what its type decodes from the same source or datagram. -/
theorem declared_staged :
    (∀ (base : Schema) (baseKey typeName label : String) (own : List Field),
      Staged base.layout (Schema.extending base baseKey typeName label own).layout base.read
        (Schema.readAfterBase own) (Schema.extending base baseKey typeName label own).read Prod.fst
        base.encode (Schema.extending base baseKey typeName label own).encode) ∧
    Staged (Record.layout HeaderBase) (Record.layout V5Header) (Record.read HeaderBase)
      V5Header.readAfterBase (Record.read V5Header) V5Header.base Record.encode Record.encode ∧
    Staged (Record.layout HeaderBase) (Record.layout V7Header) (Record.read HeaderBase)
      V7Header.readAfterBase (Record.read V7Header) V7Header.base Record.encode Record.encode ∧
    (∀ (c : DecoderConfig) (s : Source) (p : Packet),
      (c.decodeFrom s).1.result = .ok p → p.header.DecodesFrom s) ∧
    ∀ (c : DecoderConfig) (bs : List UInt8) (p : Packet),
      (c.decode bs).result = .ok p → p.header.DecodesFrom (.ofBytes bs) := by
  have hpacket : ∀ (c : DecoderConfig) (s : Source) (p : Packet),
      (c.decodeFrom s).1.result = .ok p → p.header.DecodesFrom s := by
    intro c s p hp
    obtain ⟨d, hd, -⟩ := DecoderConfig.exists_readPacket_ok hp
    exact DecoderConfig.decodesFrom_of_readPacket hd
  refine ⟨Schema.staged, V5Header.staged, V7Header.staged, hpacket, ?_⟩
  intro c bs p hp
  exact hpacket c _ p (DecoderConfig.decode_ok_iff_decodeFrom.mp hp).1

def Source.addedFields : Source where
  data := [0, 0, 0, 8, 0, 0, 0, 1, 5]
  chunk := some 3
  interrupts := true
  interruptNow := true
  fault := none

theorem declared_staged_addedFields :
    (Source.addedFields.Steady ∧
      ∃ h r, V7Header.readAfterBase ⟨9, 0, 1, 2, 3⟩ ⟨.addedFields, 16⟩ = .ok h r ∧
        r.offset = 24 ∧ r.source.data = [5] ∧ h.base = ⟨9, 0, 1, 2, 3⟩ ∧
        Record.encode h = Record.encode (⟨9, 0, 1, 2, 3⟩ : HeaderBase) ++ [0, 0, 0, 8, 0, 0, 0, 1]) ∧
    (DecoderConfig.strict.decode Packet.query.encode).result = .ok .query ∧
      Packet.query.header.DecodesFrom (.ofBytes Packet.query.encode) := by
  obtain ⟨-, -, hv7, -, hpacket⟩ := declared_staged
  have hs : Source.addedFields.Steady := by decide
  obtain ⟨h, r, hr⟩ := (hv7.succeeds ⟨9, 0, 1, 2, 3⟩ .addedFields 16 hs).mpr (by decide)
  obtain ⟨hoffset, hdata, hbase, he⟩ := hv7.adds _ _ _ h r hs hr
  have hquery := DecoderConfig.strict_takes_query.decode_encode
  exact ⟨⟨hs, h, r, hr, hoffset, hdata, hbase, he⟩, hquery, hpacket _ _ _ hquery⟩

end NetFlow
