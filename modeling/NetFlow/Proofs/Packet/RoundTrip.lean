import NetFlow.Proofs.Packet.Build
import NetFlow.Proofs.Packet.Datagram

/-! Encoding and decoding undo each other, on exactly the packets that a decoder takes; by
default these are the packets that can be built. -/
namespace NetFlow

def Packet.query : Packet where
  header := .v5 ⟨⟨5, 1, 2000, 1700000000, 0⟩, 7, 1, 2, 0⟩
  records := [.v5 ⟨⟨10, 0, 0, 1⟩, ⟨10, 0, 0, 53⟩, .zero, 3, 4, 1, 72, 1000, 1040, 40000, 53, 0, 0,
    17, 0, 65000, 65001, 24, 16, 0xabcd⟩]

theorem Packet.build_query : build query.header query.records = .ok query := rfl

namespace DecoderConfig
variable {c : DecoderConfig} {p : Packet} {bs : List UInt8}

/-- A consistent packet that the settings let pass. -/
structure Takes (c : DecoderConfig) (p : Packet) : Prop where
  consistent : p.Consistent
  accepted : c.accepts p.version = true
  count : p.records.length ≤ (c.maxRecordsFor p.version).toNat

theorem verdict_ok_iff_takes {e : Failure} :
    c.Verdict bs e (.ok p) ↔ c.Takes p ∧ p.encode <+: bs := by
  rw [verdict_ok_iff]
  constructor
  · rintro ⟨hp, ha, hl, hpre⟩
    exact ⟨⟨hp, (c.accepts_iff _).mpr ha, hl⟩, hpre⟩
  · rintro ⟨ht, hpre⟩
    exact ⟨ht.consistent, (c.accepts_iff _).mp ht.accepted, ht.count, hpre⟩

theorem takes_of_decode (h : (c.decode bs).result = .ok p) : c.Takes p ∧ p.encode <+: bs :=
  verdict_ok_iff_takes.mp (decode_ok_iff.mp h).1

theorem encode_eq_take (h : (c.decode bs).result = .ok p) : p.encode = bs.take p.encodedLen := by
  rw [← p.encode_length]
  exact List.prefix_iff_eq_take.mp (takes_of_decode h).2

theorem Takes.decode_encode (h : c.Takes p) : (c.decode p.encode).result = .ok p := by
  have hv : c.Verdict p.encode .ended (.ok p) := verdict_ok_iff_takes.mpr ⟨h, List.prefix_rfl⟩
  exact decode_ok_iff.mpr ⟨hv, .inl h.consistent.length⟩

theorem Takes.decode_append (h : c.Takes p) {t : List UInt8} (ht : t ≠ []) :
    (c.decode (p.encode ++ t)).result =
      if c.allowTrailingBytes then .ok p else .error (.trailingBytes t.length) := by
  have hv : c.Verdict (p.encode ++ t) .ended (.ok p) :=
    verdict_ok_iff_takes.mpr ⟨h, List.prefix_append _ _⟩
  have hlen := h.consistent.length
  have hpos := List.length_pos_iff.mpr ht
  apply (decode_verdict c _).unique
  by_cases ha : c.allowTrailingBytes
  · rw [if_pos ha]
    exact .accepted hv (.inr ha)
  · have hb := DatagramVerdict.trailing hv (by rw [List.length_append]; omega)
      (Bool.not_eq_true _ ▸ ha)
    rw [if_neg ha]
    rwa [List.length_append, hlen, Nat.add_sub_cancel_left] at hb

theorem default_takes_iff :
    default.Takes p ↔ p.Consistent ∧ p.records.length ≤ p.version.maxRecords.toNat := by
  have ha : default.accepts p.version = true := by
    cases p.version <;> rfl
  constructor
  · intro h
    exact ⟨h.consistent, h.count⟩
  · rintro ⟨hp, hl⟩
    exact ⟨hp, ha, hl⟩

theorem default_takes_iff_build : default.Takes p ↔ ∃ h rs, Packet.build h rs = .ok p := by
  rw [default_takes_iff, Packet.exists_build_iff]

/-- Decoding an encoded packet gives the packet back exactly where the decoder takes it. Built
packets come back by default. What follows a packet that comes back does not change it. -/
theorem decode_encode_iff (c : DecoderConfig) (p : Packet) :
    ((c.decode p.encode).result = .ok p ↔ c.Takes p) ∧
    (∀ h rs, Packet.build h rs = .ok p →
      p.Consistent ∧ (default.decode p.encode).result = .ok p ∧
      ∀ (allow : Bool) (t : List UInt8), t ≠ [] →
        ({ default with allowTrailingBytes := allow }.decode (p.encode ++ t)).result =
          if allow then .ok p else .error (.trailingBytes t.length)) ∧
    ((c.decode p.encode).result = .ok p → ∀ t : List UInt8, t ≠ [] →
      (c.decode (p.encode ++ t)).result =
        if c.allowTrailingBytes then .ok p else .error (.trailingBytes t.length)) := by
  refine ⟨⟨?_, ?_⟩, ?_, ?_⟩
  · intro h
    exact (takes_of_decode h).1
  · intro h
    exact h.decode_encode
  · intro h rs hb
    have ht := default_takes_iff_build.mpr ⟨h, rs, hb⟩
    refine ⟨ht.consistent, ht.decode_encode, ?_⟩
    intro allow t hne
    have ht' : Takes { default with allowTrailingBytes := allow } p :=
      ⟨ht.consistent, ht.accepted, ht.count⟩
    exact ht'.decode_append hne
  · intro h t hne
    exact (takes_of_decode h).1.decode_append hne

theorem decode_encode_query :
    default.Takes .query ∧ (default.decode Packet.query.encode).result = .ok .query ∧
    (({ default with allowTrailingBytes := false } : DecoderConfig).decode
      (Packet.query.encode ++ [0])).result = .error (.trailingBytes 1) := by
  obtain ⟨htakes, hbuilt, -⟩ := decode_encode_iff default .query
  obtain ⟨-, hback, htail⟩ := hbuilt Packet.query.header Packet.query.records rfl
  exact ⟨htakes.mp hback, hback, htail false [0] (by decide)⟩

/-- A decoded packet is consistent and its encoding is what was read. So the bytes in front
are all that a packet can come from, and decoding by default gives the packets that can be
built. -/
theorem encode_of_decode (c : DecoderConfig) (p : Packet) :
    (∀ bs, (c.decode bs).result = .ok p →
      p.encode = bs.take p.encodedLen ∧
      p.encodedLen = p.version.headerLen + p.records.length * p.version.recordLen ∧
      p.encode.length = p.encodedLen ∧
      p.header.version = p.version.number ∧ p.header.count.toNat = p.records.length ∧
      (∀ r ∈ p.records, r.version = p.version) ∧
      p.records.length ≤ (c.maxRecordsFor p.version).toNat) ∧
    (∀ (d : DecoderConfig) bs bs', (c.decode bs).result = .ok p → (d.decode bs').result = .ok p →
      bs.take p.encodedLen = bs'.take p.encodedLen) ∧
    ((∃ bs, (default.decode bs).result = .ok p) ↔ ∃ h rs, Packet.build h rs = .ok p) ∧
    ((∃ bs, (default.decode bs).result = .ok p) →
      Packet.build p.header p.records = .ok p) := by
  refine ⟨?_, ?_, ⟨?_, ?_⟩, ?_⟩
  · intro bs h
    obtain ⟨ht, -⟩ := takes_of_decode h
    exact ⟨encode_eq_take h, Packet.encodedLen_eq ht.consistent.records, p.encode_length,
      ht.consistent.tag, ht.consistent.count, ht.consistent.records, ht.count⟩
  · intro d bs bs' h h'
    rw [← encode_eq_take h, ← encode_eq_take h']
  · rintro ⟨bs, h⟩
    exact default_takes_iff_build.mp (takes_of_decode h).1
  · intro h
    exact ⟨p.encode, (default_takes_iff_build.mpr h).decode_encode⟩
  · rintro ⟨bs, h⟩
    obtain ⟨hp, hl⟩ := default_takes_iff.mp (takes_of_decode h).1
    exact Packet.build_self hp hl

theorem encode_of_decode_query :
    (default.decode (Packet.query.encode ++ [1, 2])).result = .ok .query ∧
    Packet.query.encodedLen = 72 ∧
    Packet.query.encode = (Packet.query.encode ++ [1, 2]).take 72 := by
  have ht : default.Takes .query := default_takes_iff_build.mpr ⟨_, _, Packet.build_query⟩
  have hd : (default.decode (Packet.query.encode ++ [1, 2])).result = .ok .query :=
    ht.decode_append (by decide)
  obtain ⟨he, hl, -⟩ := (encode_of_decode default .query).1 _ hd
  have hl : Packet.query.encodedLen = 72 := hl
  rw [hl] at he
  exact ⟨hd, hl, he⟩

end DecoderConfig
end NetFlow
