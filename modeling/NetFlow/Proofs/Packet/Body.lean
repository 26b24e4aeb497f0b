import NetFlow.Packet.Decoder
import NetFlow.Proofs.Record.WireForm

/-! A packet behind the common part of its header: a reader of fields that the version and
the announced number of records fix, and the lengths that go with it. -/
namespace NetFlow
open Layout

theorem Version.headerLen_eq (v : Version) : v.headerLen = size (Header.layout v).fields := by
  cases v <;> exact len_eq_size _

theorem Version.recordLen_eq (v : Version) : v.recordLen = size (FlowRecord.layout v).fields := by
  cases v <;> exact len_eq_size _

def Version.packetLen (v : Version) (n : Nat) : Nat := v.headerLen + n * v.recordLen

theorem Header.encodedLen_eq (h : Header) : h.encodedLen = h.kind.headerLen := by
  cases h <;> rfl

theorem Header.encode_length (h : Header) : h.encode.length = h.encodedLen := by
  cases h with
  | v1 h => exact ((Record.format HeaderBase).length (a := h) trivial).trans (len_eq_size _).symm
  | v5 h => exact ((Record.format V5Header).length (a := h) trivial).trans (len_eq_size _).symm
  | v7 h => exact ((Record.format V7Header).length (a := h) trivial).trans (len_eq_size _).symm

theorem FlowRecord.encode_length (r : FlowRecord) : r.encode.length = r.encodedLen := by
  rw [(FlowRecord.format r.version).length rfl, encodedLen, Version.recordLen_eq]

namespace Packet

/-- Tag, count and records say the same about the version and the number of records. -/
structure Consistent (p : Packet) : Prop where
  tag : p.header.version = p.version.number
  count : p.header.count.toNat = p.records.length
  records : ∀ r ∈ p.records, r.version = p.version

theorem encodedLen_eq_sum (p : Packet) :
    p.encodedLen = p.header.encodedLen + (p.records.map FlowRecord.encodedLen).sum := by
  have h : ∀ (rs : List FlowRecord) (n : Nat),
      rs.foldl (fun n r => n + r.encodedLen) n = n + (rs.map FlowRecord.encodedLen).sum := by
    intro rs
    induction rs with
    | nil => intro n; rfl
    | cons r rs ih => intro n; simp [ih, Nat.add_assoc]
  exact h p.records p.header.encodedLen

theorem encode_eq_append (p : Packet) :
    p.encode = p.header.encode ++ p.records.flatMap FlowRecord.encode := by
  rw [encode, foldl_write FlowRecord.encodeInto_eq, Header.encodeInto_eq, List.nil_append]

theorem encode_length (p : Packet) : p.encode.length = p.encodedLen := by
  rw [encode_eq_append, List.length_append, Header.encode_length, encodedLen_eq_sum, List.length_flatMap]
  simp only [FlowRecord.encode_length]

theorem encodedLen_eq {p : Packet} (h : ∀ r ∈ p.records, r.version = p.version) :
    p.encodedLen = p.version.packetLen p.records.length := by
  have hr : p.records.map FlowRecord.encodedLen =
      List.replicate p.records.length p.version.recordLen := by
    refine List.eq_replicate_iff.mpr ⟨by simp, ?_⟩
    intro n hn
    obtain ⟨r, hr, rfl⟩ := List.mem_map.mp hn
    rw [FlowRecord.encodedLen, h r hr]
  rw [encodedLen_eq_sum, hr, List.sum_replicate_nat, Header.encodedLen_eq]
  rfl

theorem Consistent.length {p : Packet} (h : p.Consistent) :
    p.encode.length = p.version.packetLen p.records.length := by
  rw [encode_length, encodedLen_eq h.records]

def rest (p : Packet) : List UInt8 := p.header.tail ++ p.records.flatMap FlowRecord.encode

theorem encode_eq (p : Packet) : p.encode = Record.encode p.header.base ++ p.rest := by
  rw [encode_eq_append, Header.encode_eq, rest, List.append_assoc]

def readRest (b : HeaderBase) (v : Version) (n : Nat) : ReadM Packet := do
  let h ← Header.readAfterBase b v
  let rs ← Reader.times (FlowRecord.readAs v) n
  return ⟨h, rs⟩

def restFields (v : Version) (n : Nat) : List Field :=
  Header.added v ++ (List.replicate n (FlowRecord.layout v).fields).flatten

theorem readRest_eq (b : HeaderBase) (v : Version) (n : Nat) :
    readRest b v n = (fun p => ⟨p.1, p.2⟩) <$> (do
      let h ← Header.readAfterBase b v
      let rs ← Reader.times (FlowRecord.readAs v) n
      return (h, rs)) := by
  simp [readRest, map_bind]

theorem restFormat (b : HeaderBase) (v : Version) (n : Nat) :
    Format (restFields v n) (readRest b v n) rest fun p =>
      (p.version = v ∧ p.header.base = b) ∧
        p.records.length = n ∧ ∀ r ∈ p.records, r.version = v := by
  rw [readRest_eq]
  refine ((Header.restFormat b v).pair ((FlowRecord.format v).times n)).map
    (fun _ _ => rfl) (fun _ h => h) ?_
  intro p hp
  exact ⟨(p.header, p.records), hp, rfl⟩

theorem encode_injective {p q : Packet} {v : Version} {n : Nat}
    (hp : p.version = v ∧ p.records.length = n ∧ ∀ r ∈ p.records, r.version = v)
    (hq : q.version = v ∧ q.records.length = n ∧ ∀ r ∈ q.records, r.version = v)
    (h : p.encode = q.encode) : p = q := by
  rw [encode_eq, encode_eq] at h
  have hl : (Record.encode p.header.base).length = (Record.encode q.header.base).length := by
    rw [(Record.format HeaderBase).length trivial, (Record.format HeaderBase).length trivial]
  obtain ⟨hb, hr⟩ := List.append_inj h hl
  have hb := (Record.format HeaderBase).injective trivial trivial hb
  exact (restFormat p.header.base v n).injective ⟨⟨hp.1, rfl⟩, hp.2⟩ ⟨⟨hq.1, hb.symm⟩, hq.2⟩ hr

theorem size_base : size (Record.layout HeaderBase).fields = 16 := rfl

theorem take_encode_append (p : Packet) (t : List UInt8) :
    (p.encode ++ t).take 16 = Record.encode p.header.base := by
  rw [encode_eq, List.append_assoc]
  exact List.take_left' ((Record.format HeaderBase).length trivial)

theorem size_added (v : Version) : 16 + size (Header.added v) = v.headerLen := by
  rw [← size_base, ← size_append, ← Header.layout_fields, ← Version.headerLen_eq]

theorem le_packetLen (v : Version) (n : Nat) : 16 ≤ v.packetLen n := by
  rw [Version.packetLen, ← size_added]
  omega

theorem size_restFields (v : Version) (n : Nat) :
    16 + size (restFields v n) = v.packetLen n := by
  rw [restFields, size_append, size_repeat, ← Nat.add_assoc, size_added,
    ← Version.recordLen_eq, Version.packetLen]

end Packet
end NetFlow
