import NetFlow.Proofs.Packet.AnySource

/-! What decoding a packet takes from a source. Every result accounts for it: a packet for its
own bytes, a refusal for the common part of the header, and a field that could not be read for
all that the source had to give. -/
namespace NetFlow
open Layout

namespace Packet

def fields (v : Version) (n : Nat) : List Field :=
  (Header.layout v).fields ++ (List.replicate n (FlowRecord.layout v).fields).flatten

/-- `f` is the field at `o` of a packet that begins with the bytes. Sixteen of them say which
version it is and how many records there are; fewer may belong to any packet. -/
def Expects (bs : List UInt8) (o : Nat) (f : Field) : Prop :=
  ∃ v n, (o, f) ∈ place 0 (fields v n) ∧
    (16 ≤ bs.length → v.number = tagOf bs ∧ n = (countOf bs).toNat)

theorem mem_fields_of_header {v : Version} {p : Nat × Field} (h : p ∈ (Header.layout v).offsets)
    (n : Nat) : p ∈ place 0 (fields v n) := by
  rw [fields, place_append]
  exact List.mem_append_left _ h

theorem mem_fields_of_record {v : Version} {n k : Nat} {p : Nat × Field} (hk : k < n)
    (h : p ∈ (FlowRecord.layout v).offsets) :
    (v.headerLen + k * v.recordLen + p.1, p.2) ∈ place 0 (fields v n) := by
  rw [fields, place_append, Nat.zero_add, ← v.headerLen_eq, v.recordLen_eq]
  exact List.mem_append_right _ (mem_place_repeat_of hk h v.headerLen)

end Packet

theorem Version.Body.cut_of_error {v : Version} {n : Nat} {bs : List UInt8} {e : Failure}
    {x : Error} (h : v.Body n bs e (.error x)) :
    ∃ p ∈ place 0 (Packet.fields v n), Covers p bs.length ∧
      x = e.error p.2.name p.1 p.2.width := by
  cases h with
  | cutInHeader _ hp hc => exact ⟨_, Packet.mem_fields_of_header hp n, hc, rfl⟩
  | @cutInRecord p hlo hhi hp hc =>
    have hk : (bs.length - v.headerLen) / v.recordLen < n := by
      apply Nat.div_lt_of_lt_mul
      rw [packetLen] at hhi
      rw [Nat.mul_comm]
      omega
    refine ⟨_, Packet.mem_fields_of_record hk hp, ?_, rfl⟩
    -- The position is the start of its record and what the remainder adds.
    have hsplit := Nat.mod_add_div' (bs.length - v.headerLen) v.recordLen
    obtain ⟨hfrom, hto⟩ := hc
    constructor <;> dsimp only <;> omega

namespace DecoderConfig
variable {c : DecoderConfig} {bs : List UInt8} {e : Failure}

theorem Verdict.error_cases {x : Error} (h : c.Verdict bs e (.error x)) :
    (16 ≤ bs.length ∧ c.Refuses (Packet.tagOf bs) (Packet.countOf bs) x) ∨
    ∃ o f, Packet.Expects bs o f ∧ Covers (o, f) bs.length ∧ x = e.error f.name o f.width := by
  cases h with
  | cutInBase hl hp hc =>
    refine .inr ⟨_, _, ⟨.v1, 0, Packet.mem_fields_of_header hp 0, ?_⟩, hc, rfl⟩
    intro h16
    omega
  | refused hl hr => exact .inl ⟨hl, hr⟩
  | @read v _ hl ha hb =>
    obtain ⟨p, hp, hc, hx⟩ := hb.cut_of_error
    exact .inr ⟨p.1, p.2, ⟨v, _, hp, fun _ => ⟨ha.tag, rfl⟩⟩, hc, hx⟩

end DecoderConfig

/-- What a result says about the number `n` of bytes taken to come to it, where `bs` could be
delivered. No other errors come of decoding from a source. -/
def Accounts (bs : List UInt8) (n : Nat) : Except Error Packet → Prop
  | .ok p => n = p.encodedLen
  | .error (.unsupportedVersion _) => n = 16
  | .error (.versionDisabled _) => n = 16
  | .error (.tooManyRecords _ _ _) => n = 16
  | .error (.shortRead name o w _) => n = bs.length ∧ o ≤ n ∧ n < o + w ∧
      ∃ f, Packet.Expects bs o f ∧ f.name = name ∧ f.width = w
  | .error (.io name o _) => n = bs.length ∧
      ∃ f, Packet.Expects bs o f ∧ f.name = name ∧ o ≤ n ∧ n < o + f.width
  | .error (.trailingBytes _) => False
  | .error (.versionMismatch _ _) => False
  | .error (.config _) => False
  | .error (.unreadableText _) => False

theorem Accounts.cut {bs : List UInt8} {o : Nat} {f : Field} (hf : Packet.Expects bs o f)
    (hc : Covers (o, f) bs.length) (e : Failure) :
    Accounts bs bs.length (.error (e.error f.name o f.width)) := by
  obtain ⟨hfrom, hto⟩ := hc
  cases e with
  | mk kind message =>
    cases kind with
    | endOfData => exact ⟨rfl, hfrom, hto, f, hf, rfl, rfl⟩
    | device => exact ⟨rfl, f, hf, rfl, hfrom, hto⟩

namespace DecoderConfig
variable {c : DecoderConfig} {bs : List UInt8} {e : Failure} {r : Except Error Packet}

theorem Verdict.accounts (h : c.Verdict bs e r) :
    Decoding.drawn bs.length r ≤ bs.length ∧ Accounts bs (Decoding.drawn bs.length r) r := by
  cases r with
  | ok p => exact ⟨h.encodedLen_eq.2, rfl⟩
  | error x =>
    obtain ⟨hl, hr⟩ | ⟨o, f, hf, hc, rfl⟩ := h.error_cases
    · cases hr <;> exact ⟨hl, rfl⟩
    · rw [Decoding.drawn_error]
      exact ⟨Nat.le_refl _, .cut hf hc e⟩

/-- The bytes that decoding takes are the first ones of the source, and the result accounts for
how many they are. -/
theorem decodeFrom_accounts (c : DecoderConfig) (s : Source) (hs : s.Steady) :
    ∃ n ≤ s.data.length, (c.decodeFrom s).2.data = s.data.drop n ∧
      Accounts s.deliverable n (c.decodeFrom s).1.result := by
  obtain ⟨r, t, hv, hp, hr⟩ := decodeFrom_run (c := c) hs
  obtain ⟨hle, haccounts⟩ := hv.accounts
  refine ⟨_, Nat.le_trans hle s.deliverable_length_le, ?_, ?_⟩
  · rw [hr]
    exact hp.data
  · rw [hr]
    exact haccounts

theorem decodeFrom_accounts_brokenLine : Source.brokenLine.Steady ∧
    (default.decodeFrom Source.brokenLine).1.result = .error (.io "engine_type" 20 "link down") ∧
    (default.decodeFrom Source.brokenLine).2.data = Source.brokenLine.data.drop 20 := by
  have hs : Source.brokenLine.Steady := by decide
  have hr : (default.decodeFrom Source.brokenLine).1.result =
      .error (.io "engine_type" 20 "link down") := by
    have hadm : default.Admits (Packet.tagOf Source.brokenLine.deliverable)
        (Packet.countOf Source.brokenLine.deliverable) .v5 := ⟨by decide, by decide, by decide⟩
    exact (decodeFrom_verdict hs).mpr (.read (by decide) hadm
      (.cutInHeader (p := (20, ⟨"engine_type", .u8⟩)) (by decide) (by decide) (by decide)))
  obtain ⟨n, -, hdata, haccounts⟩ := decodeFrom_accounts default _ hs
  rw [hr] at haccounts
  obtain ⟨rfl, -⟩ := haccounts
  exact ⟨hs, hr, hdata⟩

end DecoderConfig
end NetFlow
