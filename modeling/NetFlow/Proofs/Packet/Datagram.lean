import NetFlow.Proofs.Packet.Decoding

/-! Whole datagrams. The result of decoding one is the verdict on its bytes, with what stands
behind the packet let pass or refused; nothing else can come out. -/
namespace NetFlow.DecoderConfig
variable {c : DecoderConfig} {bs : List UInt8}

/-- The verdict on a datagram. Bytes behind the packet are the last thing looked at. -/
inductive DatagramVerdict (c : DecoderConfig) (bs : List UInt8) : Except Error Packet → Prop where
  | failed {x : Error} : c.Verdict bs .ended (.error x) → DatagramVerdict c bs (.error x)
  | accepted {p : Packet} : c.Verdict bs .ended (.ok p) →
      (bs.length = p.version.packetLen p.records.length ∨ c.allowTrailingBytes = true) →
      DatagramVerdict c bs (.ok p)
  | trailing {p : Packet} : c.Verdict bs .ended (.ok p) →
      p.version.packetLen p.records.length < bs.length → c.allowTrailingBytes = false →
      DatagramVerdict c bs
        (.error (.trailingBytes (bs.length - p.version.packetLen p.records.length)))

theorem Verdict.encodedLen_eq {e : Failure} {p : Packet} (h : c.Verdict bs e (.ok p)) :
    p.encodedLen = p.version.packetLen p.records.length ∧ p.encodedLen ≤ bs.length := by
  obtain ⟨hp, -, -, hpre⟩ := verdict_ok_iff.mp h
  refine ⟨Packet.encodedLen_eq hp.records, ?_⟩
  rw [← Packet.encode_length]
  exact hpre.length_le

theorem decode_verdict (c : DecoderConfig) (bs : List UInt8) :
    c.DatagramVerdict bs (c.decode bs).result := by
  obtain ⟨r, hv, hr⟩ := decode_run (c := c) bs
  rw [hr]
  cases r with
  | error x => exact .failed hv
  | ok p =>
    obtain ⟨he, hle⟩ := hv.encodedLen_eq
    by_cases h0 : bs.length - p.encodedLen = 0
    · simp only [settle, h0, ↓reduceIte]
      exact .accepted hv (.inl (by omega))
    · cases ha : c.allowTrailingBytes with
      | true =>
        simp only [settle, h0, ha, ↓reduceIte]
        exact .accepted hv (.inr ha)
      | false =>
        simp only [settle, h0, ha, ↓reduceIte, Bool.false_eq_true]
        rw [he]
        exact .trailing hv (by omega) ha

theorem DatagramVerdict.unique {r r' : Except Error Packet} (h : c.DatagramVerdict bs r)
    (h' : c.DatagramVerdict bs r') : r = r' := by
  cases h with
  | failed hv =>
    cases h' with
    | failed hv' => exact hv.unique hv'
    | accepted hv' => cases hv.unique hv'
    | trailing hv' => cases hv.unique hv'
  | accepted hv hl =>
    cases h' with
    | failed hv' => cases hv.unique hv'
    | accepted hv' => exact hv.unique hv'
    | trailing hv' hl' ha =>
      cases hv.unique hv'
      cases hl with
      | inl hl => omega
      | inr hl => rw [ha] at hl; cases hl
  | trailing hv hl ha =>
    cases h' with
    | failed hv' => cases hv.unique hv'
    | accepted hv' hl' =>
      cases hv.unique hv'
      cases hl' with
      | inl hl' => omega
      | inr hl' => rw [ha] at hl'; cases hl'
    | trailing hv' => cases hv.unique hv'; rfl

theorem decode_ok_iff {p : Packet} :
    (c.decode bs).result = .ok p ↔ c.Verdict bs .ended (.ok p) ∧
      (bs.length = p.version.packetLen p.records.length ∨ c.allowTrailingBytes = true) := by
  constructor
  · intro h
    have hv := decode_verdict c bs
    rw [h] at hv
    cases hv with
    | accepted hv hl => exact ⟨hv, hl⟩
  · rintro ⟨hv, hl⟩
    exact (decode_verdict c bs).unique (.accepted hv hl)

/-- Decoding yields the verdict on a datagram, and each verdict is what decoding yields. -/
theorem decode_result_iff (c : DecoderConfig) (bs : List UInt8) (r : Except Error Packet) :
    (c.decode bs).result = r ↔ c.DatagramVerdict bs r := by
  have hv := decode_verdict c bs
  constructor
  · intro h
    rwa [h] at hv
  · intro h
    exact hv.unique h

end NetFlow.DecoderConfig
