import NetFlow.Proofs.Packet.Stream

/-! What stands behind a packet in a datagram. Decoding a datagram is decoding from its bytes
and then looking at those left over, of which the reader's offset gives the exact number. -/
namespace NetFlow.DecoderConfig
variable {c : DecoderConfig} {bs : List UInt8} {s : Source} {p : Packet} {d : Decoding}

/-- Behind a packet, the reader's offset is the number of bytes that its source has given. -/
theorem readPacket_balance (hs : s.Steady) (h : c.readPacket (.start s) = .ok p d) :
    d.reader.offset ≤ s.deliverable.length ∧ s.Past d.reader.offset d.reader.source := by
  obtain ⟨r, t, hv, hpt, hr⟩ := readPacket_run (c := c) hs
  rw [h] at hr
  cases r with
  | error x => cases hr
  | ok q =>
    cases hr
    exact ⟨hv.encodedLen_eq.2, hpt⟩

theorem result_finish (c : DecoderConfig) (size : Nat) (p : Packet) (d : Decoding) :
    (Outcome.ofResult (c.finish size p d)).result =
      if size - d.reader.offset = 0 ∨ c.allowTrailingBytes = true then .ok p
      else .error (.trailingBytes (size - d.reader.offset)) := by
  rw [finish, Decoding.get_bind]
  by_cases h : size - d.reader.offset = 0
  · simp only [h, true_or, ↓reduceIte]
    rfl
  · by_cases ha : c.allowTrailingBytes = true
    · simp only [h, ha, or_true, ↓reduceIte]
      rfl
    · simp only [h, ha, ↓reduceIte]
      rfl

theorem result_decode_of_ok (h : c.readPacket (.start (.ofBytes bs)) = .ok p d) :
    (c.decode bs).result =
      if bs.length - d.reader.offset = 0 ∨ c.allowTrailingBytes = true then .ok p
      else .error (.trailingBytes (bs.length - d.reader.offset)) := by
  rw [decode, Decoding.bind_ok h, result_finish]

theorem result_decode_of_error {x : Error}
    (h : c.readPacket (.start (.ofBytes bs)) = .error x d) : (c.decode bs).result = .error x := by
  rw [decode, Decoding.bind_error h]
  rfl

/-- A datagram fails as its bytes do when they are decoded from a source. Otherwise the offset of
the reader is within the datagram, as many bytes are behind it as the source has left, and the
packet is returned if there are none or they are allowed. -/
theorem decode_eq_decodeFrom (c : DecoderConfig) (bs : List UInt8) :
    (∀ x, (c.decodeFrom (.ofBytes bs)).1.result = .error x → (c.decode bs).result = .error x) ∧
    ∀ p, (c.decodeFrom (.ofBytes bs)).1.result = .ok p →
      ∃ d, c.readPacket (.start (.ofBytes bs)) = .ok p d ∧ d.reader.offset ≤ bs.length ∧
        (c.decodeFrom (.ofBytes bs)).2.data = bs.drop d.reader.offset ∧
        bs.length - d.reader.offset = (c.decodeFrom (.ofBytes bs)).2.data.length ∧
        (c.decode bs).result =
          if (c.decodeFrom (.ofBytes bs)).2.data = [] ∨ c.allowTrailingBytes = true then .ok p
          else .error (.trailingBytes (c.decodeFrom (.ofBytes bs)).2.data.length) := by
  constructor
  · intro x hx
    obtain ⟨d, hd⟩ := exists_readPacket_error hx
    exact result_decode_of_error hd
  · intro p hp
    obtain ⟨d, hd, hrest⟩ := exists_readPacket_ok hp
    obtain ⟨hle, hpast⟩ := readPacket_balance (Source.steady_ofBytes bs) hd
    have hdata : (c.decodeFrom (.ofBytes bs)).2.data = bs.drop d.reader.offset := by
      rw [hrest]
      exact hpast.data
    have hlen : bs.length - d.reader.offset = (c.decodeFrom (.ofBytes bs)).2.data.length := by
      rw [hdata, List.length_drop]
    refine ⟨d, hd, hle, hdata, hlen, ?_⟩
    rw [result_decode_of_ok hd, hlen]
    simp only [List.length_eq_zero_iff]

theorem decode_eq_decodeFrom_query :
    ((strict.decodeFrom (.ofBytes (Packet.query.encode ++ [1, 2]))).1.result = .ok .query ∧
      (strict.decode (Packet.query.encode ++ [1, 2])).result = .error (.trailingBytes 2)) ∧
    (default.decodeFrom (.ofBytes (Packet.query.encode.take 71))).1.result =
        .error (.shortRead "pad2" 70 2 Failure.ended.message) ∧
      (default.decode (Packet.query.encode.take 71)).result =
        .error (.shortRead "pad2" 70 2 Failure.ended.message) := by
  have hwhole : (strict.decodeFrom (.ofBytes (Packet.query.encode ++ [1, 2]))).1.result =
      .ok .query :=
    decodeFrom_ofBytes_verdict.mpr
      (verdict_ok_iff_takes.mpr ⟨strict_takes_query, List.prefix_append _ _⟩)
  have hcut : (default.decodeFrom (.ofBytes (Packet.query.encode.take 71))).1.result =
      .error (.shortRead "pad2" 70 2 Failure.ended.message) := by
    have hadm : default.Admits (Packet.tagOf (Packet.query.encode.take 71))
        (Packet.countOf (Packet.query.encode.take 71)) .v5 := ⟨by decide, by decide, by decide⟩
    exact decodeFrom_ofBytes_verdict.mpr (.read (by decide) hadm
      (.cutInRecord (p := (46, ⟨"pad2", .u16⟩)) (by decide) (by decide) (by decide) (by decide)))
  obtain ⟨herror, -⟩ := decode_eq_decodeFrom default (Packet.query.encode.take 71)
  obtain ⟨-, hok⟩ := decode_eq_decodeFrom strict (Packet.query.encode ++ [1, 2])
  obtain ⟨-, -, -, -, -, hresult⟩ := hok _ hwhole
  -- The packet takes the first 72 bytes, so the two behind it are left.
  obtain ⟨t, ht, hpast⟩ := decodeFrom_takes (Source.steady_ofBytes _) strict_takes_query
    (List.prefix_append Packet.query.encode [1, 2])
  have hrest : (strict.decodeFrom (.ofBytes (Packet.query.encode ++ [1, 2]))).2.data = [1, 2] := by
    rw [ht]
    exact hpast.data.trans (List.drop_left' Packet.query.encode_length)
  rw [hrest] at hresult
  exact ⟨⟨hwhole, hresult⟩, hcut, herror _ hcut⟩

end NetFlow.DecoderConfig
