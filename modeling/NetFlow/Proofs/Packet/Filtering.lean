import NetFlow.Proofs.Packet.Stream

/-! Two decoders at the same input. Settings have their say once, behind the common part of the
header, where they let a packet pass or refuse it. What is read before and after that does not
depend on them, so they choose among packets and change none. -/
namespace NetFlow

def Packet.readAnnounced (b : HeaderBase) (v : Version) : DecodeM Packet := do
  let p ← Decoding.lift (readRest b v b.count.toNat)
  Decoding.emit (.decoded v p.records.length (← get).reader.offset)
  return p

namespace DecoderConfig
variable {c d : DecoderConfig}

/-- Every version that `c` takes, `d` takes with at least as many records. -/
structure Within (c d : DecoderConfig) : Prop where
  accepts : ∀ v, c.accepts v = true → d.accepts v = true
  maxRecordsFor : ∀ v, c.accepts v = true → c.maxRecordsFor v ≤ d.maxRecordsFor v

/-- Both take the same versions, with the same limits. Order and repetitions in the lists of
versions, and limits of versions that are not taken, may differ. -/
structure Alike (c d : DecoderConfig) : Prop where
  accepts : ∀ v, c.accepts v = d.accepts v
  maxRecordsFor : ∀ v, c.accepts v = true → c.maxRecordsFor v = d.maxRecordsFor v

section
variable {tag count : UInt16} {v : Version} {x : Error}

theorem Within.admits (h : c.Within d) (ha : c.Admits tag count v) : d.Admits tag count v := by
  have hv : c.accepts v = true := (c.accepts_iff v).mpr ha.accepted
  refine ⟨ha.tag, (d.accepts_iff v).mp (h.accepts v hv), ?_⟩
  exact UInt16.le_trans ha.count (h.maxRecordsFor v hv)

theorem Alike.within (h : c.Alike d) : c.Within d where
  accepts v hv := h.accepts v ▸ hv
  maxRecordsFor v hv := UInt16.le_of_eq (h.maxRecordsFor v hv)

theorem Alike.mem_iff (h : c.Alike d) : v ∈ c.versions ↔ v ∈ d.versions := by
  rw [← c.accepts_iff, ← d.accepts_iff, h.accepts]

theorem Alike.refuses (h : c.Alike d) (hr : c.Refuses tag count x) : d.Refuses tag count x := by
  cases hr with
  | unsupported hv => exact .unsupported hv
  | disabled hv ha => exact .disabled hv (fun hm => ha (h.mem_iff.mpr hm))
  | @tooMany v hv ha hc =>
    have hmax := h.maxRecordsFor v ((c.accepts_iff v).mpr ha)
    rw [hmax] at hc ⊢
    exact .tooMany hv (h.mem_iff.mp ha) hc

end

/-- Under all settings the same header is read, or the same error met in it. Then they let the
packet pass or refuse it, and what passes is read in the same way. -/
theorem readPacket_shared (start : Decoding) :
    (∃ x t, ∀ c : DecoderConfig, c.readPacket start = .error x t) ∨
    ∃ (b : HeaderBase) (t : Decoding), ∀ c : DecoderConfig,
      (∃ v, c.Admits b.version b.count v ∧ c.readPacket start = Packet.readAnnounced b v t) ∨
      ∃ x, c.Refuses b.version b.count x ∧
        c.readPacket start = .error x ⟨t.reader, t.events ++ Decoding.noted (.error x)⟩ := by
  cases hb : Decoding.lift (Record.read HeaderBase) start with
  | error x t =>
    refine .inl ⟨x, t, fun c => ?_⟩
    rw [readPacket_eq, Decoding.bind_error hb]
  | ok b t =>
    refine .inr ⟨b, t, fun c => ?_⟩
    rw [readPacket_eq, Decoding.bind_ok hb]
    obtain ⟨x, hx, hrun⟩ | ⟨v, hv, hrun⟩ := c.acceptedVersion_run b t
    · exact .inr ⟨x, hx, Decoding.bind_error hrun⟩
    · exact .inl ⟨v, hv, Decoding.bind_ok hrun⟩

section
variable {start t u : Decoding} {p q : Packet}

theorem readPacket_agree (hc : c.readPacket start = .ok p t) (hd : d.readPacket start = .ok q u) :
    c.readPacket start = d.readPacket start := by
  obtain ⟨x, e, hall⟩ | ⟨b, r, hall⟩ := readPacket_shared start
  · rw [hall c] at hc
    cases hc
  · obtain ⟨v, hv, hrun⟩ | ⟨x, -, hrun⟩ := hall c
    · obtain ⟨w, hw, hrun'⟩ | ⟨x, -, hrun'⟩ := hall d
      · obtain rfl := Version.number_injective (hv.tag.trans hw.tag.symm)
        rw [hrun, hrun']
      · rw [hrun'] at hd
        cases hd
    · rw [hrun] at hc
      cases hc

theorem Within.readPacket_ok (h : c.Within d) (hc : c.readPacket start = .ok p t) :
    d.readPacket start = .ok p t := by
  obtain ⟨x, e, hall⟩ | ⟨b, r, hall⟩ := readPacket_shared start
  · rwa [hall d, ← hall c]
  · obtain ⟨v, hv, hrun⟩ | ⟨x, -, hrun⟩ := hall c
    · obtain ⟨w, hw, hrun'⟩ | ⟨x, hx, -⟩ := hall d
      · obtain rfl := Version.number_injective (hv.tag.trans hw.tag.symm)
        rwa [hrun', ← hrun]
      · exact absurd hx (h.admits hv).not_refuses
    · rw [hrun] at hc
      cases hc

theorem Alike.readPacket_eq (h : c.Alike d) : c.readPacket = d.readPacket := by
  funext start
  obtain ⟨x, e, hall⟩ | ⟨b, r, hall⟩ := readPacket_shared start
  · rw [hall c, hall d]
  · obtain ⟨v, hv, hrun⟩ | ⟨x, hx, hrun⟩ := hall c
    · obtain ⟨w, hw, hrun'⟩ | ⟨y, hy, -⟩ := hall d
      · obtain rfl := Version.number_injective (hv.tag.trans hw.tag.symm)
        rw [hrun, hrun']
      · exact absurd hy (h.within.admits hv).not_refuses
    · obtain ⟨w, hw, -⟩ | ⟨y, hy, hrun'⟩ := hall d
      · exact absurd (h.refuses hx) hw.not_refuses
      · rw [hrun, hrun', (h.refuses hx).unique hy]

end

section
variable {s : Source} {bs : List UInt8} {p q : Packet}

theorem decodeFrom_congr (h : c.readPacket (.start s) = d.readPacket (.start s)) :
    c.decodeFrom s = d.decodeFrom s := by
  simp only [decodeFrom, h]

theorem decodeFrom_agree (hc : (c.decodeFrom s).1.result = .ok p)
    (hd : (d.decodeFrom s).1.result = .ok q) : p = q := by
  obtain ⟨t, ht, -⟩ := exists_readPacket_ok hc
  obtain ⟨u, hu, -⟩ := exists_readPacket_ok hd
  have heq := decodeFrom_congr (readPacket_agree ht hu)
  rw [← heq, hc] at hd
  exact Except.ok.inj hd

theorem Within.decodeFrom_ok (h : c.Within d) (hc : (c.decodeFrom s).1.result = .ok p) :
    (d.decodeFrom s).1.result = .ok p := by
  obtain ⟨t, ht, -⟩ := exists_readPacket_ok hc
  rw [← hc, decodeFrom_congr ((h.readPacket_ok ht).trans ht.symm)]

theorem decode_ok_iff_decodeFrom : (c.decode bs).result = .ok p ↔
    (c.decodeFrom (.ofBytes bs)).1.result = .ok p ∧
      (bs.length = p.version.packetLen p.records.length ∨ c.allowTrailingBytes = true) := by
  rw [decode_ok_iff, decodeFrom_ofBytes_verdict]

theorem finish_congr (h : c.allowTrailingBytes = d.allowTrailingBytes) : c.finish = d.finish := by
  funext size p
  simp only [finish, h]

end

def shuffled : DecoderConfig := ⟨[.v5, .v7, .v5], some 1, false⟩

/-- Settings choose among packets. Decoders that come to packets come to the same one; wider
settings let pass what narrower ones do; and settings that let the same packets pass cannot be
told apart, not even by errors, events or what is left of a source. -/
theorem decode_filters (c d : DecoderConfig) :
    (∀ bs p q, (c.decode bs).result = .ok p → (d.decode bs).result = .ok q → p = q) ∧
    (c.Within d → (c.allowTrailingBytes = true → d.allowTrailingBytes = true) →
      ∀ bs p, (c.decode bs).result = .ok p → (d.decode bs).result = .ok p) ∧
    (c.Alike d → c.allowTrailingBytes = d.allowTrailingBytes →
      ∀ bs, c.decode bs = d.decode bs) ∧
    (∀ s p q, (c.decodeFrom s).1.result = .ok p → (d.decodeFrom s).1.result = .ok q → p = q) ∧
    (c.Within d →
      ∀ s p, (c.decodeFrom s).1.result = .ok p → (d.decodeFrom s).1.result = .ok p) ∧
    (c.Alike d → ∀ s, c.decodeFrom s = d.decodeFrom s) := by
  refine ⟨?_, ?_, ?_, ?_, ?_, ?_⟩
  · intro bs p q hc hd
    exact decodeFrom_agree (decode_ok_iff_decodeFrom.mp hc).1 (decode_ok_iff_decodeFrom.mp hd).1
  · intro h ha bs p hc
    obtain ⟨hread, htail⟩ := decode_ok_iff_decodeFrom.mp hc
    exact decode_ok_iff_decodeFrom.mpr ⟨h.decodeFrom_ok hread, htail.imp_right ha⟩
  · intro h ha bs
    rw [decode, decode, h.readPacket_eq, finish_congr ha]
  · intro s p q hc hd
    exact decodeFrom_agree hc hd
  · intro h s p hc
    exact h.decodeFrom_ok hc
  · intro h s
    exact decodeFrom_congr (by rw [h.readPacket_eq])

theorem decode_filters_query :
    (strict.Within default ∧ (strict.decode Packet.query.encode).result = .ok .query ∧
      (default.decode Packet.query.encode).result = .ok .query) ∧
    strict.Alike shuffled ∧
      strict.decode (Packet.query.encode ++ [0]) = shuffled.decode (Packet.query.encode ++ [0]) ∧
      strict.decodeFrom .brokenLine = shuffled.decodeFrom .brokenLine := by
  have hwithin : strict.Within default := by
    constructor <;> intro v <;> cases v <;> decide
  have halike : strict.Alike shuffled := by
    constructor <;> intro v <;> cases v <;> decide
  obtain ⟨-, hwider, -⟩ := decode_filters strict default
  obtain ⟨-, -, hbytes, -, -, hsource⟩ := decode_filters strict shuffled
  have hquery := strict_takes_query.decode_encode
  exact ⟨⟨hwithin, hquery, hwider hwithin (fun _ => rfl) _ _ hquery⟩, halike, hbytes halike rfl _,
    hsource halike _⟩

end DecoderConfig
end NetFlow
