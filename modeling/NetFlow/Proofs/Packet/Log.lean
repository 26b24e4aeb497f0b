import NetFlow.Proofs.Packet.Consumption
import NetFlow.Proofs.Packet.Stream

/-! The events of decoding one packet. They follow from the result: nothing is noted of a packet
that could not be read or is not wanted, but for a version that is switched off; a packet that was
read is noted with its length, also where the bytes behind it make decoding fail in the end. -/
namespace NetFlow

def Outcome.log (o : Outcome) : List (String × Event) := o.events.map fun e => (e.level, e)

/-- What is noted of a packet from a source. -/
inductive Logged : Except Error Packet → List (String × Event) → Prop where
  | shortRead {field cause : String} {o w : Nat} : Logged (.error (.shortRead field o w cause)) []
  | io {field cause : String} {o : Nat} : Logged (.error (.io field o cause)) []
  | unsupported {tag : UInt16} : Logged (.error (.unsupportedVersion tag)) []
  | tooMany {v : Version} {count max : UInt16} : Logged (.error (.tooManyRecords v count max)) []
  | disabled {v : Version} : Logged (.error (.versionDisabled v)) [("DEBUG", .dropped v)]
  | decoded {p : Packet} :
      Logged (.ok p) [("TRACE", .decoded p.version p.records.length p.encodedLen)]

/-- What is noted of a datagram. The bytes behind a packet are noted after the packet. -/
inductive LoggedDatagram (c : DecoderConfig) (bs : List UInt8) :
    Except Error Packet → List (String × Event) → Prop where
  | failed {x : Error} {log : List (String × Event)} : Logged (.error x) log →
      LoggedDatagram c bs (.error x) log
  | decoded {p : Packet} : p.encodedLen = bs.length → LoggedDatagram c bs (.ok p)
      [("TRACE", .decoded p.version p.records.length p.encodedLen)]
  | ignored {p : Packet} : p.encodedLen < bs.length → LoggedDatagram c bs (.ok p)
      [("TRACE", .decoded p.version p.records.length p.encodedLen),
        ("DEBUG", .ignored (bs.length - p.encodedLen) p.version)]
  | rejected {p : Packet} {n : Nat} : (c.decodeFrom (.ofBytes bs)).1.result = .ok p → 0 < n →
      p.encodedLen + n = bs.length → LoggedDatagram c bs (.error (.trailingBytes n))
        [("TRACE", .decoded p.version p.records.length p.encodedLen),
          ("DEBUG", .rejected p.version n)]

theorem Logged.unique {r : Except Error Packet} {log log' : List (String × Event)}
    (h : Logged r log) (h' : Logged r log') : log = log' := by
  cases h <;> cases h' <;> rfl

theorem LoggedDatagram.unique {c : DecoderConfig} {bs : List UInt8} {r : Except Error Packet}
    {log log' : List (String × Event)} (h : LoggedDatagram c bs r log)
    (h' : LoggedDatagram c bs r log') : log = log' := by
  cases h with
  | failed hx =>
    cases h' with
    | failed hx' => exact hx.unique hx'
    | rejected => cases hx
  | decoded hl =>
    cases h' with
    | decoded => rfl
    | ignored hl' => omega
  | ignored hl =>
    cases h' with
    | decoded hl' => omega
    | ignored => rfl
  | rejected hp =>
    cases h' with
    | failed hx => cases hx
    | rejected hp' =>
      rw [hp] at hp'
      cases hp'
      rfl

theorem Logged.cut (e : Failure) (field : String) (o w : Nat) :
    Logged (.error (e.error field o w)) [] := by
  cases e with
  | mk kind message =>
    cases kind with
    | endOfData => exact .shortRead
    | device => exact .io

namespace DecoderConfig
variable {c : DecoderConfig} {bs : List UInt8} {e : Failure} {r : Except Error Packet} {s : Source}

theorem Verdict.logged (h : c.Verdict bs e r) : Logged r (Outcome.noting r).log := by
  cases r with
  | ok p => exact .decoded
  | error x =>
    obtain ⟨-, hr⟩ | ⟨o, f, -, -, rfl⟩ := h.error_cases
    · cases hr with
      | unsupported => exact .unsupported
      | disabled => exact .disabled
      | tooMany => exact .tooMany
    · rw [Outcome.noting, Decoding.noted_error]
      exact .cut e f.name o f.width

theorem decodeFrom_stalled (hs : ¬ s.Steady) :
    ∃ (f : Failure) (t : Source),
      c.decodeFrom s = (⟨.error (f.error "version" 0 2), []⟩, t) := by
  obtain ⟨f, t, hf⟩ := Source.fill_stalled hs (show Kind.u16.width ≠ 0 by decide)
  have hfield : Reader.field "version" .u16 (.start s) = .error (f.error "version" 0 2) ⟨t, 0⟩ := by
    simp only [Reader.field, Reader.start, hf]
    rfl
  have hbase : Record.read HeaderBase (.start s) = .error (f.error "version" 0 2) ⟨t, 0⟩ := by
    simp [Record.read, Record.schema, Schema.read, Row.read, Functor.map, EStateM.map, bind,
      EStateM.bind, hfield]
  refine ⟨f, t, ?_⟩
  have hread : c.readPacket (.start s) = .error (f.error "version" 0 2) ⟨⟨t, 0⟩, []⟩ :=
    Decoding.bind_error (Decoding.lift_error hbase)
  rw [decodeFrom, hread]

theorem decodeFrom_logged (c : DecoderConfig) (s : Source) :
    Logged (c.decodeFrom s).1.result (c.decodeFrom s).1.log := by
  by_cases hs : s.Steady
  · obtain ⟨r, t, hv, -, hr⟩ := decodeFrom_run (c := c) hs
    rw [hr]
    exact hv.logged
  · obtain ⟨f, t, hf⟩ := decodeFrom_stalled (c := c) hs
    rw [hf]
    exact .cut f "version" 0 2

theorem decode_logged (c : DecoderConfig) (bs : List UInt8) :
    LoggedDatagram c bs (c.decode bs).result (c.decode bs).log := by
  obtain ⟨r, hv, hr⟩ := decode_run (c := c) bs
  rw [hr]
  cases r with
  | error x => exact .failed hv.logged
  | ok p =>
    have hle := hv.encodedLen_eq.2
    by_cases h0 : bs.length - p.encodedLen = 0
    · simp only [settle, h0, ↓reduceIte]
      exact .decoded (by omega)
    · by_cases ha : c.allowTrailingBytes = true
      · simp only [settle, h0, ha, ↓reduceIte]
        exact .ignored (by omega)
      · simp only [settle, h0, ha, ↓reduceIte]
        exact .rejected (decodeFrom_ofBytes_verdict.mpr hv) (by omega) (by omega)

/-- The log of a decoder is the one that goes with its result, and no other. -/
theorem log_iff (c : DecoderConfig) :
    (∀ s log, (c.decodeFrom s).1.log = log ↔ Logged (c.decodeFrom s).1.result log) ∧
    ∀ bs log, (c.decode bs).log = log ↔ LoggedDatagram c bs (c.decode bs).result log := by
  constructor
  · intro s log
    constructor
    · intro h
      subst h
      exact decodeFrom_logged c s
    · intro h
      exact (decodeFrom_logged c s).unique h
  · intro bs log
    constructor
    · intro h
      subst h
      exact decode_logged c bs
    · intro h
      exact (decode_logged c bs).unique h

end DecoderConfig
end NetFlow
