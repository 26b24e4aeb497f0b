import NetFlow.Proofs.Packet.RoundTrip
import NetFlow.Proofs.Wire.Ending

/-! Decoding from a source against decoding from the bytes it can deliver. They differ only in
how a read behind the last byte is reported; chunks and interruptions do not show at all. -/
namespace NetFlow

/-- A result for bytes that simply end, said again for an end of another kind. -/
def Failure.restate (e : Failure) : Except Error Packet → Except Error Packet
  | .error (.shortRead field offset width _) => .error (e.error field offset width)
  | r => r

theorem Version.Body.restate {v : Version} {n : Nat} {bs : List UInt8} {r : Except Error Packet}
    (h : v.Body n bs .ended r) (e : Failure) : v.Body n bs e (e.restate r) := by
  cases h with
  | cutInHeader hl hp hc => exact .cutInHeader hl hp hc
  | cutInRecord hl hl' hp hc => exact .cutInRecord hl hl' hp hc
  | whole hl hv hn hr he => exact .whole hl hv hn hr he

namespace DecoderConfig
variable {c : DecoderConfig} {bs : List UInt8} {r : Except Error Packet} {s t : Source}

theorem Refuses.restate {tag count : UInt16} {x : Error} (h : c.Refuses tag count x)
    (e : Failure) : e.restate (.error x) = .error x := by
  cases h <;> rfl

theorem Verdict.restate (h : c.Verdict bs .ended r) (e : Failure) :
    c.Verdict bs e (e.restate r) := by
  cases h with
  | cutInBase hl hp hc => exact .cutInBase hl hp hc
  | refused hl hr =>
    rw [hr.restate e]
    exact .refused hl hr
  | read hl ha hb => exact .read hl ha (hb.restate e)

theorem decodeFrom_verdict (hs : s.Steady) :
    (c.decodeFrom s).1.result = r ↔ c.Verdict s.deliverable s.ending r := by
  obtain ⟨r', t, hv, -, hr⟩ := decodeFrom_run (c := c) hs
  rw [hr]
  constructor
  · rintro rfl
    exact hv
  · intro h
    exact hv.unique h

theorem decodeFrom_ofBytes_verdict :
    (c.decodeFrom (.ofBytes bs)).1.result = r ↔ c.Verdict bs .ended r :=
  decodeFrom_verdict (Source.steady_ofBytes bs)

theorem decodeFrom_restate (hs : s.Steady) : (c.decodeFrom s).1.result =
    s.ending.restate (c.decodeFrom (.ofBytes s.deliverable)).1.result := by
  rw [decodeFrom_verdict hs]
  exact (decodeFrom_ofBytes_verdict.mp rfl).restate s.ending

theorem cause_of_ofBytes {field cause : String} {offset width : Nat}
    (h : (c.decodeFrom (.ofBytes bs)).1.result = .error (.shortRead field offset width cause)) :
    cause = Failure.ended.message := by
  have hr := decodeFrom_restate (c := c) (Source.steady_ofBytes bs)
  rw [Source.deliverable_ofBytes, Source.ending_ofBytes, h] at hr
  have he := Except.error.inj hr
  exact (Error.shortRead.inj he).2.2.2

end DecoderConfig

def Source.brokenLine : Source where
  data := Packet.query.encode
  chunk := some 3
  interrupts := true
  interruptNow := true
  fault := some ⟨20, .device, "link down"⟩

namespace DecoderConfig

/-- Decoding from a source refines decoding from the bytes in front of its fault. A result other
than a short read is the same. A short read is passed on, or reported as the fault that was
reached. How the bytes are handed out has no influence. -/
theorem decodeFrom_refines (c : DecoderConfig) (s : Source) (hs : s.Steady) :
    (∀ p, (c.decodeFrom (.ofBytes s.deliverable)).1.result = .ok p →
      (c.decodeFrom s).1.result = .ok p) ∧
    (∀ x, (c.decodeFrom (.ofBytes s.deliverable)).1.result = .error x →
      x.isShortRead = false → (c.decodeFrom s).1.result = .error x) ∧
    (∀ field offset width cause,
      (c.decodeFrom (.ofBytes s.deliverable)).1.result =
        .error (.shortRead field offset width cause) →
      (∀ f, s.fault = some f → f.after ≤ s.data.length → f.failure.kind = .device →
        (c.decodeFrom s).1.result = .error (.io field offset f.failure.message)) ∧
      (∀ f, s.fault = some f → f.after ≤ s.data.length → f.failure.kind = .endOfData →
        (c.decodeFrom s).1.result =
          .error (.shortRead field offset width f.failure.message)) ∧
      ((∀ f, s.fault = some f → s.data.length < f.after) →
        cause = Failure.ended.message ∧
        (c.decodeFrom s).1.result = .error (.shortRead field offset width cause))) ∧
    (∀ t : Source, t.Steady → t.data = s.data → t.fault = s.fault →
      (c.decodeFrom t).1.result = (c.decodeFrom s).1.result) := by
  have hrun := decodeFrom_restate (c := c) hs
  refine ⟨?_, ?_, ?_, ?_⟩
  · intro p hp
    rw [hrun, hp]
    rfl
  · intro x hx hshort
    rw [hrun, hx]
    cases x with
    | shortRead => cases hshort
    | _ => rfl
  · intro field offset width cause hx
    rw [hx] at hrun
    refine ⟨?_, ?_, ?_⟩
    · intro f hf hr hk
      rw [hrun, Source.ending_of_reached hf hr, Failure.restate, Failure.error, hk]
    · intro f hf hr hk
      rw [hrun, Source.ending_of_reached hf hr, Failure.restate, Failure.error, hk]
    · intro hf
      have hc := cause_of_ofBytes hx
      refine ⟨hc, ?_⟩
      rw [hrun, Source.ending_of_unreached hf, hc]
      rfl
  · intro t ht hd hf
    rw [hrun, decodeFrom_restate ht, Source.deliverable_congr hd hf, Source.ending_congr hd hf]

theorem decodeFrom_refines_brokenLine : Source.brokenLine.Steady ∧
    (default.decodeFrom (.ofBytes Source.brokenLine.deliverable)).1.result =
      .error (.shortRead "engine_type" 20 1 Failure.ended.message) ∧
    (default.decodeFrom Source.brokenLine).1.result = .error (.io "engine_type" 20 "link down") := by
  have hs : Source.brokenLine.Steady := by decide
  have hcut : (default.decodeFrom (.ofBytes Source.brokenLine.deliverable)).1.result =
      .error (.shortRead "engine_type" 20 1 Failure.ended.message) := by
    have hadm : default.Admits (Packet.tagOf Source.brokenLine.deliverable)
        (Packet.countOf Source.brokenLine.deliverable) .v5 := ⟨by decide, by decide, by decide⟩
    exact decodeFrom_ofBytes_verdict.mpr (.read (by decide) hadm
      (.cutInHeader (p := (20, ⟨"engine_type", .u8⟩)) (by decide) (by decide) (by decide)))
  obtain ⟨-, -, hshort, -⟩ := decodeFrom_refines default Source.brokenLine hs
  exact ⟨hs, hcut, (hshort _ _ _ _ hcut).1 _ rfl (by decide) rfl⟩

end DecoderConfig
end NetFlow
