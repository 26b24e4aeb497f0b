/-! Byte sources: data handed out call by call, at most so many bytes at a time,
with interruptions in between and possibly a fault at some point. -/
namespace NetFlow

inductive FaultKind where
  | endOfData
  | device
  deriving DecidableEq, Repr

structure Failure where
  kind : FaultKind
  message : String
  deriving DecidableEq, Repr

def Failure.ended : Failure := ⟨.endOfData, "failed to fill whole buffer"⟩

/-- A failure of every call once `after` more bytes have been handed out. -/
structure Fault where
  after : Nat
  failure : Failure
  deriving DecidableEq, Repr

/-- Data not yet handed out, and how calls behave. With `interrupts` every other call
is interrupted; `interruptNow` says whether the next one is. -/
structure Source where
  data : List UInt8
  chunk : Option Nat
  interrupts : Bool
  interruptNow : Bool
  fault : Option Fault
  deriving DecidableEq, Repr

/-- The result of one call. No bytes at all mean that the data has ended. -/
inductive Delivery where
  | bytes (bs : List UInt8)
  | interrupted
  | failed (f : Failure)

namespace Source

def ofBytes (data : List UInt8) : Source := ⟨data, none, false, false, none⟩

def quota (s : Source) (want : Nat) : Nat :=
  let n := match s.chunk with
    | some c => min want c
    | none => want
  match s.fault with
  | some f => min n f.after
  | none => n

def advance (s : Source) (n : Nat) : Source :=
  { s with
    data := s.data.drop n
    fault := s.fault.map fun f => { f with after := f.after - n } }

def failure? (s : Source) : Option Failure :=
  match s.fault with
  | some ⟨0, f⟩ => some f
  | _ => none

def call (s : Source) (want : Nat) : Delivery × Source :=
  if s.interruptNow then (.interrupted, { s with interruptNow := false })
  else
    let s := { s with interruptNow := s.interrupts }
    match s.failure? with
    | some f => (.failed f, s)
    | none =>
      let bs := s.data.take (s.quota want)
      (.bytes bs, s.advance bs.length)

theorem call_interrupted {s t : Source} {want : Nat} (h : s.call want = (.interrupted, t)) :
    s.interruptNow = true ∧ t.interruptNow = false := by
  unfold call at h
  split at h
  case isTrue hi =>
    simp only [Prod.mk.injEq, true_and] at h
    exact ⟨hi, by rw [← h]⟩
  case isFalse =>
    dsimp only at h
    split at h <;> simp at h

/-- Calls again and again until `want` bytes are there. Interruptions are passed over;
the end of the data or a failure ends the read, and what it took is lost. -/
def fill (s : Source) (want : Nat) : Except Failure (List UInt8) × Source :=
  if want = 0 then (.ok [], s)
  else
    match _h : s.call want with
    | (.interrupted, t) => t.fill want
    | (.failed f, t) => (.error f, t)
    | (.bytes [], t) => (.error .ended, t)
    | (.bytes (b :: bs), t) =>
      match t.fill (want - (bs.length + 1)) with
      | (.ok rest, u) => (.ok (b :: bs ++ rest), u)
      | (.error f, u) => (.error f, u)
termination_by 2 * want + s.interruptNow.toNat
decreasing_by
  · obtain ⟨hs, ht⟩ := call_interrupted _h
    simp [hs, ht]
  · have := Bool.toNat_le t.interruptNow
    omega

end Source
end NetFlow
