import NetFlow.Error
import NetFlow.Wire.Field
import NetFlow.Wire.Source

/-! Reading fields one after another from a source. The offset counts the bytes of
complete fields; a failed read leaves it where the field began. -/
namespace NetFlow

structure Reader where
  source : Source
  offset : Nat

def Reader.start (s : Source) : Reader := ⟨s, 0⟩

/-- Reads that fail with an error and keep the reader in either case. -/
abbrev ReadM := EStateM Error Reader

def Failure.error (f : Failure) (field : String) (offset width : Nat) : Error :=
  match f.kind with
  | .endOfData => .shortRead field offset width f.message
  | .device => .io field offset f.message

namespace Reader

def field (name : String) (k : Kind) : ReadM k.Carrier := fun r =>
  match r.source.fill k.width with
  | (.ok bs, s) => .ok (k.decode bs) ⟨s, r.offset + k.width⟩
  | (.error f, s) => .error (f.error name r.offset k.width) ⟨s, r.offset⟩

def value (f : Field) : ReadM FieldValue :=
  FieldValue.ofCarrier f.kind <$> field f.name f.kind

def values : List Field → ReadM (List FieldValue)
  | [] => pure []
  | f :: fs => do
    let v ← value f
    let vs ← values fs
    return v :: vs

/-- Reads `n` times and keeps the results in order behind those of `done`, which come
last first. -/
@[specialize] def timesOnto {α : Type} (read : ReadM α) : Nat → List α → ReadM (List α)
  | 0, done => pure done.reverse
  | n + 1, done => do
    let a ← read
    timesOnto read n (a :: done)

@[inline] def times {α : Type} (read : ReadM α) (n : Nat) : ReadM (List α) :=
  timesOnto read n []

end Reader
end NetFlow
