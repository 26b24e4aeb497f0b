import NetFlow.Document.Basic
import NetFlow.Document.Wording

/-! Reading typed values from documents. A dialect settles what formats do
differently; everything else is read the same way in all of them. -/
namespace NetFlow

/-- What a format decides about the reading of values. -/
structure Dialect where
  wording : Wording
  /-- The value as a refusal names it; problems inside the value itself come first. -/
  found : Document → Except Problem Found
  skip : Document → Except Problem Unit
  word16 : Document → Except Problem UInt16
  choice : List String → Document → Except Problem String
  /-- Whether items after the last field of an array are passed over in silence. -/
  allowsExtraItems : Bool

/-- The fields of a record as a document gives them: by name or by position. -/
inductive Members where
  | named (ms : List (String × Document))
  | positional (items : List Document)

abbrev FieldCheck := String × (Document → Except Problem Unit)

namespace Members

def get? (ms : Members) (index : Nat) (name : String) : Option Document :=
  match ms with
  | .named ms => ms.lookup name
  | .positional items => items[index]?

def require {α : Type} (ms : Members) (type : String) (arity index : Nat) (name : String)
    (read : Document → Except Problem α) : Except Problem α :=
  match ms.get? index name with
  | some d => read d
  | none =>
    match ms with
    | .named _ => throw (.contents (.missingField name))
    | .positional _ => throw (.contents (.wrongLength index type arity))

def getD {α : Type} (ms : Members) (index : Nat) (name : String) (default : α)
    (read : Document → Except Problem α) : Except Problem α :=
  match ms.get? index name with
  | some d => read d
  | none => pure default

end Members

def Document.optional {α : Type} (read : Document → Except Problem α) :
    Document → Except Problem (Option α)
  | .null => pure none
  | d => return some (← read d)

namespace Dialect
variable (x : Dialect) {α : Type}

def wrongType (d : Document) (expected : String) : Except Problem α := do
  throw (.contents (.wrongType (← x.found d) expected))

/-- Goes through the members in the order of the text: known keys once each and with
values that pass their test, other keys with any value. -/
def scan (checks : List FieldCheck) :
    List (String × Document) → List (Label × Document) → Except Problem (List (String × Document))
  | seen, [] => pure seen
  | _, (.stray, _) :: _ => throw .malformed
  | seen, (.key k, d) :: ms => do
    let k ← k
    match checks.lookup k with
    | some check =>
      if (seen.lookup k).isSome then throw (.contents (.duplicateField k))
      else
        check d
        scan checks ((k, d) :: seen) ms
    | none =>
      x.skip d
      scan checks seen ms

def members (type : String) (checks : List FieldCheck) : Document → Except Problem Members
  | .object ms => do return .named (← x.scan checks [] ms)
  | .array items => pure (.positional items)
  | d => x.wrongType d type

def finish (arity : Nat) : Members → Except Problem Unit
  | .named _ => pure ()
  | .positional items =>
    if x.allowsExtraItems || items.length ≤ arity then pure () else throw .malformed

def bool : Document → Except Problem Bool
  | .bool b => pure b
  | d => x.wrongType d "a boolean"

def string : Document → Except Problem String
  | .string s => s
  | d => x.wrongType d "a string"

def list (read : Document → Except Problem α) : Document → Except Problem (List α)
  | .array items => items.mapM read
  | d => x.wrongType d "a sequence"

end Dialect
end NetFlow
