import NetFlow.Text.Binary64

/-! What can be wrong with a document: its form, or its contents. -/
namespace NetFlow

/-- A value as a refusal names it. -/
inductive Found where
  | null
  | bool (b : Bool)
  | integer (n : Int)
  | real (x : Binary64)
  | string (s : String)
  | sequence
  | map
  | unitVariant
  deriving DecidableEq, Repr

/-- A well-formed document that does not say what it should. -/
inductive Complaint where
  | wrongType (found : Found) (expected : String)
  | outOfRange (n : Int) (expected : String)
  | missingField (name : String)
  | duplicateField (name : String)
  | wrongLength (length : Nat) (type : String) (arity : Nat)
  | unknownVariant (name : String) (known : List String)
  | badAddress
  | unsupportedVersion (tag : UInt16)
  | badHex
  | badNumber
  | badInteger
  | numberTooLarge
  | missingTrail
  | expectingTrail
  | unexpectedTrail
  | emptyObject
  | noVariant
  deriving DecidableEq, Repr

inductive Problem where
  | malformed
  | contents (c : Complaint)
  deriving DecidableEq, Repr

end NetFlow
