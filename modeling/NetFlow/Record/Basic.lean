import NetFlow.Record.Document
import NetFlow.Record.Inspect

/-! Types whose values are those of a record declaration. Everything about them is
taken from the declaration through two inverse conversions. -/
namespace NetFlow

class Record (α : Type) where
  schema : Schema
  toRow : α → schema.Value
  ofRow : schema.Value → α
  ofRow_toRow : ∀ a, ofRow (toRow a) = a
  toRow_ofRow : ∀ r, toRow (ofRow r) = r

namespace Record

section
variable (α : Type) [Record α]

def layout : Layout := (schema α).layout

def zero : α := ofRow (schema α).zero

def read : ReadM α := ofRow <$> (schema α).read

def ofDocument (d : Document) : Except Problem α := ofRow <$> (schema α).ofDocument d

def decode (s : Source) : EStateM.Result Error Reader α := read α (Reader.start s)

end

variable {α : Type} [Record α]

def encode (a : α) : List UInt8 := (schema α).encode (toRow a)

def encodeInto (buffer : List UInt8) (a : α) : List UInt8 :=
  (schema α).encodeInto buffer (toRow a)

def fieldValues (a : α) : List (String × FieldValue) := (schema α).fieldValues (toRow a)

def toDocument (a : α) : Document := (schema α).toDocument (toRow a)

def inspect (a : α) : String := (schema α).inspect (toRow a)

end Record
end NetFlow
