import NetFlow.Record.Schema

/-! Records as text for a reader who wants to see every field: the type's name, and
behind it the fields with their values. -/
namespace NetFlow

def Address.inspect (x : Address) : String := s!"Address({x})"

/-- A field's value within a record: numbers plain, addresses with their type. -/
def FieldValue.inspectPlain : FieldValue → String
  | .addr x => x.inspect
  | v => v.text

def FieldValue.inspect : FieldValue → String
  | .u8 n => s!"U8({n})"
  | .u16 n => s!"U16({n})"
  | .u32 n => s!"U32({n})"
  | .addr x => s!"Addr({x.inspect})"

namespace Inspect

def fieldList (typeName : String) : List (String × String) → String
  | [] => typeName
  | fields =>
    typeName ++ " \x7b " ++ ", ".intercalate (fields.map fun f => s!"{f.1}: {f.2}") ++ " \x7d"

def row (fs : List Field) (r : Row fs) : List (String × String) :=
  (Row.values fs r).map fun v => (v.1, v.2.inspectPlain)

end Inspect

def Schema.inspect : (s : Schema) → s.Value → String
  | .plain typeName _ own, r => Inspect.fieldList typeName (Inspect.row own r)
  | .extending base baseKey typeName _ own, (b, r) =>
    Inspect.fieldList typeName ((baseKey, base.inspect b) :: Inspect.row own r)

end NetFlow
