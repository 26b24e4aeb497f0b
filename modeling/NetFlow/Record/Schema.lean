import NetFlow.Wire.Layout
import NetFlow.Wire.Reader

/-! Record declarations and what follows from one: the layout, the type of values, the
reader, the encoder and the list of field values. A declaration lists fields; it may
extend another one, whose fields then come first. -/
namespace NetFlow

/-- One value for each field of the list. -/
@[reducible] def Row : List Field → Type
  | [] => Unit
  | f :: fs => f.kind.Carrier × Row fs

namespace Row

def zero : (fs : List Field) → Row fs
  | [] => ()
  | f :: fs => (f.kind.zero, zero fs)

def read : (fs : List Field) → ReadM (Row fs)
  | [] => pure ()
  | f :: fs => do
    let x ← Reader.field f.name f.kind
    let r ← read fs
    return (x, r)

def encode : (fs : List Field) → Row fs → List UInt8
  | [], _ => []
  | f :: fs, (x, r) => f.kind.encode x ++ encode fs r

def encodeInto : (fs : List Field) → List UInt8 → Row fs → List UInt8
  | [], buffer, _ => buffer
  | f :: fs, buffer, (x, r) => encodeInto fs (buffer ++ f.kind.encode x) r

def values : (fs : List Field) → Row fs → List (String × FieldValue)
  | [], _ => []
  | f :: fs, (x, r) => (f.name, FieldValue.ofCarrier f.kind x) :: values fs r

end Row

/-- A record declaration: the name of its type, the label of its layout, its own fields,
and the declaration it extends with the name under which that one's value is kept. -/
inductive Schema where
  | plain (typeName label : String) (own : List Field)
  | extending (base : Schema) (baseKey typeName label : String) (own : List Field)
  deriving DecidableEq, Repr

namespace Schema

def typeName : Schema → String
  | plain typeName _ _ => typeName
  | extending _ _ typeName _ _ => typeName

def layout : Schema → Layout
  | plain _ label own => .root label own
  | extending base _ _ label own => .extend base.layout label own

@[reducible] def Value : Schema → Type
  | plain _ _ own => Row own
  | extending base _ _ _ own => base.Value × Row own

def zero : (s : Schema) → s.Value
  | plain _ _ own => Row.zero own
  | extending base _ _ _ own => (base.zero, Row.zero own)

/-- Reads what a record adds to a base that is already there. -/
def readAfterBase {base : Schema} (own : List Field) (b : base.Value) :
    ReadM (base.Value × Row own) := do
  let r ← Row.read own
  return (b, r)

def read : (s : Schema) → ReadM s.Value
  | plain _ _ own => Row.read own
  | extending base _ _ _ own => do
    let b ← base.read
    readAfterBase own b

def encode : (s : Schema) → s.Value → List UInt8
  | plain _ _ own, r => Row.encode own r
  | extending base _ _ _ own, (b, r) => base.encode b ++ Row.encode own r

def fieldValues : (s : Schema) → s.Value → List (String × FieldValue)
  | plain _ _ own, r => Row.values own r
  | extending base _ _ _ own, (b, r) => base.fieldValues b ++ Row.values own r

def encodeInto : (s : Schema) → List UInt8 → s.Value → List UInt8
  | plain _ _ own, buffer, r => Row.encodeInto own buffer r
  | extending base _ _ _ own, buffer, (b, r) =>
    Row.encodeInto own (base.encodeInto buffer b) r

def decode (s : Schema) (source : Source) : EStateM.Result Error Reader s.Value :=
  s.read (Reader.start source)

end Schema
end NetFlow
