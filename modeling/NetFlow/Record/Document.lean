import NetFlow.Json.Chars
import NetFlow.Json.Values
import NetFlow.Record.Schema

/-! Records as JSON documents. A record is an object of its fields, and a base is an
object of its own within; an array of the fields in order is read as well. -/
namespace NetFlow

def FieldValue.toDocument : FieldValue → Document
  | .u8 n => .ofNat n.toNat
  | .u16 n => .ofNat n.toNat
  | .u32 n => .ofNat n.toNat
  | .addr x => .ofString x.text

def Kind.ofDocument : (k : Kind) → Document → Except Problem k.Carrier
  | .u8 => Json.word8
  | .u16 => Json.word16
  | .u32 => Json.word32
  | .addr => Json.address

namespace Row

def toMembers (fs : List Field) (r : Row fs) : List (String × Document) :=
  (values fs r).map fun v => (v.1, v.2.toDocument)

def checks (fs : List Field) : List FieldCheck :=
  fs.map fun f => (f.name, fun d => discard (f.kind.ofDocument d))

/-- The fields of a record of `arity` fields, from the `index`th on. -/
def ofMembers (type : String) (arity : Nat) (ms : Members) :
    Nat → (fs : List Field) → Except Problem (Row fs)
  | _, [] => pure ()
  | index, f :: fs => do
    let x ← ms.require type arity index f.name f.kind.ofDocument
    let r ← ofMembers type arity ms (index + 1) fs
    return (x, r)

end Row

namespace Schema

def toDocument : (s : Schema) → s.Value → Document
  | plain _ _ own, r => .ofMembers (Row.toMembers own r)
  | extending base baseKey _ _ own, (b, r) =>
    .ofMembers ((baseKey, base.toDocument b) :: Row.toMembers own r)

def ofDocument : (s : Schema) → Document → Except Problem s.Value
  | plain typeName _ own, d => do
    let type := "struct " ++ typeName
    let ms ← Json.dialect.members type (Row.checks own) d
    let r ← Row.ofMembers type own.length ms 0 own
    Json.dialect.finish own.length ms
    return r
  | extending base baseKey typeName _ own, d => do
    let type := "struct " ++ typeName
    let arity := own.length + 1
    let baseCheck : FieldCheck := (baseKey, fun d => discard (base.ofDocument d))
    let ms ← Json.dialect.members type (baseCheck :: Row.checks own) d
    let b ← ms.require type arity 0 baseKey base.ofDocument
    let r ← Row.ofMembers type arity ms 1 own
    Json.dialect.finish arity ms
    return (b, r)

end Schema
end NetFlow
