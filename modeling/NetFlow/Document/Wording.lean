import NetFlow.Document.Problem
import NetFlow.Text.Quoted
import NetFlow.Text.Shortest

/-! The texts in which wrong contents are reported. Two things differ from format to
format: the name of a null value and the way real numbers are written. -/
namespace NetFlow

structure Wording where
  null : String
  real : RealStyle

def Found.text (w : Wording) : Found → String
  | .null => w.null
  | .bool b => s!"boolean `{b}`"
  | .integer n => s!"integer `{n}`"
  | .real x => "floating point `" ++ w.real.write x ++ "`"
  | .string s => "string " ++ Quoted.write s
  | .sequence => "sequence"
  | .map => "map"
  | .unitVariant => "unit variant"

def Complaint.choices : List String → String
  | [x] => "`" ++ x ++ "`"
  | [x, y] => "`" ++ x ++ "` or `" ++ y ++ "`"
  | xs => "one of " ++ ", ".intercalate (xs.map fun x => "`" ++ x ++ "`")

def Complaint.message (w : Wording) : Complaint → String
  | .wrongType found expected => s!"invalid type: {found.text w}, expected {expected}"
  | .outOfRange n expected => s!"invalid value: integer `{n}`, expected {expected}"
  | .missingField name => s!"missing field `{name}`"
  | .duplicateField name => s!"duplicate field `{name}`"
  | .wrongLength length type arity =>
    let elements := if arity = 1 then "element" else "elements"
    s!"invalid length {length}, expected {type} with {arity} {elements}"
  | .unknownVariant name known =>
    s!"unknown variant `{name}`, expected {Complaint.choices known}"
  | .badAddress => "invalid IPv4 address syntax"
  | .unsupportedVersion tag => s!"Unsupported NetFlow version: {tag}"
  | .badHex => "error parsing hex"
  | .badNumber => "error parsing number"
  | .badInteger => "error parsing integer"
  | .numberTooLarge => "error parsing number: too large"
  | .missingTrail => "missing unicode trail surrogate"
  | .expectingTrail => "expecting unicode trail surrogate"
  | .unexpectedTrail => "unexpected unicode trail surrogate"
  | .emptyObject => "expected a nonempty object"
  | .noVariant => "expected a string or an object"

end NetFlow
