import NetFlow.Document.Basic
import NetFlow.Json5.Pieces
import NetFlow.Text.Diacritics
import NetFlow.Text.Letters
import NetFlow.Text.Marks

/-! Words of JSON5 texts: keys without quotes, and a few values. -/
namespace NetFlow.Json5

def startsWord (c : Char) : Bool := CodePoints.isLetter c || c == '$' || c == '_'

def continuesWord (c : Char) : Bool :=
  startsWord c || CodePoints.isNonspacingMark c || CodePoints.isDiacritic c ||
    CodePoints.isDecimalDigit c || CodePoints.isConnector c || c == '\u200c' || c == '\u200d'

/-- The pieces of a word as far as it goes, the first character under its own rule. -/
def word (first : Bool) : List Char → List Piece × List Char
  | '\\' :: 'u' :: a :: b :: c :: d :: cs =>
    match Hexadecimal.value? [a, b, c, d] with
    | some n =>
      let (ps, rest) := word false cs
      (.unit [a, b, c, d] n :: ps, rest)
    | none => ([], '\\' :: 'u' :: a :: b :: c :: d :: cs)
  | c :: cs =>
    if if first then startsWord c else continuesWord c then
      let (ps, rest) := word false cs
      (.char [c] c :: ps, rest)
    else ([], c :: cs)
  | [] => ([], [])

def wordValue? (ps : List Piece) : Option Document :=
  let plain := ps.all fun p => match p with | .char _ _ => true | .unit _ _ => false
  if plain then
    match String.ofList (ps.flatMap Piece.raw) with
    | "null" => some .null
    | "true" => some (.bool true)
    | "false" => some (.bool false)
    | "Infinity" => some (.number (.infinity .bare))
    | "NaN" => some (.number (.nan .bare))
    | _ => none
  else none

theorem word_length_le (first : Bool) (cs : List Char) :
    (word first cs).1.length + (word first cs).2.length ≤ cs.length := by
  fun_induction word first cs <;> simp_all <;> omega

end NetFlow.Json5
