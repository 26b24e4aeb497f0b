import NetFlow.Document.Assembly
import NetFlow.Json.Numbers
import NetFlow.Json.Pieces

/-! JSON texts as tokens: strings that serve as keys too, numbers, three words, and
blanks of four kinds. The first thing that is no token ends the list. -/
namespace NetFlow.Json

def leaf (d : Document) : Token := .leaf (some d) none

def word? (w : List Char) (d : Document) (cs : List Char) : Token × List Char :=
  if w.isPrefixOf cs then (leaf d, cs.drop w.length) else (.bad, [])

/-- The token that starts with `c`. Nothing is read behind a bad one. -/
def token (c : Char) (cs : List Char) : Token × List Char :=
  match c with
  | '[' => (.openArray, cs)
  | ']' => (.closeArray, cs)
  | '\x7b' => (.openObject, cs)
  | '\x7d' => (.closeObject, cs)
  | ',' => (.comma, cs)
  | ':' => (.colon, cs)
  | 'n' => word? ['u', 'l', 'l'] .null cs
  | 't' => word? ['r', 'u', 'e'] (.bool true) cs
  | 'f' => word? ['a', 'l', 's', 'e'] (.bool false) cs
  | '"' =>
    match pieces? cs with
    | some (ps, rest) => (.leaf (some (.string (text ps))) (some (text ps)), rest)
    | none => (.bad, [])
  | _ =>
    let found := if c == '-' then number? .minus cs
      else if c.isDigit then number? .bare (c :: cs) else none
    match found with
    | some (n, rest) => (leaf (.number n), rest)
    | none => (.bad, [])

def isBlank (c : Char) : Bool := c == ' ' || c == '\n' || c == '\t' || c == '\r'

theorem word?_length_le (w : List Char) (d : Document) (cs : List Char) :
    (word? w d cs).2.length ≤ cs.length := by
  unfold word?
  split <;> simp

theorem token_length_le (c : Char) (cs : List Char) : (token c cs).2.length ≤ cs.length := by
  unfold token
  split
  case h_10 =>
    split
    case h_1 ps rest h => exact Nat.le_of_lt (pieces?_length_lt h)
    case h_2 => simp
  case h_11 =>
    dsimp only
    split
    case h_1 n rest h =>
      split at h
      · exact Nat.le_of_lt (number?_length_lt h)
      · split at h
        · have := number?_length_lt h
          simp only [List.length_cons] at this
          exact Nat.le_of_lt_succ this
        · simp at h
    case h_2 => simp
  all_goals first | exact Nat.le_refl _ | exact word?_length_le _ _ _

def tokens : List Char → List Token
  | [] => []
  | c :: cs =>
    if isBlank c then tokens cs
    else
      let r := token c cs
      r.1 :: tokens r.2
termination_by cs => cs.length
decreasing_by
  · simp
  · exact Nat.lt_succ_of_le (token_length_le c cs)

end NetFlow.Json
