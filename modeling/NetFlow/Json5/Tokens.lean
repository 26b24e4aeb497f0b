import NetFlow.Document.Assembly
import NetFlow.Json5.Numbers
import NetFlow.Json5.Words

/-! JSON5 texts as tokens, with comments and blanks between them. Every token takes up
some of the text; a text that fits no token ends the list. -/
namespace NetFlow.Json5

/-- Blanks of one line, the byte order mark among them, and line ends. -/
def isBlank (c : Char) : Bool :=
  c == '\t' || c == '\x0b' || c == '\x0c' || c == ' ' || c == '\u00a0' || c == '\ufeff' ||
    c == '\u1680' || ('\u2000' ≤ c && c ≤ '\u200a') || c == '\u202f' || c == '\u205f' ||
    c == '\u3000' || isLineEnd c

def afterComment? : List Char → Option (List Char)
  | [] => none
  | '*' :: '/' :: cs => some cs
  | _ :: cs => afterComment? cs

def ofNumber : Option (Numeral × List Char) → Token × List Char
  | some (n, rest) => (.leaf (some (.number n)) none, rest)
  | none => (.bad, [])

def ofString : Option (List Piece × List Char) → Token × List Char
  | some (ps, rest) => (.leaf (some (.string (text ps))) (some (text ps)), rest)
  | none => (.bad, [])

def ofWord : List Piece × List Char → Token × List Char
  | ([], _) => (.bad, [])
  | (ps, rest) => (.leaf (wordValue? ps) (some (text ps)), rest)

def token (c : Char) (cs : List Char) : Token × List Char :=
  match c with
  | '[' => (.openArray, cs)
  | ']' => (.closeArray, cs)
  | '\x7b' => (.openObject, cs)
  | '\x7d' => (.closeObject, cs)
  | ',' => (.comma, cs)
  | ':' => (.colon, cs)
  | '"' => ofString (pieces? '"' cs)
  | '\'' => ofString (pieces? '\'' cs)
  | '+' => ofNumber (number? .plus cs)
  | '-' => ofNumber (number? .minus cs)
  | c =>
    if c.isDigit || c == '.' then
      match number? .bare (c :: cs) with
      | some (n, rest) => (.leaf (some (.number n)) none, rest)
      | none => (.bad, [])
    else ofWord (word true (c :: cs))

theorem afterComment?_length_lt {cs rest : List Char} (h : afterComment? cs = some rest) :
    rest.length < cs.length := by
  fun_induction afterComment? cs with
  | case1 => simp at h
  | case2 cs =>
    obtain rfl := Option.some.inj h
    simp only [List.length_cons]
    omega
  | case3 c cs _ ih => exact Nat.lt_succ_of_lt (ih h)

theorem ofNumber_length_le {cs : List Char} {s : Sign} :
    (ofNumber (number? s cs)).2.length ≤ cs.length := by
  unfold ofNumber
  split
  case h_1 h => exact Nat.le_of_lt (number?_length_lt h)
  case h_2 => simp

theorem ofString_length_le {cs : List Char} {quote : Char} :
    (ofString (pieces? quote cs)).2.length ≤ cs.length := by
  unfold ofString
  split
  case h_1 h => exact Nat.le_of_lt (pieces?_length_lt h)
  case h_2 => simp

theorem token_length_le (c : Char) (cs : List Char) : (token c cs).2.length ≤ cs.length := by
  unfold token
  split
  case h_7 => exact ofString_length_le
  case h_8 => exact ofString_length_le
  case h_9 => exact ofNumber_length_le
  case h_10 => exact ofNumber_length_le
  case h_11 =>
    split
    · split
      case h_1 h => exact Nat.le_of_lt_succ (number?_length_lt h)
      case h_2 => simp
    · have hw := word_length_le true (c :: cs)
      unfold ofWord
      split
      · simp
      case h_2 ps rest hne h =>
        rw [h] at hw
        have : 0 < ps.length := by
          rw [List.length_pos_iff]
          intro h0
          exact hne h0
        simp only [List.length_cons] at hw
        dsimp only
        omega
  all_goals exact Nat.le_refl _

def tokens : List Char → List Token
  | [] => []
  | '/' :: '/' :: cs => tokens (cs.dropWhile fun c => !isLineEnd c)
  | '/' :: '*' :: cs =>
    match _h : afterComment? cs with
    | some rest => tokens rest
    | none => [.bad]
  | c :: cs =>
    if isBlank c then tokens cs
    else
      let r := token c cs
      r.1 :: tokens r.2
termination_by cs => cs.length
decreasing_by
  · have := (List.dropWhile_suffix (l := cs) (fun c => !isLineEnd c)).length_le
    simp only [List.length_cons]
    omega
  · have := afterComment?_length_lt _h
    simp only [List.length_cons]
    omega
  · simp
  · exact Nat.lt_succ_of_le (token_length_le c cs)

end NetFlow.Json5
