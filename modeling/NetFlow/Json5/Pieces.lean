import NetFlow.Document.Problem
import NetFlow.Text.Hexadecimal
import NetFlow.Text.Surrogate

/-! Strings of JSON5 texts: first the pieces up to the quote that closes the string,
then the text they denote. Escapes that denote no character are found only then. -/
namespace NetFlow.Json5

def isLineEnd (c : Char) : Bool :=
  c == '\n' || c == '\r' || c == '\u2028' || c == '\u2029'

/-- A part of a string or word, with the characters it is written by: a character, or a
code unit from an escape. -/
inductive Piece where
  | char (raw : List Char) (c : Char)
  | unit (raw : List Char) (n : Nat)

def Piece.raw : Piece → List Char
  | .char raw _ => raw
  | .unit raw _ => raw

def unescape (c : Char) : Char :=
  match c with
  | 'b' => '\x08'
  | 'f' => '\x0c'
  | 'n' => '\n'
  | 'r' => '\r'
  | 't' => '\t'
  | 'v' => '\x0b'
  | c => c

/-- The pieces of a string up to the quote that closes it, and what follows. A line may
go on behind a backslash; other digits than zero are no escapes. -/
def pieces? (quote : Char) : List Char → Option (List Piece × List Char)
  | [] => none
  | '\\' :: 'u' :: a :: b :: c :: d :: cs => do
    let n ← Hexadecimal.value? [a, b, c, d]
    let (ps, rest) ← pieces? quote cs
    return (.unit [a, b, c, d] n :: ps, rest)
  | '\\' :: 'x' :: a :: b :: cs => do
    let n ← Hexadecimal.value? [a, b]
    let (ps, rest) ← pieces? quote cs
    return (.char [a, b] (Char.ofNat n) :: ps, rest)
  | '\\' :: '\r' :: '\n' :: cs => pieces? quote cs
  | '\\' :: c :: cs =>
    if isLineEnd c then pieces? quote cs
    else if c == 'u' || c == 'x' || (c.isDigit && c != '0') then none
    else do
      let (ps, rest) ← pieces? quote cs
      return (.char [c] (if c == '0' then '\x00' else unescape c) :: ps, rest)
  | c :: cs =>
    if c == quote then some ([], cs)
    else if c == '\\' || isLineEnd c then none
    else do
      let (ps, rest) ← pieces? quote cs
      return (.char [c] c :: ps, rest)

/-- Joins pieces to text. What follows a lead surrogate is taken as hexadecimal digits,
however it is written, and must name a trail surrogate; the bits of the two are
combined without carry. -/
def join : Option Nat → List Piece → Except Complaint (List Char)
  | none, [] => .ok []
  | some _, [] => .error .missingTrail
  | some lead, p :: ps =>
    match Hexadecimal.value? p.raw with
    | none => .error .badHex
    | some n =>
      if Surrogate.isTrail n then
        (join none ps).map
          (Char.ofNat (((lead - 0xD800) <<< 10) ||| ((n - 0xDC00) + 0x10000)) :: ·)
      else .error .expectingTrail
  | none, .char _ c :: ps => (join none ps).map (c :: ·)
  | none, .unit _ n :: ps =>
    if Surrogate.isTrail n then .error .unexpectedTrail
    else if Surrogate.isLead n then join (some n) ps
    else (join none ps).map (Char.ofNat n :: ·)

def text (ps : List Piece) : Except Problem String :=
  match join none ps with
  | .ok cs => .ok (String.ofList cs)
  | .error c => .error (.contents c)

theorem pieces?_length_lt {quote : Char} {cs rest : List Char} {ps : List Piece}
    (h : pieces? quote cs = some (ps, rest)) : rest.length < cs.length := by
  fun_induction pieces? quote cs generalizing ps rest with
  | case1 => simp at h
  | case2 _ _ _ _ _ ih =>
    simp only [bind, Option.bind_eq_some_iff, Prod.exists, pure, Option.some.injEq,
      Prod.mk.injEq] at h
    obtain ⟨_, _, _, _, hr, _, rfl⟩ := h
    have := ih hr
    simp only [List.length_cons]
    omega
  | case3 _ _ _ ih =>
    simp only [bind, Option.bind_eq_some_iff, Prod.exists, pure, Option.some.injEq,
      Prod.mk.injEq] at h
    obtain ⟨_, _, _, _, hr, _, rfl⟩ := h
    have := ih hr
    simp only [List.length_cons]
    omega
  | case4 _ ih =>
    have := ih h
    simp only [List.length_cons]
    omega
  | case5 _ _ _ _ _ _ ih =>
    have := ih h
    simp only [List.length_cons]
    omega
  | case6 => simp at h
  | case7 _ _ _ _ _ _ _ ih =>
    simp only [bind, Option.bind_eq_some_iff, Prod.exists, pure, Option.some.injEq,
      Prod.mk.injEq] at h
    obtain ⟨_, _, hr, _, rfl⟩ := h
    have := ih hr
    simp only [List.length_cons]
    omega
  | case8 => simp_all
  | case9 => simp at h
  | case10 _ _ _ _ _ _ _ _ ih =>
    simp only [bind, Option.bind_eq_some_iff, Prod.exists, pure, Option.some.injEq,
      Prod.mk.injEq] at h
    obtain ⟨_, _, hr, _, rfl⟩ := h
    have := ih hr
    simp only [List.length_cons]
    omega

end NetFlow.Json5
