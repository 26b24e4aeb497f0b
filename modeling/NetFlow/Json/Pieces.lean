import NetFlow.Document.Problem
import NetFlow.Text.Hexadecimal
import NetFlow.Text.Surrogate

/-! Strings of JSON texts: first the pieces up to the closing quote, then the text that
the pieces denote, if they denote one. -/
namespace NetFlow.Json

inductive Piece where
  | char (c : Char)
  | unit (n : Nat)

def unescape? : Char → Option Char
  | '"' => some '"'
  | '\\' => some '\\'
  | '/' => some '/'
  | 'b' => some '\x08'
  | 'f' => some '\x0c'
  | 'n' => some '\n'
  | 'r' => some '\r'
  | 't' => some '\t'
  | _ => none

def pieces? : List Char → Option (List Piece × List Char)
  | [] => none
  | '"' :: cs => some ([], cs)
  | '\\' :: 'u' :: a :: b :: c :: d :: cs => do
    let n ← Hexadecimal.value? [a, b, c, d]
    let (ps, rest) ← pieces? cs
    return (.unit n :: ps, rest)
  | '\\' :: c :: cs => do
    let c ← unescape? c
    let (ps, rest) ← pieces? cs
    return (.char c :: ps, rest)
  | c :: cs =>
    if c.toNat < 32 then none
    else do
      let (ps, rest) ← pieces? cs
      return (.char c :: ps, rest)

/-- Joins code units to characters. A lead and a trail surrogate make one character;
neither may stand alone. -/
def join : Option Nat → List Piece → Option (List Char)
  | none, [] => some []
  | some _, [] => none
  | none, .char c :: ps => (join none ps).map (c :: ·)
  | some _, .char _ :: _ => none
  | none, .unit n :: ps =>
    if Surrogate.isLead n then join (some n) ps
    else if Surrogate.isTrail n then none
    else (join none ps).map (Char.ofNat n :: ·)
  | some lead, .unit n :: ps =>
    if Surrogate.isTrail n then
      (join none ps).map (Surrogate.pair lead n :: ·)
    else none

def text (ps : List Piece) : Except Problem String :=
  match join none ps with
  | some cs => .ok (String.ofList cs)
  | none => .error .malformed

theorem pieces?_length_lt {cs rest : List Char} {ps : List Piece}
    (h : pieces? cs = some (ps, rest)) : rest.length < cs.length := by
  fun_induction pieces? cs generalizing ps rest with
  | case1 => simp at h
  | case2 cs => simp_all
  | case3 a b c d cs ih =>
    simp only [bind, Option.bind_eq_some_iff, Prod.exists, pure, Option.some.injEq,
      Prod.mk.injEq] at h
    obtain ⟨n, _, qs, r, hr, _, rfl⟩ := h
    have := ih hr
    simp only [List.length_cons]
    omega
  | case4 c cs _ ih =>
    simp only [bind, Option.bind_eq_some_iff, Prod.exists, pure, Option.some.injEq,
      Prod.mk.injEq] at h
    obtain ⟨n, _, qs, r, hr, _, rfl⟩ := h
    have := ih hr
    simp only [List.length_cons]
    omega
  | case5 => simp at h
  | case6 c cs _ _ _ _ ih =>
    simp only [bind, Option.bind_eq_some_iff, Prod.exists, pure, Option.some.injEq,
      Prod.mk.injEq] at h
    obtain ⟨qs, r, hr, _, rfl⟩ := h
    have := ih hr
    simp only [List.length_cons]
    omega

end NetFlow.Json
