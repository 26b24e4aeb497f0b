import NetFlow.Document.Basic

/-! Numbers of JSON texts. No zero stands in front of other digits, and a point or an
exponent mark has digits behind it. -/
namespace NetFlow.Json

def fraction? : List Char → Option (Option (List Char) × List Char)
  | '.' :: cs =>
    let ds := cs.takeWhile Char.isDigit
    if ds.isEmpty then none else some (some ds, cs.dropWhile Char.isDigit)
  | cs => some (none, cs)

def exponent? (cs : List Char) : Option (Option (Sign × List Char) × List Char) :=
  match cs with
  | [] => some (none, [])
  | c :: rest =>
    if c == 'e' || c == 'E' then
      let (s, rest) := Sign.take rest
      let ds := rest.takeWhile Char.isDigit
      if ds.isEmpty then none else some (some (s, ds), rest.dropWhile Char.isDigit)
    else some (none, cs)

/-- A number after its sign: no zero in front of other digits. -/
def number? (s : Sign) (cs : List Char) : Option (Numeral × List Char) :=
  let whole := cs.takeWhile Char.isDigit
  if Decimal.isCanonical whole then do
    let (fraction, cs) ← fraction? (cs.dropWhile Char.isDigit)
    let (exponent, cs) ← exponent? cs
    return (.decimal s whole fraction exponent, cs)
  else none

theorem fraction?_length_le {cs rest : List Char} {x : Option (List Char)}
    (h : fraction? cs = some (x, rest)) : rest.length ≤ cs.length := by
  unfold fraction? at h
  split at h
  case h_1 cs =>
    have := (List.dropWhile_suffix (l := cs) Char.isDigit).length_le
    dsimp only at h
    split at h
    · simp at h
    · simp only [Option.some.injEq, Prod.mk.injEq] at h
      obtain ⟨_, rfl⟩ := h
      simp only [List.length_cons]
      omega
  case h_2 => simp_all

theorem exponent?_length_le {cs rest : List Char} {x : Option (Sign × List Char)}
    (h : exponent? cs = some (x, rest)) : rest.length ≤ cs.length := by
  cases cs with
  | nil => simp_all [exponent?]
  | cons c cs =>
    simp only [exponent?] at h
    have hs := Sign.take_length_le cs
    have hd := (List.dropWhile_suffix (l := (Sign.take cs).2) Char.isDigit).length_le
    split at h
    · split at h
      · simp at h
      · simp only [Option.some.injEq, Prod.mk.injEq] at h
        obtain ⟨_, rfl⟩ := h
        simp only [List.length_cons]
        omega
    · simp_all

theorem number?_length_lt {s : Sign} {cs rest : List Char} {n : Numeral}
    (h : number? s cs = some (n, rest)) : rest.length < cs.length := by
  simp only [number?, bind, Option.bind_eq_some_iff, Prod.exists, pure, Option.some.injEq,
    Prod.mk.injEq, Option.ite_none_right_eq_some] at h
  obtain ⟨hc, x, r, hf, y, r', he, _, rfl⟩ := h
  have hf := fraction?_length_le hf
  have he := exponent?_length_le he
  have hw : cs.takeWhile Char.isDigit ≠ [] := by
    intro h0
    simp [h0, Decimal.isCanonical] at hc
  have hl : (cs.takeWhile Char.isDigit).length + (cs.dropWhile Char.isDigit).length
      = cs.length := by
    rw [← List.length_append, List.takeWhile_append_dropWhile]
  have := List.length_pos_iff.2 hw
  omega

end NetFlow.Json
