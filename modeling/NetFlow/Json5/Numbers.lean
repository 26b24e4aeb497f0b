import NetFlow.Document.Basic
import NetFlow.Text.Hexadecimal

/-! Numbers of JSON5 texts, behind their sign: decimal with digits on either side of a
point, hexadecimal, or one of two names. -/
namespace NetFlow.Json5

def isHexDigit (c : Char) : Bool := (Hexadecimal.digit? c).isSome

def exponent (cs : List Char) : Option (Sign × List Char) × List Char :=
  match cs with
  | [] => (none, [])
  | c :: rest =>
    if c == 'e' || c == 'E' then
      let (s, digits) := Sign.take rest
      let ds := digits.takeWhile Char.isDigit
      if ds.isEmpty then (none, cs) else (some (s, ds), digits.dropWhile Char.isDigit)
    else (none, cs)

def whole (cs : List Char) : List Char × List Char :=
  match cs with
  | '0' :: rest => (['0'], rest)
  | cs => (cs.takeWhile Char.isDigit, cs.dropWhile Char.isDigit)

def decimal? (s : Sign) (cs : List Char) : Option (Numeral × List Char) :=
  let (ds, rest) := whole cs
  match rest with
  | '.' :: rest =>
    let fs := rest.takeWhile Char.isDigit
    if ds.isEmpty && fs.isEmpty then none
    else
      let (e, rest) := exponent (rest.dropWhile Char.isDigit)
      some (.decimal s ds (some fs) e, rest)
  | rest =>
    if ds.isEmpty then none
    else
      let (e, rest) := exponent rest
      some (.decimal s ds none e, rest)

def hex? (s : Sign) : List Char → Option (Numeral × List Char)
  | '0' :: x :: cs =>
    let ds := cs.takeWhile isHexDigit
    if (x == 'x' || x == 'X') && !ds.isEmpty then
      some (.hex s ds, cs.dropWhile isHexDigit)
    else none
  | _ => none

def named? (s : Sign) (cs : List Char) : Option (Numeral × List Char) :=
  let infinity := "Infinity".toList
  let nan := "NaN".toList
  if infinity.isPrefixOf cs then some (.infinity s, cs.drop infinity.length)
  else if nan.isPrefixOf cs then some (.nan s, cs.drop nan.length)
  else none

def number? (s : Sign) (cs : List Char) : Option (Numeral × List Char) :=
  (hex? s cs).or ((decimal? s cs).or (named? s cs))

theorem exponent_length_le (cs : List Char) : (exponent cs).2.length ≤ cs.length := by
  fun_cases exponent cs with
  | case1 => exact Nat.le_refl _
  | case2 => exact Nat.le_refl _
  | case3 c rest _ s digits h _ _ =>
    have hd := (List.dropWhile_suffix (l := digits) Char.isDigit).length_le
    have hr : digits.length ≤ rest.length := by simpa [h] using Sign.take_length_le rest
    simp only [List.length_cons]
    omega
  | case4 => exact Nat.le_refl _

theorem whole_length (cs : List Char) :
    (whole cs).1.length + (whole cs).2.length = cs.length := by
  unfold whole
  split
  · simp [Nat.add_comm]
  · rw [← List.length_append, List.takeWhile_append_dropWhile]

theorem decimal?_length_lt {s : Sign} {cs rest : List Char} {n : Numeral}
    (h : decimal? s cs = some (n, rest)) : rest.length < cs.length := by
  have hw := whole_length cs
  unfold decimal? at h
  dsimp only at h
  split at h
  case h_1 r hr =>
    have hd := (List.dropWhile_suffix (l := r) Char.isDigit).length_le
    have he := exponent_length_le (r.dropWhile Char.isDigit)
    split at h
    · simp at h
    · simp only [Option.some.injEq, Prod.mk.injEq] at h
      obtain ⟨_, rfl⟩ := h
      rw [hr, List.length_cons] at hw
      omega
  case h_2 =>
    have he := exponent_length_le (whole cs).2
    split at h
    · simp at h
    case isFalse hne =>
      simp only [Option.some.injEq, Prod.mk.injEq] at h
      obtain ⟨_, rfl⟩ := h
      have : 0 < (whole cs).1.length := by
        rw [List.length_pos_iff]
        simpa using hne
      omega

theorem hex?_length_lt {s : Sign} {cs rest : List Char} {n : Numeral}
    (h : hex? s cs = some (n, rest)) : rest.length < cs.length := by
  unfold hex? at h
  split at h
  case h_1 x r =>
    have hd := (List.dropWhile_suffix (l := r) isHexDigit).length_le
    dsimp only at h
    split at h
    · simp only [Option.some.injEq, Prod.mk.injEq] at h
      obtain ⟨_, rfl⟩ := h
      simp only [List.length_cons]
      omega
    · simp at h
  case h_2 => simp at h

theorem named?_length_lt {s : Sign} {cs rest : List Char} {n : Numeral}
    (h : named? s cs = some (n, rest)) : rest.length < cs.length := by
  unfold named? at h
  dsimp only at h
  split at h
  case isTrue hp =>
    have hl := (List.isPrefixOf_iff_prefix.1 hp).length_le
    simp only [Option.some.injEq, Prod.mk.injEq] at h
    obtain ⟨_, rfl⟩ := h
    have : 0 < "Infinity".toList.length := by decide
    simp only [List.length_drop]
    omega
  · split at h
    case isTrue hp =>
      have hl := (List.isPrefixOf_iff_prefix.1 hp).length_le
      simp only [Option.some.injEq, Prod.mk.injEq] at h
      obtain ⟨_, rfl⟩ := h
      have : 0 < "NaN".toList.length := by decide
      simp only [List.length_drop]
      omega
    · simp at h

theorem number?_length_lt {s : Sign} {cs rest : List Char} {n : Numeral}
    (h : number? s cs = some (n, rest)) : rest.length < cs.length := by
  simp only [number?, Option.or_eq_some_iff] at h
  rcases h with h | ⟨_, h | ⟨_, h⟩⟩
  · exact hex?_length_lt h
  · exact decimal?_length_lt h
  · exact named?_length_lt h

end NetFlow.Json5
