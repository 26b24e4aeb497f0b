import NetFlow.Json.Chars
import NetFlow.Json.Tokens

/-! Quoted text is read back, whatever characters are in it. -/
namespace NetFlow.Json

section
variable {α : Type}

/-- The reader of a quoted text takes the escape of `c` as one piece, and with that piece the text
says `c`. -/
def Restored (read : List Char → Option (List α × List Char))
    (Spells : List α → List Char → Prop) (c : Char) : Prop :=
  ∃ p, (∀ {cs ps rest}, read cs = some (ps, rest) →
      read (escape c ++ cs) = some (p :: ps, rest)) ∧
    ∀ {ps s}, Spells ps s → Spells (p :: ps) (c :: s)

theorem read_escaped {read : List Char → Option (List α × List Char)}
    (Spells : List α → List Char → Prop) (hend : ∀ rest, read ('"' :: rest) = some ([], rest))
    (hnil : Spells [] []) {s : List Char} (hs : ∀ c ∈ s, Restored read Spells c)
    (rest : List Char) :
    ∃ ps, read (s.flatMap escape ++ '"' :: rest) = some (ps, rest) ∧ Spells ps s := by
  induction s with
  | nil => exact ⟨[], hend rest, hnil⟩
  | cons c s ih =>
    obtain ⟨⟨p, hp, hc⟩, hs⟩ := List.forall_mem_cons.mp hs
    obtain ⟨ps, hps, hspells⟩ := ih hs
    refine ⟨p :: ps, ?_, hc hspells⟩
    rw [List.flatMap_cons, List.append_assoc]
    exact hp hps

end

theorem escape_cases (c : Char) :
    c ∈ ['"', '\\', '\x08', '\x0c', '\n', '\r', '\t'] ∨
    (c.toNat < 32 ∧ escape c =
      ['\\', 'u', '0', '0', Nat.digitChar (c.toNat / 16), Nat.digitChar (c.toNat % 16)]) ∨
    (c ≠ '"' ∧ c ≠ '\\' ∧ ¬ c.toNat < 32 ∧ escape c = [c]) := by
  by_cases hshort : c ∈ ['"', '\\', '\x08', '\x0c', '\n', '\r', '\t']
  · exact .inl hshort
  · simp only [List.mem_cons, List.not_mem_nil, or_false, not_or] at hshort
    obtain ⟨h₁, h₂, h₃, h₄, h₅, h₆, h₇⟩ := hshort
    by_cases hc : c.toNat < 32
    · exact .inr (.inl ⟨hc, by simp [escape, h₁, h₂, h₃, h₄, h₅, h₆, h₇, hc]⟩)
    · exact .inr (.inr ⟨h₁, h₂, hc, by simp [escape, h₁, h₂, h₃, h₄, h₅, h₆, h₇, hc]⟩)

theorem quote_append (s : String) (cs : List Char) :
    quote s ++ cs = '"' :: (s.toList.flatMap escape ++ '"' :: cs) := by
  simp [quote]

variable {c : Char} {cs rest s : List Char} {ps : List Piece}

theorem value?_control (n : Nat) (h : n < 32) : Hexadecimal.value?
    ['0', '0', Nat.digitChar (n / 16), Nat.digitChar (n % 16)] = some n := by
  have hall : ∀ n < 32, Hexadecimal.value?
      ['0', '0', Nat.digitChar (n / 16), Nat.digitChar (n % 16)] = some n := by decide
  exact hall n h

theorem join_unit_control {n : Nat} (h : n < 32) (hs : join none ps = some s) :
    join none (.unit n :: ps) = some (Char.ofNat n :: s) := by
  have hlead : Surrogate.isLead n = false := Surrogate.isLead_of_lt (by omega)
  have htrail : Surrogate.isTrail n = false := Surrogate.isTrail_of_lt (by omega)
  simp [join, hlead, htrail, hs]

theorem pieces?_plain (hq : c ≠ '"') (hb : c ≠ '\\') (hc : ¬ c.toNat < 32)
    (h : pieces? cs = some (ps, rest)) : pieces? (c :: cs) = some (.char c :: ps, rest) := by
  rw [pieces?.eq_def]
  split
  case h_5 heq =>
    cases heq
    simp [hc, h]
  all_goals simp_all

theorem pieces?_short (hc : c ∈ ['"', '\\', '\x08', '\x0c', '\n', '\r', '\t'])
    (h : pieces? cs = some (ps, rest)) :
    pieces? (escape c ++ cs) = some (.char c :: ps, rest) := by
  simp only [List.mem_cons, List.not_mem_nil, or_false] at hc
  obtain rfl | rfl | rfl | rfl | rfl | rfl | rfl := hc <;>
    simp [escape, pieces?, unescape?, h]

theorem restored (c : Char) : Restored pieces? (fun ps s => join none ps = some s) c := by
  obtain hshort | ⟨hc, he⟩ | ⟨hq, hb, hc, he⟩ := escape_cases c
  · exact ⟨.char c, pieces?_short hshort, fun h => by simp [join, h]⟩
  · refine ⟨.unit c.toNat, ?_, ?_⟩
    · intro cs ps rest h
      have hv := value?_control c.toNat hc
      simp [he, pieces?, hv, h]
    · intro ps s h
      rw [join_unit_control hc h, Char.ofNat_toNat]
  · refine ⟨.char c, ?_, fun h => by simp [join, h]⟩
    intro cs ps rest h
    rw [he]
    exact pieces?_plain hq hb hc h

theorem pieces?_escaped (s rest : List Char) : ∃ ps,
    pieces? (s.flatMap escape ++ '"' :: rest) = some (ps, rest) ∧ join none ps = some s :=
  read_escaped (fun ps s => join none ps = some s) (fun _ => by simp [pieces?]) rfl
    (fun c _ => restored c) rest

/-- A quoted string is one token, which says what was quoted. -/
theorem token_quoted (s : String) (rest : List Char) :
    token '"' (s.toList.flatMap escape ++ '"' :: rest) =
      (.leaf (some (.ofString s)) (some (.ok s)), rest) := by
  obtain ⟨ps, hps, hs⟩ := pieces?_escaped s.toList rest
  have ht : text ps = .ok s := by
    simp [text, hs]
  simp [token, hps, ht, Document.ofString]

end NetFlow.Json
