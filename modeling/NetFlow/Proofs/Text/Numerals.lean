import Mathlib.Data.List.Induction
import NetFlow.Text.Decimal

/-! Numerals as numbers are written: they are in the form that readers ask for, no other digits
are read as the same number, and a text that goes on with no digit does not make them longer. -/
namespace NetFlow

def Decimal.Ends (cs : List Char) : Prop := ∀ c ∈ cs.head?, c.isDigit = false

/-- Digits that a number could be written with: at least one, and no zero in front of others. -/
structure Decimal.Numeral (ds : List Char) : Prop where
  ne_nil : ds ≠ []
  digit : ∀ c ∈ ds, c.isDigit = true
  zero : ds.head? = some '0' → ds = ['0']

namespace Decimal

theorem ends_nil : Ends [] := by
  intro c hc
  cases hc

theorem ends_cons {c : Char} {cs : List Char} (h : c.isDigit = false) : Ends (c :: cs) := by
  intro d hd
  cases hd
  exact h

theorem mem_of_isDigit {c : Char} (hc : c.isDigit = true) : c ∈ "0123456789".toList := by
  have hall : ∀ n < 58, 48 ≤ n → Char.ofNat n ∈ "0123456789".toList := by decide
  simp only [Char.isDigit, Bool.and_eq_true, decide_eq_true_eq] at hc
  have hlow : 48 ≤ c.toNat := hc.1
  have hhigh : c.toNat ≤ 57 := hc.2
  have hmem := hall c.toNat (by omega) hlow
  rwa [Char.ofNat_toNat] at hmem

theorem exists_digits_cons (n : Nat) : ∃ c cs, digits n = c :: cs ∧ c.isDigit = true := by
  obtain ⟨c, cs, hd⟩ := List.exists_cons_of_ne_nil (digits_ne_nil n)
  exact ⟨c, cs, hd, isDigit_of_mem_digits (hd ▸ List.mem_cons_self)⟩

theorem head?_digits {n : Nat} (h : n ≠ 0) : (digits n).head? ≠ some '0' := by
  induction n using Nat.strongRecOn with
  | ind n ih =>
    rw [digits, Nat.toDigits_eq_if (by decide)]
    by_cases hn : n < 10
    · simp only [hn, ↓reduceIte, List.head?_cons, ne_eq, Option.some.injEq]
      intro h0
      exact h (Nat.digitChar_eq_zero.mp h0)
    · have hq : n / 10 ≠ 0 := by omega
      have hrec := ih (n / 10) (by omega) hq
      obtain ⟨c, cs, hd⟩ := List.exists_cons_of_ne_nil (digits_ne_nil (n / 10))
      rw [hd] at hrec
      rw [digits] at hd
      simpa only [hn, ↓reduceIte, hd, List.cons_append, List.head?_cons] using hrec

theorem isCanonical_digits (n : Nat) : isCanonical (digits n) = true := by
  by_cases h : n = 0
  · subst h
    rfl
  · have hhead := head?_digits h
    have hall : ∀ c ∈ digits n, c.isDigit = true := fun _ => isDigit_of_mem_digits
    cases hd : digits n with
    | nil => exact absurd hd (digits_ne_nil n)
    | cons c cs =>
      rw [hd] at hhead hall
      have hc : c ≠ '0' := by simpa using hhead
      cases cs with
      | nil => exact hall c List.mem_cons_self
      | cons d ds => simpa [isCanonical, hc] using hall

theorem read?_digits (n : Nat) : read? (digits n) = some n := by
  rw [read?, if_pos (isCanonical_digits n), value_digits]

theorem isCanonical_iff (ds : List Char) : isCanonical ds = true ↔ Numeral ds := by
  constructor
  · intro h
    cases ds with
    | nil => cases h
    | cons c cs =>
      cases cs with
      | nil =>
        refine ⟨List.cons_ne_nil c [], List.forall_mem_singleton.mpr h, ?_⟩
        intro hc
        rw [Option.some.inj hc]
      | cons d cs =>
        simp only [isCanonical, Bool.and_eq_true, bne_iff_ne, List.all_eq_true] at h
        exact ⟨List.cons_ne_nil c _, h.2, fun hc => absurd (Option.some.inj hc) h.1⟩
  · rintro ⟨hnil, hdigit, hzero⟩
    cases ds with
    | nil => exact absurd rfl hnil
    | cons c cs =>
      cases cs with
      | nil => exact hdigit c List.mem_cons_self
      | cons d cs =>
        have hc : c ≠ '0' := by
          rintro rfl
          cases hzero rfl
        simp only [isCanonical, Bool.and_eq_true, bne_iff_ne, List.all_eq_true]
        exact ⟨hc, hdigit⟩

theorem numeral_digits (n : Nat) : Numeral (digits n) :=
  (isCanonical_iff _).mp (isCanonical_digits n)

theorem digits_digit {c : Char} (h : c.isDigit = true) :
    c.toNat - '0'.toNat < 10 ∧ digits (c.toNat - '0'.toNat) = [c] := by
  have hall : "0123456789".toList.all fun c =>
      decide (c.toNat - '0'.toNat < 10 ∧ digits (c.toNat - '0'.toNat) = [c]) := by decide
  exact of_decide_eq_true (List.all_eq_true.mp hall c (mem_of_isDigit h))

theorem value_concat (ds : List Char) (c : Char) :
    value (ds ++ [c]) = 10 * value ds + (c.toNat - '0'.toNat) := by
  rw [value, Nat.ofDigitChars_append, Nat.ofDigitChars_cons, Nat.ofDigitChars_nil, value]

theorem digits_value {ds : List Char} (h : Numeral ds) : digits (value ds) = ds := by
  -- The last digit is the remainder, and those before it are a numeral of their own.
  induction ds using List.reverseRecOn with
  | nil => exact absurd rfl h.ne_nil
  | append_singleton ds c ih =>
    obtain ⟨hlow, hc⟩ := digits_digit (h.digit c (by simp))
    rw [value_concat]
    cases ds with
    | nil =>
      rw [value, Nat.ofDigitChars_nil, Nat.mul_zero, Nat.zero_add, hc]
      rfl
    | cons d ds =>
      have hd : d ≠ '0' := by
        rintro rfl
        have hlone := h.zero rfl
        simp at hlone
      have hrec : digits (value (d :: ds)) = d :: ds := by
        refine ih ⟨List.cons_ne_nil d ds, fun c hc => h.digit c (List.mem_append_left _ hc), ?_⟩
        intro h0
        exact absurd (Option.some.inj h0) hd
      have hpos : 0 < value (d :: ds) := by
        apply Nat.pos_of_ne_zero
        intro h0
        rw [h0] at hrec
        exact hd (List.cons.inj hrec).1.symm
      rw [digits] at hrec hc ⊢
      rw [← Nat.toDigits_append_toDigits (by decide) hpos hlow, hrec, hc]

/-- The digits of a number are the only ones that are read as it. -/
theorem read?_eq_some_iff {ds : List Char} {n : Nat} : read? ds = some n ↔ ds = digits n := by
  constructor
  · intro h
    rw [read?] at h
    split at h
    case isTrue hc =>
      rw [← Option.some.inj h, digits_value ((isCanonical_iff ds).mp hc)]
    case isFalse => cases h
  · rintro rfl
    exact read?_digits n

theorem takeWhile_of_ends {cs : List Char} (h : Ends cs) : cs.takeWhile Char.isDigit = [] := by
  cases cs with
  | nil => rfl
  | cons c cs => rw [List.takeWhile_cons_of_neg (by simpa using h c rfl)]

theorem dropWhile_of_ends {cs : List Char} (h : Ends cs) : cs.dropWhile Char.isDigit = cs := by
  cases cs with
  | nil => rfl
  | cons c cs => rw [List.dropWhile_cons_of_neg (by simpa using h c rfl)]

theorem takeWhile_digits (n : Nat) {cs : List Char} (h : Ends cs) :
    (digits n ++ cs).takeWhile Char.isDigit = digits n := by
  rw [List.takeWhile_append_of_pos fun _ => isDigit_of_mem_digits, takeWhile_of_ends h,
    List.append_nil]

theorem dropWhile_digits (n : Nat) {cs : List Char} (h : Ends cs) :
    (digits n ++ cs).dropWhile Char.isDigit = cs := by
  rw [List.dropWhile_append_of_pos fun _ => isDigit_of_mem_digits, dropWhile_of_ends h]

end Decimal
end NetFlow
