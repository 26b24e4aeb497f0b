import NetFlow.Address
import NetFlow.Proofs.Text.Numerals

/-! Dotted text of addresses is read back, and nothing else is read. -/
namespace NetFlow.Address
open Decimal

theorem octet?_digits (n : UInt8) {cs : List Char} (h : Ends cs) :
    octet? (digits n.toNat ++ cs) = some (n, cs) := by
  rw [octet?, takeWhile_digits _ h, dropWhile_digits _ h, read?_digits]
  simp only [n.toNat_lt, ↓reduceIte, UInt8.ofNat_toNat]

theorem ends_dot (cs : List Char) : Ends ('.' :: cs) := ends_cons rfl

theorem ofChars?_chars (x : Address) : ofChars? x.chars = some x := by
  have hd : octet? (digits x.d.toNat) = some (x.d, []) := by
    have h := octet?_digits x.d ends_nil
    rwa [List.append_nil] at h
  simp [ofChars?, chars, octet?_digits _ (ends_dot _), hd, dot?]

theorem parse?_text (x : Address) : parse? x.text = some x := by
  rw [parse?, text, String.toList_ofList, ofChars?_chars]

theorem eq_of_octet? {cs rest : List Char} {n : UInt8} (h : octet? cs = some (n, rest)) :
    cs = digits n.toNat ++ rest := by
  rw [octet?] at h
  cases hr : read? (cs.takeWhile Char.isDigit) with
  | none =>
    rw [hr] at h
    cases h
  | some m =>
    simp only [hr, Option.ite_none_right_eq_some, Option.some.injEq, Prod.mk.injEq] at h
    obtain ⟨hm, rfl, rfl⟩ := h
    rw [UInt8.toNat_ofNat_of_lt' hm, ← read?_eq_some_iff.mp hr, List.takeWhile_append_dropWhile]

theorem eq_of_dot? {cs rest : List Char} (h : dot? cs = some rest) : cs = '.' :: rest := by
  unfold dot? at h
  split at h
  · rw [Option.some.inj h]
  · cases h

theorem eq_chars_of_ofChars? {cs : List Char} {x : Address} (h : ofChars? cs = some x) :
    cs = x.chars := by
  simp only [ofChars?, bind, Option.bind_eq_some_iff, Prod.exists] at h
  obtain ⟨a, as, ha, bs, hab, b, bs', hb, cs', hbc, c, cs'', hc, ds, hcd, d, rest, hd, hx⟩ := h
  simp only [List.isEmpty_iff, Option.ite_none_right_eq_some, Option.some.injEq] at hx
  obtain ⟨rfl, rfl⟩ := hx
  rw [eq_of_octet? ha, eq_of_dot? hab, eq_of_octet? hb, eq_of_dot? hbc, eq_of_octet? hc,
    eq_of_dot? hcd, eq_of_octet? hd, List.append_nil]
  rfl

theorem parse?_eq_some_iff {s : String} {x : Address} : parse? s = some x ↔ s = x.text := by
  constructor
  · intro h
    rw [text, ← eq_chars_of_ofChars? h, String.ofList_toList]
  · rintro rfl
    exact parse?_text x

structure Part (ds : List Char) : Prop extends Numeral ds where
  le : value ds ≤ 255

theorem part_digits (n : UInt8) : Part (digits n.toNat) where
  toNumeral := numeral_digits n.toNat
  le := by
    rw [value_digits]
    exact Nat.le_of_lt_succ n.toNat_lt

theorem Part.exists_digits {ds : List Char} (h : Part ds) : ∃ n : UInt8, digits n.toNat = ds := by
  refine ⟨UInt8.ofNat (value ds), ?_⟩
  rw [UInt8.toNat_ofNat_of_lt' (Nat.lt_succ_of_le h.le), digits_value h.toNumeral]

theorem chars_eq_intercalate (x : Address) : x.chars = List.intercalate ['.']
    [digits x.a.toNat, digits x.b.toNat, digits x.c.toNat, digits x.d.toNat] := by
  simp [chars, List.intercalate]

theorem exists_text_iff {s : String} : (∃ x : Address, s = x.text) ↔
    ∃ parts : List (List Char),
      parts.length = 4 ∧ (∀ ds ∈ parts, Part ds) ∧ s.toList = List.intercalate ['.'] parts := by
  constructor
  · rintro ⟨x, rfl⟩
    refine ⟨[digits x.a.toNat, digits x.b.toNat, digits x.c.toNat, digits x.d.toNat], rfl, ?_, ?_⟩
    · simp only [List.forall_mem_cons]
      exact ⟨part_digits x.a, part_digits x.b, part_digits x.c, part_digits x.d,
        List.forall_mem_nil _⟩
    · rw [text, String.toList_ofList, chars_eq_intercalate]
  · rintro ⟨parts, hlen, hparts, hs⟩
    match parts, hlen with
    | [a, b, c, d], _ =>
      simp only [List.forall_mem_cons] at hparts
      obtain ⟨ha, hb, hc, hd, -⟩ := hparts
      obtain ⟨a, rfl⟩ := ha.exists_digits
      obtain ⟨b, rfl⟩ := hb.exists_digits
      obtain ⟨c, rfl⟩ := hc.exists_digits
      obtain ⟨d, rfl⟩ := hd.exists_digits
      refine ⟨⟨a, b, c, d⟩, ?_⟩
      rw [text, chars_eq_intercalate, ← hs, String.ofList_toList]

/-- A text is read as an address exactly if it is how the address is written. The texts that are
read have four parts with single dots between them, and every other text is refused. -/
theorem parse?_exact :
    (∀ (s : String) (x : Address), parse? s = some x ↔ s = x.text) ∧
    ∀ s : String, (∃ x, parse? s = some x) ↔ ∃ parts : List (List Char),
      parts.length = 4 ∧ (∀ ds ∈ parts, Part ds) ∧ s.toList = List.intercalate ['.'] parts := by
  refine ⟨fun s x => parse?_eq_some_iff, ?_⟩
  intro s
  simp only [parse?_eq_some_iff, exists_text_iff]

end NetFlow.Address
