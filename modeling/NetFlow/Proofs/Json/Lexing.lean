import NetFlow.Json.Values
import NetFlow.Proofs.Document.Reading
import NetFlow.Proofs.Json.Quoting
import NetFlow.Proofs.Text.Numerals

/-! The lexer of JSON texts takes every written document to pieces, so that reading a written
text is reading the document itself. -/
namespace NetFlow.Json

theorem tokens_cons {c : Char} (h : isBlank c = false) (cs : List Char) :
    tokens (c :: cs) = (token c cs).1 :: tokens (token c cs).2 := by
  rw [tokens, h]
  rfl

theorem Follows.shape {cs : List Char} (h : Follows cs) :
    cs = [] ∨ ∃ ds, cs = ',' :: ds ∨ cs = ']' :: ds ∨ cs = '\x7d' :: ds := by
  cases cs with
  | nil => exact .inl rfl
  | cons c ds =>
    have hc := h c rfl
    simp only [List.mem_cons, List.not_mem_nil, or_false] at hc
    exact .inr ⟨ds, by simpa using hc⟩

theorem Follows.ends {cs : List Char} (h : Follows cs) : Decimal.Ends cs := by
  obtain rfl | ⟨_, rfl | rfl | rfl⟩ := h.shape
  · exact Decimal.ends_nil
  all_goals exact Decimal.ends_cons rfl

theorem fraction?_follows {cs : List Char} (h : Follows cs) : fraction? cs = some (none, cs) := by
  obtain rfl | ⟨_, rfl | rfl | rfl⟩ := h.shape <;> rfl

theorem exponent?_follows {cs : List Char} (h : Follows cs) : exponent? cs = some (none, cs) := by
  obtain rfl | ⟨_, rfl | rfl | rfl⟩ := h.shape <;> rfl

theorem number?_digits (n : Nat) {cs : List Char} (h : Follows cs) :
    number? .bare (Decimal.digits n ++ cs) = some (.ofNat n, cs) := by
  simp [number?, Decimal.takeWhile_digits n h.ends, Decimal.dropWhile_digits n h.ends,
    Decimal.isCanonical_digits, fraction?_follows h, exponent?_follows h, Numeral.ofNat]

theorem token_digit {c : Char} (hc : c.isDigit = true) {cs rest : List Char} {n : Numeral}
    (hn : number? .bare (c :: cs) = some (n, rest)) : token c cs = (leaf (.number n), rest) := by
  unfold token
  split
  case h_11 =>
    have hminus : (c == '-') = false := by
      rw [beq_eq_false_iff_ne]
      rintro rfl
      cases hc
    simp [hminus, hc, hn]
  all_goals exact absurd hc (by decide)

theorem isBlank_digit {c : Char} (hc : c.isDigit = true) : isBlank c = false := by
  have hall : ("0123456789".toList.all fun c => !isBlank c) = true := by decide
  simpa using List.all_eq_true.mp hall c (Decimal.mem_of_isDigit hc)

theorem tokens_digits (n : Nat) {cs : List Char} (h : Follows cs) :
    tokens (Decimal.digits n ++ cs) = leaf (.ofNat n) :: tokens cs := by
  have hn := number?_digits n h
  obtain ⟨c, ds, hd, hc⟩ := Decimal.exists_digits_cons n
  rw [hd, List.cons_append] at hn ⊢
  rw [tokens_cons (isBlank_digit hc), token_digit hc hn]
  rfl

theorem tokens_quote (s : String) (cs : List Char) :
    tokens (quote s ++ cs) = .leaf (some (.ofString s)) (some (.ok s)) :: tokens cs := by
  rw [quote_append, tokens_cons rfl, token_quoted]

theorem lexes : Lexes tokens fun _ => True where
  nil := by rw [tokens]
  openArray cs := tokens_cons rfl cs
  closeArray cs := tokens_cons rfl cs
  openObject cs := tokens_cons rfl cs
  closeObject cs := tokens_cons rfl cs
  comma cs := tokens_cons rfl cs
  colon cs := tokens_cons rfl cs
  null {cs} _ := by
    rw [chars, List.cons_append, tokens_cons rfl]
    exact ⟨none, rfl⟩
  bool b {cs} _ := by
    cases b <;> rw [chars, List.cons_append, tokens_cons rfl] <;> exact ⟨none, rfl⟩
  number n {cs} h := ⟨none, tokens_digits n h⟩
  quote cs _ := tokens_quote _ cs

/-- Reading the text of a document comes to what its reading comes to. -/
theorem read_write {α : Type} (value : Document → Except Problem α) {d : Document}
    (hd : d.IsPlain fun _ => True) : read value (write d) = value d := by
  rw [read, write, String.toList_ofList, lexes.ofTokens_chars hd]
  cases value d <;> rfl

end NetFlow.Json
