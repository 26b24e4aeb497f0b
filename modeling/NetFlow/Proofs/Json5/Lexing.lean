import NetFlow.Json5.Values
import NetFlow.Proofs.Json.Lexing
import NetFlow.Proofs.Json5.Quoting
import NetFlow.Proofs.Text.Binary64

/-! The lexer of JSON5 texts takes documents to pieces that were written as JSON, so that these
are read as what they are. -/
namespace NetFlow.Json5
open Json (Follows)

theorem tokens_cons {c : Char} (hc : c ≠ '/') (hb : isBlank c = false) (cs : List Char) :
    tokens (c :: cs) = (token c cs).1 :: tokens (token c cs).2 := by
  rw [tokens.eq_def]
  split
  case h_4 heq =>
    cases heq
    simp [hb]
  all_goals simp_all

theorem word_cons {c : Char} (hc : c ≠ '\\') (hs : startsWord c = true) (first : Bool)
    (cs : List Char) :
    word first (c :: cs) = (.char [c] c :: (word false cs).1, (word false cs).2) := by
  have hcont : continuesWord c = true := by simp [continuesWord, hs]
  rw [word.eq_def]
  split
  case h_2 heq =>
    cases heq
    cases first <;> simp [hs, hcont]
  all_goals simp_all

theorem word_follows {cs : List Char} (h : Follows cs) : word false cs = ([], cs) := by
  obtain rfl | ⟨ds, rfl | rfl | rfl⟩ := h.shape
  · rfl
  all_goals rw [word.eq_def]; simp; decide

theorem word_append {w cs : List Char}
    (hw : w.all (fun c => c != '\\' && startsWord c) = true)
    (hne : w ≠ []) (h : Follows cs) (first : Bool) :
    word first (w ++ cs) = (w.map fun c => .char [c] c, cs) := by
  induction w generalizing first with
  | nil => exact absurd rfl hne
  | cons c w ih =>
    simp only [List.all_cons, Bool.and_eq_true, bne_iff_ne] at hw
    obtain ⟨⟨hc, hs⟩, hw⟩ := hw
    -- Only the first letter may go by a rule of its own; the last one is where the word stops.
    rw [List.cons_append, word_cons hc hs]
    cases w with
    | nil => simp [word_follows h]
    | cons d w =>
      rw [ih hw (List.cons_ne_nil d w)]
      rfl

theorem tokens_word {c : Char} {w cs : List Char} {d : Document} (hslash : c ≠ '/')
    (hblank : isBlank c = false) (ht : ∀ cs, token c cs = ofWord (word true (c :: cs)))
    (hw : (c :: w).all (fun x => x != '\\' && startsWord x) = true)
    (hd : wordValue? ((c :: w).map fun x => .char [x] x) = some d) (h : Follows cs) :
    ∃ key?, tokens (c :: w ++ cs) = .leaf (some d) key? :: tokens cs := by
  have hword := word_append hw (List.cons_ne_nil c w) h true
  rw [List.cons_append] at hword ⊢
  rw [List.map_cons] at hword hd
  rw [tokens_cons hslash hblank, ht, hword, ofWord, hd]
  · exact ⟨_, rfl⟩
  · simp

theorem whole_digits (n : Nat) {cs : List Char} (h : Follows cs) :
    whole (Decimal.digits n ++ cs) = (Decimal.digits n, cs) := by
  by_cases hn : n = 0
  · subst hn
    rfl
  · have hhead := Decimal.head?_digits hn
    rw [whole.eq_def]
    split
    case h_1 heq =>
      obtain ⟨c, ds, hd⟩ := List.exists_cons_of_ne_nil (Decimal.digits_ne_nil n)
      rw [hd, List.cons_append] at heq
      cases heq
      simp [hd] at hhead
    case h_2 => rw [Decimal.takeWhile_digits n h.ends, Decimal.dropWhile_digits n h.ends]

theorem hex?_digits (n : Nat) {cs : List Char} (h : Follows cs) :
    hex? .bare (Decimal.digits n ++ cs) = none := by
  by_cases hn : n = 0
  · subst hn
    have hzero : Decimal.digits 0 = ['0'] := rfl
    rw [hzero]
    -- Nothing that may stand behind a value is the mark of a hexadecimal number.
    obtain rfl | ⟨_, rfl | rfl | rfl⟩ := h.shape <;> simp [hex?]
  · have hhead := Decimal.head?_digits hn
    obtain ⟨c, ds, hd⟩ := List.exists_cons_of_ne_nil (Decimal.digits_ne_nil n)
    rw [hd] at hhead ⊢
    unfold hex?
    split
    case h_1 heq => simp_all
    case h_2 => rfl

theorem decimal?_digits (n : Nat) {cs : List Char} (h : Follows cs) :
    decimal? .bare (Decimal.digits n ++ cs) = some (.ofNat n, cs) := by
  rw [decimal?, whole_digits n h]
  have hne := Decimal.digits_ne_nil n
  obtain rfl | ⟨_, rfl | rfl | rfl⟩ := h.shape <;> simp [Numeral.ofNat, exponent, hne]

theorem number?_digits (n : Nat) {cs : List Char} (h : Follows cs) :
    number? .bare (Decimal.digits n ++ cs) = some (.ofNat n, cs) := by
  rw [number?, hex?_digits n h, decimal?_digits n h]
  rfl

theorem token_digit {c : Char} (hc : c.isDigit = true) {cs rest : List Char} {n : Numeral}
    (hn : number? .bare (c :: cs) = some (n, rest)) :
    token c cs = (.leaf (some (.number n)) none, rest) := by
  unfold token
  split
  case h_11 => simp [hc, hn]
  all_goals exact absurd hc (by decide)

theorem isBlank_digit {c : Char} (hc : c.isDigit = true) : isBlank c = false := by
  have hall : ("0123456789".toList.all fun c => !isBlank c) = true := by decide
  simpa using List.all_eq_true.mp hall c (Decimal.mem_of_isDigit hc)

theorem tokens_digits (n : Nat) {cs : List Char} (h : Follows cs) :
    tokens (Decimal.digits n ++ cs) = .leaf (some (.ofNat n)) none :: tokens cs := by
  have hn := number?_digits n h
  obtain ⟨c, ds, hd, hc⟩ := Decimal.exists_digits_cons n
  have hslash : c ≠ '/' := by
    rintro rfl
    cases hc
  rw [hd, List.cons_append] at hn ⊢
  rw [tokens_cons hslash (isBlank_digit hc), token_digit hc hn]
  rfl

theorem tokens_quote {s : String} (hs : Quotable s) (cs : List Char) :
    tokens (Json.quote s ++ cs) = .leaf (some (.ofString s)) (some (.ok s)) :: tokens cs := by
  rw [Json.quote_append, tokens_cons (by decide) (by decide), token_quoted hs]

theorem lexes : Lexes tokens Quotable where
  nil := by rw [tokens.eq_def]
  openArray cs := tokens_cons (by decide) (by decide) cs
  closeArray cs := tokens_cons (by decide) (by decide) cs
  openObject cs := tokens_cons (by decide) (by decide) cs
  closeObject cs := tokens_cons (by decide) (by decide) cs
  comma cs := tokens_cons (by decide) (by decide) cs
  colon cs := tokens_cons (by decide) (by decide) cs
  null h := tokens_word (by decide) (by decide) (fun _ => rfl) (by decide) rfl h
  bool b {cs} h := by
    cases b <;> rw [Json.chars] <;>
      exact tokens_word (by decide) (by decide) (fun _ => rfl) (by decide) rfl h
  number n {cs} h := ⟨none, tokens_digits n h⟩
  quote cs hs := tokens_quote hs cs

theorem read_write {α : Type} (value : Document → Except Problem α) {d : Document}
    (hd : d.IsPlain Quotable) : read value (Json.write d) = value d := by
  simp only [read, Json.write, String.toList_ofList, lexes.ofTokens_chars hd, hd.isWhole,
    Bool.not_false, Bool.and_self, ↓reduceIte]

theorem word16_toNat (n : UInt16) : word16 (.ofNat n.toNat) = .ok n := by
  have hn : n.toNat < UInt16.size := n.toNat_lt
  have hsize : UInt16.size ≤ 2 ^ 53 := by decide
  obtain ⟨hfinite, hclamp⟩ := Binary64.ofDecimal_nat (n := n.toNat) (by omega)
  have hsign : (Sign.bare == Sign.minus) = false := rfl
  have hreal : real (.ofNat n.toNat) = .ok (.ofDecimal false n.toNat 0) := by
    simp [real, Numeral.ofNat, Decimal.value_digits, hsign, hfinite]
  have hmin : min (UInt16.size - 1) n.toNat = n.toNat := by omega
  simp only [word16, Document.ofNat, hreal, contents, bind, Except.bind, hclamp, hmin,
    UInt16.ofNat_toNat]
  rfl

end NetFlow.Json5
