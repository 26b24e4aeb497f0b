import NetFlow.Document.Assembly
import NetFlow.Json.Chars

/-! Written documents are read back by every lexer that knows their marks, words, numbers and
quoted texts. What stands behind a value is left to be read next. -/
namespace NetFlow

/-- A document as it is written: numbers are bare digits, and objects have texts for keys.
Every text in it is `Good`. -/
inductive Document.IsPlain (Good : String → Prop) : Document → Prop where
  | null : IsPlain Good .null
  | bool (b : Bool) : IsPlain Good (.bool b)
  | ofNat (n : Nat) : IsPlain Good (.ofNat n)
  | ofString {s : String} : Good s → IsPlain Good (.ofString s)
  | array {items : List Document} : (∀ d ∈ items, IsPlain Good d) → IsPlain Good (.array items)
  | ofMembers {ms : List (String × Document)} : (∀ m ∈ ms, Good m.1) →
      (∀ m ∈ ms, IsPlain Good m.2) → IsPlain Good (.ofMembers ms)

def Json.Follows (cs : List Char) : Prop := ∀ c ∈ cs.head?, c ∈ [',', ']', '\x7d']

/-- A lexer that takes written documents to pieces. Quoted texts are read if they are `Good`. -/
structure Lexes (lex : List Char → List Token) (Good : String → Prop) : Prop where
  nil : lex [] = []
  openArray : ∀ cs, lex ('[' :: cs) = .openArray :: lex cs
  closeArray : ∀ cs, lex (']' :: cs) = .closeArray :: lex cs
  openObject : ∀ cs, lex ('\x7b' :: cs) = .openObject :: lex cs
  closeObject : ∀ cs, lex ('\x7d' :: cs) = .closeObject :: lex cs
  comma : ∀ cs, lex (',' :: cs) = .comma :: lex cs
  colon : ∀ cs, lex (':' :: cs) = .colon :: lex cs
  null : ∀ {cs}, Json.Follows cs →
    ∃ key?, lex (Json.chars .null ++ cs) = .leaf (some .null) key? :: lex cs
  bool : ∀ (b : Bool) {cs}, Json.Follows cs →
    ∃ key?, lex (Json.chars (.bool b) ++ cs) = .leaf (some (.bool b)) key? :: lex cs
  number : ∀ (n : Nat) {cs}, Json.Follows cs →
    ∃ key?, lex (Decimal.digits n ++ cs) = .leaf (some (.ofNat n)) key? :: lex cs
  quote : ∀ {s : String} (cs), Good s →
    lex (Json.quote s ++ cs) = .leaf (some (.ofString s)) (some (.ok s)) :: lex cs

def Document.keyed (m : String × Document) : Label × Document := (.key (.ok m.1), m.2)

theorem Document.ofMembers_eq (ms : List (String × Document)) :
    Document.ofMembers ms = .object (ms.map Document.keyed) := rfl

theorem Document.areWhole_of_forall {items : List Document} (h : ∀ d ∈ items, d.isWhole = true) :
    areWhole items = true := by
  induction items with
  | nil => rfl
  | cons d ds ih =>
    obtain ⟨hd, hds⟩ := List.forall_mem_cons.mp h
    rw [areWhole, hd, ih hds]
    rfl

theorem Document.membersWhole_of_forall {ms : List (String × Document)}
    (h : ∀ m ∈ ms, m.2.isWhole = true) : membersWhole (ms.map keyed) = true := by
  induction ms with
  | nil => rfl
  | cons m ms ih =>
    obtain ⟨hm, hms⟩ := List.forall_mem_cons.mp h
    rw [List.map_cons, keyed, membersWhole, hm, ih hms]
    rfl

theorem Document.IsPlain.isWhole {Good : String → Prop} {d : Document} (h : d.IsPlain Good) :
    d.isWhole = true := by
  induction h with
  | array _ ih =>
    rw [Document.isWhole]
    exact areWhole_of_forall ih
  | ofMembers _ _ ih =>
    rw [ofMembers_eq, Document.isWhole]
    exact membersWhole_of_forall ih
  | _ => rfl

namespace Json

theorem follows_nil : Follows [] := by
  intro c hc
  cases hc

theorem follows_cons {c : Char} (cs : List Char) (h : c ∈ [',', ']', '\x7d']) :
    Follows (c :: cs) := by
  intro d hd
  cases hd
  exact h

theorem chars_ofNat (n : Nat) : chars (.ofNat n) = Decimal.digits n := by
  simp [Document.ofNat, chars, Numeral.ofNat, Numeral.chars, Sign.chars]

theorem chars_ofString (s : String) : chars (.ofString s) = quote s := by
  simp [Document.ofString, chars, quote?]

end Json

namespace Lexes
open Assembly
variable {lex : List Char → List Token} {Good : String → Prop} (h : Lexes lex Good)
  {loose : Bool}

/-- From here on, `cs` behind the text of `d` is read with `d` at hand. -/
def Reads (lex : List Char → List Token) (loose : Bool) (d : Document) : Prop :=
  ∀ {cs : List Char} (fs : List Frame) (mayClose : Bool), Json.Follows cs →
    run loose (lex (Json.chars d ++ cs)) fs (.value mayClose) = run loose (lex cs) fs (.after d)

theorem reads_of_leaf {d : Document} (hd : ∀ {cs}, Json.Follows cs →
    ∃ key?, lex (Json.chars d ++ cs) = .leaf (some d) key? :: lex cs) : Reads lex loose d := by
  intro cs fs mayClose hcs
  obtain ⟨key?, hk⟩ := hd hcs
  rw [hk]
  rfl

include h

theorem run_items {items : List Document} (hi : ∀ d ∈ items, Reads lex loose d)
    (hne : items ≠ []) (cs : List Char) (done : List Document) (fs : List Frame)
    (mayClose : Bool) :
    run loose (lex (Json.itemChars items ++ ']' :: cs)) (.array done :: fs) (.value mayClose) =
      run loose (lex cs) fs (.after (.array (done.reverse ++ items))) := by
  induction items generalizing done mayClose with
  | nil => exact absurd rfl hne
  | cons d ds ih =>
    obtain ⟨hd, hds⟩ := List.forall_mem_cons.mp hi
    cases ds with
    | nil =>
      rw [Json.itemChars, hd _ _ (Json.follows_cons _ (by decide)), h.closeArray]
      simp [run, step]
    | cons e es =>
      have hrest := ih hds (List.cons_ne_nil e es) (d :: done) loose
      rw [Json.itemChars, List.append_assoc, List.cons_append,
        hd _ _ (Json.follows_cons _ (by decide)), h.comma]
      · simpa [run, step] using hrest
      · simp

theorem run_member {k : String} {d : Document} (hk : Good k) (hd : Reads lex loose d)
    {cs : List Char} (hcs : Json.Follows cs) (done : List (Label × Document)) (fs : List Frame)
    (mayClose : Bool) :
    run loose (lex (Json.quote k ++ ':' :: (Json.chars d ++ cs))) fs (.label done mayClose) =
      run loose (lex cs) (.object done (.key (.ok k)) :: fs) (.after d) := by
  rw [h.quote _ hk, h.colon]
  exact hd (.object done (.key (.ok k)) :: fs) false hcs

theorem run_members {ms : List (String × Document)} (hk : ∀ m ∈ ms, Good m.1)
    (hm : ∀ m ∈ ms, Reads lex loose m.2) (hne : ms ≠ []) (cs : List Char)
    (done : List (Label × Document)) (fs : List Frame) (mayClose : Bool) :
    run loose (lex (Json.memberChars (ms.map Document.keyed) ++ '\x7d' :: cs)) fs
        (.label done mayClose) =
      run loose (lex cs) fs (.after (.object (done.reverse ++ ms.map Document.keyed))) := by
  induction ms generalizing done mayClose with
  | nil => exact absurd rfl hne
  | cons m ms ih =>
    obtain ⟨hkm, hkms⟩ := List.forall_mem_cons.mp hk
    obtain ⟨hd, hds⟩ := List.forall_mem_cons.mp hm
    cases ms with
    | nil =>
      have hone := h.run_member hkm hd (Json.follows_cons (c := '\x7d') cs (by decide))
        done fs mayClose
      rw [h.closeObject] at hone
      simpa [Json.memberChars, Json.labelChars, Json.quote?, Document.keyed, run, step] using hone
    | cons m' ms =>
      have hrest := ih hkms hds (List.cons_ne_nil m' ms) (Document.keyed m :: done) loose
      have hone := h.run_member hkm hd (Json.follows_cons (c := ',')
        (Json.memberChars ((m' :: ms).map Document.keyed) ++ '\x7d' :: cs) (by decide))
        done fs mayClose
      rw [h.comma] at hone
      have hstep := hone.trans hrest
      simpa [Json.memberChars, Json.labelChars, Json.quote?, Document.keyed] using hstep

theorem reads {d : Document} (hd : d.IsPlain Good) : Reads lex loose d := by
  induction hd with
  | null => exact reads_of_leaf h.null
  | bool b => exact reads_of_leaf (h.bool b)
  | ofNat n =>
    apply reads_of_leaf
    rw [Json.chars_ofNat]
    exact h.number n
  | ofString hs =>
    apply reads_of_leaf
    intro cs _
    rw [Json.chars_ofString]
    exact ⟨_, h.quote cs hs⟩
  | @array items _ ih =>
    intro cs fs mayClose _
    have hopen : lex (Json.chars (.array items) ++ cs) =
        .openArray :: lex (Json.itemChars items ++ ']' :: cs) := by
      rw [Json.chars, List.cons_append, List.append_assoc, h.openArray]
      rfl
    rw [hopen]
    by_cases hne : items = []
    · subst hne
      rw [Json.itemChars, List.nil_append, h.closeArray]
      simp [run, step]
    · simpa [run, step] using h.run_items ih hne cs [] fs true
  | @ofMembers ms hk _ ih =>
    intro cs fs mayClose _
    have hopen : lex (Json.chars (.ofMembers ms) ++ cs) =
        .openObject :: lex (Json.memberChars (ms.map Document.keyed) ++ '\x7d' :: cs) := by
      rw [Document.ofMembers_eq, Json.chars, List.cons_append, List.append_assoc, h.openObject]
      rfl
    rw [hopen]
    by_cases hne : ms = []
    · subst hne
      rw [List.map_nil, Json.memberChars, List.nil_append, h.closeObject]
      simp [run, step, Document.ofMembers_eq]
    · simpa [run, step, Document.ofMembers_eq] using h.run_members hk ih hne cs [] fs true

/-- A written document is the tree of its text, and nothing follows it. -/
theorem ofTokens_chars {d : Document} (hd : d.IsPlain Good) :
    Reading.ofTokens loose (lex (Json.chars d)) = ⟨d, false⟩ := by
  have hr : run loose (lex (Json.chars d ++ [])) [] (.value false) =
      run loose (lex []) [] (.after d) := h.reads hd [] false Json.follows_nil
  rw [List.append_nil, h.nil] at hr
  exact hr

end Lexes
end NetFlow
