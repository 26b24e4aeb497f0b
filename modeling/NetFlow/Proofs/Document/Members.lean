import NetFlow.Document.Dialect
import NetFlow.Proofs.Document.Reading

/-! What is written of a value and what is read of it. In every dialect the members of an
object with distinct keys are found again under their keys, if they pass their checks. -/
namespace NetFlow
variable {α β : Type}

/-- Values are written as plain documents, and the same values are read from these. -/
structure Transcribed (toDocument : α → Document) (ofDocument : Document → Except Problem α) :
    Prop where
  isPlain : ∀ a, (toDocument a).IsPlain fun _ => True
  ofDocument_toDocument : ∀ a, ofDocument (toDocument a) = .ok a

theorem Transcribed.list {toDocument : α → Document} {ofDocument : Document → Except Problem α}
    (h : Transcribed toDocument ofDocument) (x : Dialect) :
    Transcribed (fun as => .array (as.map toDocument)) (x.list ofDocument) where
  isPlain as := by
    refine .array ?_
    rw [List.forall_mem_map]
    exact fun a _ => h.isPlain a
  ofDocument_toDocument as := by
    have hread : ofDocument ∘ toDocument = fun a => pure (id a) := funext h.ofDocument_toDocument
    rw [Dialect.list, List.mapM_map, hread, List.mapM_pure, List.map_id]
    rfl

theorem lookup_of_mem {l : List (String × β)} (hd : (l.map Prod.fst).Nodup) {k : String} {b : β}
    (h : (k, b) ∈ l) : l.lookup k = some b := by
  induction l with
  | nil => cases h
  | cons p l ih =>
    obtain ⟨hp, hl⟩ := List.nodup_cons.mp hd
    cases List.mem_cons.mp h with
    | inl h =>
      subst h
      exact List.lookup_cons_self
    | inr h =>
      have hk : k ≠ p.1 := by
        rintro rfl
        exact hp (List.mem_map.mpr ⟨(p.1, b), h, rfl⟩)
      rw [List.lookup_cons, beq_eq_false_iff_ne.mpr hk]
      exact ih hl h

theorem lookup_eq_none {l : List (String × β)} {k : String} (h : k ∉ l.map Prod.fst) :
    l.lookup k = none := by
  rw [List.lookup_eq_none_iff]
  intro p hp
  rw [bne_iff_ne]
  rintro rfl
  exact h (List.mem_map_of_mem hp)

theorem discard_ok {e : Except Problem α} {a : α} (h : e = .ok a) :
    (discard e : Except Problem Unit) = .ok () := by
  rw [h]
  rfl

def Checked (checks : List FieldCheck) (ms : List (String × Document)) : Prop :=
  ∀ m ∈ ms, ∃ check, checks.lookup m.1 = some check ∧ check m.2 = .ok ()

section
variable {checks : List FieldCheck} {ms : List (String × Document)}

theorem Checked.nil : Checked checks [] := fun _ hm => nomatch hm

theorem Checked.cons {key : String} {d : Document} {check : Document → Except Problem Unit}
    (hkey : key ∉ ms.map Prod.fst) (hpass : check d = .ok ()) (h : Checked checks ms) :
    Checked ((key, check) :: checks) ((key, d) :: ms) := by
  refine List.forall_mem_cons.mpr ⟨⟨check, List.lookup_cons_self, hpass⟩, ?_⟩
  intro m hm
  obtain ⟨check', hlook, hpass'⟩ := h m hm
  have hne : m.1 ≠ key := by
    rintro rfl
    exact hkey (List.mem_map_of_mem hm)
  refine ⟨check', ?_, hpass'⟩
  rw [List.lookup_cons, beq_eq_false_iff_ne.mpr hne]
  exact hlook

namespace Dialect
variable {x : Dialect}

theorem scan_keyed (seen : List (String × Document)) (hd : (ms.map Prod.fst).Nodup)
    (hs : ∀ m ∈ ms, seen.lookup m.1 = none) (hc : Checked checks ms) :
    ∃ all, x.scan checks seen (ms.map Document.keyed) = .ok all ∧
      ∀ k, all.lookup k = (ms.lookup k).or (seen.lookup k) := by
  induction ms generalizing seen with
  | nil => exact ⟨seen, rfl, fun _ => rfl⟩
  | cons m ms ih =>
    obtain ⟨hm, hms⟩ := List.nodup_cons.mp hd
    obtain ⟨hsm, hsms⟩ := List.forall_mem_cons.mp hs
    obtain ⟨⟨check, hlook, hpass⟩, hcms⟩ := List.forall_mem_cons.mp hc
    have hnext : ∀ m' ∈ ms, (m :: seen).lookup m'.1 = none := by
      intro m' hm'
      have hne : m'.1 ≠ m.1 := by
        intro he
        exact hm (he ▸ List.mem_map_of_mem hm')
      rw [List.lookup_cons, beq_eq_false_iff_ne.mpr hne]
      exact hsms m' hm'
    obtain ⟨all, hall, hlookup⟩ := ih (m :: seen) hms hnext hcms
    refine ⟨all, ?_, ?_⟩
    · simp only [List.map_cons, Document.keyed, scan, bind, Except.bind, hlook, hsm, hpass,
        Option.isSome_none, Bool.false_eq_true, ↓reduceIte]
      exact hall
    · intro k
      rw [hlookup, List.lookup_cons, List.lookup_cons]
      by_cases hk : k = m.1
      · subst hk
        rw [lookup_eq_none hm]
        simp
      · simp [beq_eq_false_iff_ne.mpr hk]

/-- An object with distinct keys is taken up with the members that were written, and no
others. -/
theorem members_ofMembers (type : String) (hd : (ms.map Prod.fst).Nodup)
    (hc : Checked checks ms) :
    ∃ all, x.members type checks (.ofMembers ms) = .ok (.named all) ∧
      (∀ m ∈ ms, all.lookup m.1 = some m.2) ∧ ∀ k ∉ ms.map Prod.fst, all.lookup k = none := by
  obtain ⟨all, hall, hlookup⟩ := scan_keyed (x := x) [] hd (fun _ _ => rfl) hc
  refine ⟨all, ?_, ?_, ?_⟩
  · rw [Document.ofMembers_eq, members, hall]
    rfl
  · intro m hm
    rw [hlookup, lookup_of_mem hd hm]
    rfl
  · intro k hk
    rw [hlookup, lookup_eq_none hk]
    rfl

end Dialect
end

theorem Members.require_named {all : List (String × Document)} {name : String}
    {d : Document} (h : all.lookup name = some d) (type : String) (arity index : Nat)
    (read : Document → Except Problem α) :
    (Members.named all).require type arity index name read = read d := by
  simp [require, get?, h]

end NetFlow
