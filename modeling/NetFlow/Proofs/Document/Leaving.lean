import NetFlow.Proofs.Document.Members

/-! Objects with some of their members left out. The others are read as they were written,
and what was left out takes its default. -/
namespace NetFlow

def Label.isKept (keep : String → Bool) : Label → Bool
  | .key (.ok k) => keep k
  | _ => true

/-- An object without the members whose keys are not kept. -/
def Document.keeping (keep : String → Bool) : Document → Document
  | .object ms => .object (ms.filter fun m => m.1.isKept keep)
  | d => d

theorem Document.keeping_ofMembers (keep : String → Bool) (ms : List (String × Document)) :
    (ofMembers ms).keeping keep = .ofMembers (ms.filter fun m => keep m.1) := by
  simp only [ofMembers_eq, keeping, List.filter_map]
  rfl

theorem Document.keeping_all (d : Document) : d.keeping (fun _ => true) = d := by
  cases d with
  | object ms =>
    have hall : ∀ m ∈ ms, m.1.isKept (fun _ => true) = true := by
      intro m _
      unfold Label.isKept
      split <;> rfl
    rw [keeping, List.filter_eq_self.mpr hall]
  | _ => rfl

theorem Document.IsPlain.keeping {Good : String → Prop} {ms : List (String × Document)}
    (hk : ∀ k ∈ ms.map Prod.fst, Good k) (hd : ∀ m ∈ ms, m.2.IsPlain Good)
    (keep : String → Bool) :
    ((Document.ofMembers ms).keeping keep).IsPlain Good := by
  rw [keeping_ofMembers]
  exact .ofMembers (fun m hm => hk m.1 (List.mem_map_of_mem (List.mem_filter.mp hm).1))
    (fun m hm => hd m (List.mem_filter.mp hm).1)

variable {checks : List FieldCheck} {ms : List (String × Document)}

theorem Checked.filter (h : Checked checks ms) (p : String × Document → Bool) :
    Checked checks (ms.filter p) :=
  fun m hm => h m (List.mem_filter.mp hm).1

/-- The members that are kept are found, and no others. -/
theorem Dialect.members_keeping {x : Dialect} (type : String) (hd : (ms.map Prod.fst).Nodup)
    (hc : Checked checks ms) (keep : String → Bool) :
    ∃ all, x.members type checks ((Document.ofMembers ms).keeping keep) = .ok (.named all) ∧
      ∀ m ∈ ms, all.lookup m.1 = if keep m.1 then some m.2 else none := by
  have hsub := (List.filter_sublist (p := fun m => keep m.1) (l := ms)).map Prod.fst
  obtain ⟨all, hall, hfound, hothers⟩ :=
    x.members_ofMembers type (hsub.nodup hd) (hc.filter fun m => keep m.1)
  refine ⟨all, ?_, ?_⟩
  · rw [Document.keeping_ofMembers, hall]
  · intro m hm
    cases hk : keep m.1 with
    | true => exact hfound m (List.mem_filter.mpr ⟨hm, hk⟩)
    | false =>
      -- Whoever else had this key would have been left out as well.
      apply hothers
      intro hmem
      obtain ⟨m', hm', he⟩ := List.mem_map.mp hmem
      have hk' := (List.mem_filter.mp hm').2
      rw [he, hk] at hk'
      cases hk'

theorem Members.getD_keeping {α : Type} {all : List (String × Document)} {name : String}
    {d : Document} {kept : Bool} {a : α} {read : Document → Except Problem α}
    (h : all.lookup name = if kept then some d else none) (hread : read d = .ok a) (index : Nat)
    (default : α) :
    (Members.named all).getD index name default read = .ok (if kept then a else default) := by
  cases kept with
  | true => simp [getD, get?, h, hread]
  | false =>
    simp only [getD, get?, h, Bool.false_eq_true, ↓reduceIte]
    rfl

end NetFlow
