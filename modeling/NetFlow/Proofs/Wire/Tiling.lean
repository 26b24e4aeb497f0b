import NetFlow.Proofs.Wire.Spans

/-! Layouts on top of any number of others. Length, fields and offsets are computed apart from each
other, and agree: the placed fields follow each other without a gap from the first byte to the last,
those of a base in front and in the same places. Names may occur more than once. -/
namespace NetFlow.Layout

/-- Placed fields that follow each other, the first one at `start`, up to `stop`. -/
inductive Tiles : Nat → List (Nat × Field) → Nat → Prop where
  | done (o : Nat) : Tiles o [] o
  | next {o stop : Nat} {f : Field} {ps : List (Nat × Field)} :
      Tiles (o + f.width) ps stop → Tiles o ((o, f) :: ps) stop

theorem tiles_place (o : Nat) (fs : List Field) : Tiles o (place o fs) (o + size fs) := by
  induction fs generalizing o with
  | nil => exact .done o
  | cons f fs ih =>
    have hrest := ih (o + f.width)
    rw [Nat.add_assoc, ← size_cons] at hrest
    exact .next hrest

theorem tiles_offsets (l : Layout) : Tiles 0 l.offsets l.len := by
  have h := tiles_place 0 l.fields
  rwa [Nat.zero_add, ← len_eq_size] at h

theorem Tiles.le {start stop : Nat} {ps : List (Nat × Field)} (h : Tiles start ps stop) :
    start ≤ stop := by
  induction h with
  | done o => exact Nat.le_refl o
  | next _ ih => exact Nat.le_trans (Nat.le_add_right _ _) ih

theorem Tiles.countP_covers {start stop : Nat} {ps : List (Nat × Field)} (h : Tiles start ps stop)
    (i : Nat) : ps.countP (fun p => Covers p i) = if start ≤ i ∧ i < stop then 1 else 0 := by
  induction h with
  | done o =>
    have hnone : ¬ (o ≤ i ∧ i < o) := by omega
    rw [if_neg hnone, List.countP_nil]
  | @next o stop f ps hrest ih =>
    have hle := hrest.le
    rw [List.countP_cons, ih]
    by_cases hc : Covers (o, f) i
    · have hbounds : o ≤ i ∧ i < o + f.width := hc
      have hbehind : ¬ (o + f.width ≤ i ∧ i < stop) := by omega
      have hwithin : o ≤ i ∧ i < stop := by omega
      rw [if_neg hbehind, if_pos hwithin]
      simp only [hc, decide_true, ↓reduceIte]
    · have hbounds : ¬ (o ≤ i ∧ i < o + f.width) := hc
      have hiff : (o + f.width ≤ i ∧ i < stop) ↔ (o ≤ i ∧ i < stop) := by omega
      simp only [hc, hiff, decide_false, Bool.false_eq_true, ↓reduceIte, Nat.add_zero]

theorem width_pos (f : Field) : 0 < f.width := by
  rw [Field.width]
  cases f.kind <;> decide

theorem size_eq_zero_iff {fs : List Field} : size fs = 0 ↔ fs = [] := by
  cases fs with
  | nil => simp
  | cons f fs =>
    have hf := width_pos f
    rw [size_cons]
    simp only [List.cons_ne_nil, iff_false]
    omega

theorem isEmpty_iff (l : Layout) : l.isEmpty = true ↔ l.fields = [] := by
  rw [isEmpty, beq_iff_eq, len_eq_size, size_eq_zero_iff]

theorem fields_eq_flatMap (l : Layout) :
    l.fields = (l.bases.reverse ++ [l]).flatMap own := by
  induction l with
  | root name own => simp [fields, bases, Layout.own]
  | extend base name own ih =>
    rw [fields, bases, List.reverse_cons, List.flatMap_append, ← ih]
    simp [Layout.own]

theorem fields_prefix {b l : Layout} (h : b ∈ l.bases) : b.fields <+: l.fields := by
  induction l with
  | root name own => cases h
  | extend base name own ih =>
    have hbase : base.fields <+: (extend base name own).fields := List.prefix_append _ _
    cases h with
    | head => exact hbase
    | tail _ h => exact (ih h).trans hbase

theorem offsets_prefix {b l : Layout} (h : b ∈ l.bases) : b.offsets <+: l.offsets := by
  obtain ⟨added, hadded⟩ := fields_prefix h
  rw [offsets, offsets, ← hadded, place_append]
  exact List.prefix_append _ _

/-- The first field of that name has `o` bytes of other fields in front of it. -/
def FirstAt (fs : List Field) (name : String) (o : Nat) : Prop :=
  ∃ before f after, fs = before ++ f :: after ∧ f.name = name ∧ (∀ g ∈ before, g.name ≠ name) ∧
    (before.map Field.width).sum = o

theorem FirstAt.append {fs : List Field} {name : String} {o : Nat} (h : FirstAt fs name o)
    (gs : List Field) : FirstAt (fs ++ gs) name o := by
  obtain ⟨before, f, after, rfl, hf, hbefore, ho⟩ := h
  exact ⟨before, f, after ++ gs, by simp, hf, hbefore, ho⟩

theorem offsetOf?_eq_none_iff {l : Layout} {name : String} :
    l.offsetOf? name = none ↔ ∀ f ∈ l.fields, f.name ≠ name := by
  rw [offsetOf?, Option.map_eq_none_iff, List.find?_eq_none, ← map_snd_place 0 l.fields,
    List.forall_mem_map]
  simp only [beq_iff_eq]
  rfl

theorem FirstAt.offsetOf? {l : Layout} {name : String} {o : Nat} (h : FirstAt l.fields name o) :
    l.offsetOf? name = some o := by
  obtain ⟨before, f, after, hfs, hf, hbefore, ho⟩ := h
  have hnone : (place 0 before).find? (fun p => p.2.name == name) = none := by
    rw [List.find?_eq_none]
    intro p hp
    have hmem : p.2 ∈ (place 0 before).map Prod.snd := List.mem_map_of_mem hp
    rw [map_snd_place] at hmem
    simpa using hbefore p.2 hmem
  rw [Layout.offsetOf?, offsets, hfs, place_append, List.find?_append, hnone, Option.none_or, place,
    List.find?_cons_of_pos (by simpa using hf), Option.map_some, Nat.zero_add, ← ho, size]

theorem exists_firstAt {fs : List Field} {name : String} (h : ∃ f ∈ fs, f.name = name) :
    ∃ o, FirstAt fs name o := by
  obtain ⟨f, hf, hname⟩ := h
  cases hfind : fs.find? (fun f => f.name == name) with
  | none =>
    have hne := List.find?_eq_none.mp hfind f hf
    simp [hname] at hne
  | some g =>
    obtain ⟨hg, before, after, hfs, hbefore⟩ := List.find?_eq_some_iff_append.mp hfind
    refine ⟨_, before, g, after, hfs, by simpa using hg, ?_, rfl⟩
    intro b hb
    simpa using hbefore b hb

theorem offsetOf?_eq_some_iff {l : Layout} {name : String} {o : Nat} :
    l.offsetOf? name = some o ↔ FirstAt l.fields name o := by
  constructor
  · intro h
    by_cases hmem : ∃ f ∈ l.fields, f.name = name
    · obtain ⟨o', ho'⟩ := exists_firstAt hmem
      have heq := h.symm.trans ho'.offsetOf?
      cases heq
      exact ho'
    · have hnone := offsetOf?_eq_none_iff.mpr fun f hf hname => hmem ⟨f, hf, hname⟩
      rw [hnone] at h
      cases h
  · exact FirstAt.offsetOf?

/-- Length, fields and offsets of a layout agree with each other and with those of its bases. -/
structure Regular (l : Layout) : Prop where
  fields : l.fields = (l.bases.reverse ++ [l]).flatMap own
  len : l.len = (l.fields.map Field.width).sum
  placed : l.offsets.map Prod.snd = l.fields
  tiles : Tiles 0 l.offsets l.len
  once : ∀ i, l.offsets.countP (fun p => Covers p i) = if i < l.len then 1 else 0
  inherited : ∀ b ∈ l.bases, b.offsets <+: l.offsets
  isEmpty : l.isEmpty = true ↔ l.fields = []
  found : ∀ name o, l.offsetOf? name = some o ↔ FirstAt l.fields name o
  missing : ∀ name, l.offsetOf? name = none ↔ ∀ f ∈ l.fields, f.name ≠ name
  kept : ∀ b ∈ l.bases, ∀ name o, b.offsetOf? name = some o → l.offsetOf? name = some o

theorem regular (l : Layout) : Regular l where
  fields := l.fields_eq_flatMap
  len := l.len_eq_size
  placed := map_snd_place 0 l.fields
  tiles := l.tiles_offsets
  once i := by
    rw [l.tiles_offsets.countP_covers i]
    simp only [Nat.zero_le, true_and]
  inherited _ hb := offsets_prefix hb
  isEmpty := l.isEmpty_iff
  found _ _ := offsetOf?_eq_some_iff
  missing _ := offsetOf?_eq_none_iff
  kept b hb name o ho := by
    obtain ⟨added, hadded⟩ := fields_prefix hb
    rw [offsetOf?_eq_some_iff] at ho ⊢
    rw [← hadded]
    exact ho.append added

end NetFlow.Layout
