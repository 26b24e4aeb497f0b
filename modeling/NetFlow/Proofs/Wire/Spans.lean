import Mathlib.Algebra.Ring.Nat
import NetFlow.Wire.Layout

/-! The stretches of bytes that placed fields occupy. They follow each other, so that a
position belongs to no more than one field and the stretches together are all of the bytes. -/
namespace NetFlow.Layout

def size (fs : List Field) : Nat := (fs.map Field.width).sum

def Covers (p : Nat × Field) (i : Nat) : Prop := p.1 ≤ i ∧ i < p.1 + p.2.width

instance (p : Nat × Field) (i : Nat) : Decidable (Covers p i) :=
  inferInstanceAs (Decidable (p.1 ≤ i ∧ i < p.1 + p.2.width))

@[simp] theorem size_nil : size [] = 0 := rfl

@[simp] theorem size_cons (f : Field) (fs : List Field) : size (f :: fs) = f.width + size fs := by
  simp [size]

@[simp] theorem size_append (fs gs : List Field) : size (fs ++ gs) = size fs + size gs := by
  simp [size]

theorem size_le_of_isPrefix {fs gs : List Field} (h : fs <+: gs) : size fs ≤ size gs := by
  obtain ⟨added, hadded⟩ := h
  rw [← hadded, size_append]
  exact Nat.le_add_right _ _

theorem size_repeat (n : Nat) (fs : List Field) :
    size (List.replicate n fs).flatten = n * size fs := by
  induction n with
  | zero => simp
  | succ n ih => simp [List.replicate_succ, ih, Nat.succ_mul, Nat.add_comm]

theorem foldl_width (fs : List Field) (n : Nat) :
    fs.foldl (fun n f => n + f.width) n = n + size fs := by
  induction fs generalizing n with
  | nil => rfl
  | cons f fs ih => rw [List.foldl_cons, ih, size_cons, Nat.add_assoc]

theorem len_eq_size (l : Layout) : l.len = size l.fields := by
  induction l with
  | root name own => simp [len, fields, foldl_width]
  | extend base name own ih => rw [len, fields, foldl_width, ih, size_append]

theorem place_append (o : Nat) (fs gs : List Field) :
    place o (fs ++ gs) = place o fs ++ place (o + size fs) gs := by
  induction fs generalizing o with
  | nil => rfl
  | cons f fs ih => simp [place, ih, Nat.add_assoc]

theorem place_add (o k : Nat) (fs : List Field) :
    place (o + k) fs = (place o fs).map fun p => (p.1 + k, p.2) := by
  induction fs generalizing o with
  | nil => rfl
  | cons f fs ih =>
    rw [place, place, List.map_cons, ← ih, Nat.add_right_comm]

theorem mem_place_bounds {o : Nat} {fs : List Field} {p : Nat × Field} (h : p ∈ place o fs) :
    o ≤ p.1 ∧ p.1 + p.2.width ≤ o + size fs := by
  induction fs generalizing o with
  | nil => simp [place] at h
  | cons f fs ih =>
    rw [place, List.mem_cons] at h
    rw [size_cons]
    cases h with
    | inl h =>
      subst h
      dsimp only
      omega
    | inr h =>
      have := ih h
      omega

theorem exists_split_of_mem_place {o : Nat} {fs : List Field} {p : Nat × Field}
    (h : p ∈ place o fs) :
    ∃ before after, fs = before ++ p.2 :: after ∧ p.1 = o + size before := by
  induction fs generalizing o with
  | nil => cases h
  | cons f fs ih =>
    rw [place, List.mem_cons] at h
    cases h with
    | inl h =>
      subst h
      exact ⟨[], fs, rfl, rfl⟩
    | inr h =>
      obtain ⟨before, after, hfs, hp⟩ := ih h
      refine ⟨f :: before, after, ?_, ?_⟩
      · rw [hfs, List.cons_append]
      · rw [hp, size_cons, Nat.add_assoc]

theorem covers_unique {o i : Nat} {fs : List Field} {p q : Nat × Field}
    (hp : p ∈ place o fs) (hq : q ∈ place o fs) (hpi : Covers p i) (hqi : Covers q i) :
    p = q := by
  induction fs generalizing o with
  | nil => simp [place] at hp
  | cons f fs ih =>
    obtain ⟨hpl, hpr⟩ := hpi
    obtain ⟨hql, hqr⟩ := hqi
    rw [place, List.mem_cons] at hp hq
    cases hp with
    | inl hp =>
      cases hq with
      | inl hq => rw [hp, hq]
      | inr hq =>
        have := mem_place_bounds hq
        rw [hp] at hpr
        dsimp only at hpr
        omega
    | inr hp =>
      cases hq with
      | inl hq =>
        have := mem_place_bounds hp
        rw [hq] at hqr
        dsimp only at hqr
        omega
      | inr hq => exact ih hp hq

/-- In a repetition, the fields of the `k`th copy stand `k` times the size further on. -/
theorem mem_place_repeat {o n : Nat} {fs : List Field} {p : Nat × Field}
    (h : p ∈ place o (List.replicate n fs).flatten) :
    ∃ k < n, ∃ q ∈ place 0 fs, p = (o + k * size fs + q.1, q.2) := by
  induction n generalizing o with
  | zero => simp [place] at h
  | succ n ih =>
    rw [List.replicate_succ, List.flatten_cons, place_append, List.mem_append] at h
    cases h with
    | inl h =>
      rw [← Nat.zero_add o, place_add, List.mem_map] at h
      obtain ⟨q, hq, rfl⟩ := h
      exact ⟨0, Nat.succ_pos n, q, hq, by simp [Nat.add_comm]⟩
    | inr h =>
      obtain ⟨k, hk, q, hq, rfl⟩ := ih h
      refine ⟨k + 1, Nat.succ_lt_succ hk, q, hq, ?_⟩
      rw [Nat.succ_mul, Nat.add_comm (k * size fs), ← Nat.add_assoc]

theorem mem_place_repeat_of {n k : Nat} {fs : List Field} {q : Nat × Field} (hk : k < n)
    (hq : q ∈ place 0 fs) (o : Nat) :
    (o + k * size fs + q.1, q.2) ∈ place o (List.replicate n fs).flatten := by
  induction n generalizing o k with
  | zero => exact absurd hk (Nat.not_lt_zero k)
  | succ n ih =>
    rw [List.replicate_succ, List.flatten_cons, place_append, List.mem_append]
    cases k with
    | zero =>
      refine .inl ?_
      rw [← Nat.zero_add o, place_add, List.mem_map]
      exact ⟨q, hq, by simp [Nat.add_comm]⟩
    | succ k =>
      have hrest := ih (Nat.lt_of_succ_lt_succ hk) (o + size fs)
      rw [Nat.add_assoc o, ← Nat.add_comm (k * size fs), ← Nat.succ_mul] at hrest
      exact .inr hrest

def slice (bs : List UInt8) (p : Nat × Field) : List UInt8 := (bs.drop p.1).take p.2.width

theorem slice_append (pre post : List UInt8) {bs : List UInt8} {f : Field}
    (h : bs.length = f.width) : slice (pre ++ (bs ++ post)) (pre.length, f) = bs := by
  rw [slice, List.drop_left, ← h, List.take_left]

theorem map_snd_place (o : Nat) (fs : List Field) : (place o fs).map Prod.snd = fs := by
  induction fs generalizing o with
  | nil => rfl
  | cons f fs ih => rw [place, List.map_cons, ih]

theorem flatMap_slice (bs : List UInt8) (o : Nat) (fs : List Field) :
    (place o fs).flatMap (slice bs) = (bs.drop o).take (size fs) := by
  induction fs generalizing o with
  | nil => simp [place]
  | cons f fs ih =>
    rw [place, List.flatMap_cons, ih, size_cons, List.take_add, List.drop_drop, slice]

end NetFlow.Layout
