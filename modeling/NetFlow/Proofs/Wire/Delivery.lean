import NetFlow.Wire.Source

/-! What a source can still hand out, and how it ends. Filling depends on nothing else:
chunks and interruptions leave no trace in what is read. -/
namespace NetFlow.Source

/-- Every call may return a byte. With chunks of size zero no data would ever come. -/
def Steady (s : Source) : Prop := s.chunk ≠ some 0

instance (s : Source) : Decidable s.Steady := inferInstanceAs (Decidable (s.chunk ≠ some 0))

/-- The bytes in front of the fault, or all of them. -/
def deliverable (s : Source) : List UInt8 :=
  match s.fault with
  | some f => s.data.take f.after
  | none => s.data

/-- What is reported behind the last deliverable byte. A fault behind the end of the data
is never reached. -/
def ending (s : Source) : Failure :=
  match s.fault with
  | some f => if f.after ≤ s.data.length then f.failure else .ended
  | none => .ended

/-- The source `t` is `s` after `n` bytes, whatever the next call will do. -/
def Past (s : Source) (n : Nat) (t : Source) : Prop :=
  ∃ i, t = { s.advance n with interruptNow := i }

theorem steady_ofBytes (bs : List UInt8) : (ofBytes bs).Steady := by
  simp [Steady, ofBytes]

theorem deliverable_ofBytes (bs : List UInt8) : (ofBytes bs).deliverable = bs := rfl

theorem ending_ofBytes (bs : List UInt8) : (ofBytes bs).ending = .ended := rfl

theorem deliverable_of_unreached {s : Source}
    (h : ∀ f, s.fault = some f → s.data.length < f.after) : s.deliverable = s.data := by
  cases hf : s.fault with
  | none => simp only [deliverable, hf]
  | some f =>
    have hl := Nat.le_of_lt (h f hf)
    simp only [deliverable, hf, List.take_of_length_le hl]

theorem deliverable_length_le (s : Source) : s.deliverable.length ≤ s.data.length := by
  cases hf : s.fault with
  | none => simp only [deliverable, hf, Nat.le_refl]
  | some f => simp only [deliverable, hf, List.length_take_le']

theorem advance_zero (s : Source) : s.advance 0 = s := by
  cases s with
  | mk data chunk interrupts interruptNow fault => cases fault <;> rfl

theorem advance_advance (s : Source) (m n : Nat) :
    (s.advance m).advance n = s.advance (m + n) := by
  cases s with
  | mk data chunk interrupts interruptNow fault =>
    cases fault <;> simp [advance, Nat.sub_sub]

namespace Past
variable {s t u : Source} {m n : Nat}

theorem refl (s : Source) : s.Past 0 s := ⟨s.interruptNow, by rw [advance_zero]⟩

theorem trans (h : s.Past m t) (k : t.Past n u) : s.Past (m + n) u := by
  obtain ⟨i, rfl⟩ := h
  obtain ⟨j, rfl⟩ := k
  refine ⟨j, ?_⟩
  rw [← advance_advance]
  rfl

theorem steady (h : s.Past n t) (hs : s.Steady) : t.Steady := by
  obtain ⟨i, rfl⟩ := h
  exact hs

theorem not_steady (h : s.Past n t) (hs : ¬ s.Steady) : ¬ t.Steady := by
  obtain ⟨i, rfl⟩ := h
  exact hs

theorem data (h : s.Past n t) : t.data = s.data.drop n := by
  obtain ⟨i, rfl⟩ := h
  rfl

theorem deliverable (h : s.Past n t) : t.deliverable = s.deliverable.drop n := by
  obtain ⟨i, rfl⟩ := h
  cases s with
  | mk data chunk interrupts interruptNow fault =>
    cases fault with
    | none => rfl
    | some f => exact List.drop_take.symm

theorem ending (h : s.Past n t) (hn : n ≤ s.deliverable.length) : t.ending = s.ending := by
  obtain ⟨i, rfl⟩ := h
  cases s with
  | mk data chunk interrupts interruptNow fault =>
    cases fault with
    | none => rfl
    | some f =>
      have hd : n ≤ f.after ∧ n ≤ data.length := by
        simpa [Source.deliverable, Nat.le_min] using hn
      have hc : f.after - n ≤ data.length - n ↔ f.after ≤ data.length := by omega
      simp [Source.ending, advance, hc]

end Past

/-- What a call can come to. A fault shows as soon as nothing stands in front of it. -/
inductive Called (s : Source) (want : Nat) : Delivery → Source → Prop where
  | interrupted {t : Source} : s.Past 0 t → s.Called want .interrupted t
  | failed {t : Source} : s.deliverable = [] → s.Past 0 t → s.Called want (.failed s.ending) t
  | bytes {bs : List UInt8} {t : Source} : bs = s.data.take (s.quota want) →
      (∀ f, s.fault = some f → 0 < f.after) → s.Past bs.length t → s.Called want (.bytes bs) t

theorem fault_of_failure {s : Source} {e : Failure} (h : s.failure? = some e) :
    s.deliverable = [] ∧ s.ending = e := by
  cases hf : s.fault with
  | none => simp [failure?, hf] at h
  | some f =>
    cases f with
    | mk after failure =>
      cases after with
      | zero =>
        simp only [failure?, hf, Option.some.injEq] at h
        simp [deliverable, ending, hf, h]
      | succ n => simp [failure?, hf] at h

theorem after_pos_of_failure {s : Source} (h : s.failure? = none) {f : Fault}
    (hf : s.fault = some f) : 0 < f.after := by
  cases f with
  | mk after failure =>
    cases after with
    | zero => simp [failure?, hf] at h
    | succ n => exact Nat.succ_pos n

theorem called_call (s : Source) (want : Nat) :
    s.Called want (s.call want).1 (s.call want).2 := by
  by_cases hi : s.interruptNow
  · simp only [call, hi, ↓reduceIte]
    exact .interrupted ⟨false, by rw [advance_zero]⟩
  · cases hf : s.failure? with
    | some e =>
      obtain ⟨hd, he⟩ := fault_of_failure hf
      have hc : s.call want = (.failed e, { s with interruptNow := s.interrupts }) := by
        simp only [failure?] at hf
        simp [call, hi, failure?, hf]
      rw [hc, ← he]
      exact .failed hd ⟨s.interrupts, by rw [advance_zero]⟩
    | none =>
      have hc : s.call want = (.bytes (s.data.take (s.quota want)),
          { s.advance (s.data.take (s.quota want)).length with interruptNow := s.interrupts }) := by
        simp only [failure?] at hf
        simp only [call, hi, failure?, hf]
        rfl
      rw [hc]
      exact .bytes rfl (fun f => after_pos_of_failure hf) ⟨s.interrupts, rfl⟩

theorem called_of_call {s t : Source} {want : Nat} {d : Delivery} (h : s.call want = (d, t)) :
    s.Called want d t := by
  have hc := s.called_call want
  rwa [h] at hc

theorem quota_le (s : Source) (want : Nat) : s.quota want ≤ want := by
  cases hc : s.chunk <;> cases hf : s.fault <;> simp only [quota, hc, hf] <;> omega

theorem quota_pos {s : Source} {want : Nat} (hs : s.Steady) (hw : 0 < want)
    (hf : ∀ f, s.fault = some f → 0 < f.after) : 0 < s.quota want := by
  have hc : ∀ c, s.chunk = some c → 0 < c := by
    intro c hc
    apply Nat.pos_of_ne_zero
    intro h0
    rw [h0] at hc
    exact hs hc
  cases h : s.chunk with
  | none =>
    cases h' : s.fault with
    | none => simpa only [quota, h, h'] using hw
    | some f => simpa only [quota, h, h'] using Nat.lt_min.mpr ⟨hw, hf f h'⟩
  | some c =>
    have hwc := Nat.lt_min.mpr ⟨hw, hc c h⟩
    cases h' : s.fault with
    | none => simpa only [quota, h, h'] using hwc
    | some f => simpa only [quota, h, h'] using Nat.lt_min.mpr ⟨hwc, hf f h'⟩

namespace Called
variable {s t : Source} {want : Nat} {bs : List UInt8}

theorem le_deliverable (h : s.Called want (.bytes bs) t) :
    bs <+: s.deliverable ∧ bs.length ≤ want ∧ s.Past bs.length t := by
  cases h with
  | bytes hbs hf hp =>
    refine ⟨?_, ?_, hp⟩
    · rw [hbs]
      cases h : s.fault with
      | none =>
        simp only [deliverable, h]
        exact List.take_prefix _ _
      | some f =>
        simp only [deliverable, quota, h]
        exact List.take_prefix_take_left (Nat.min_le_right _ _)
    · have := s.quota_le want
      rw [hbs, List.length_take]
      omega

theorem ended (hs : s.Steady) (hw : 0 < want) (h : s.Called want (.bytes []) t) :
    s.deliverable = [] ∧ s.ending = .ended ∧ s.Past 0 t := by
  cases h with
  | bytes hbs hf hp =>
    have hq := quota_pos hs hw hf
    have hd : s.data = [] := by
      cases List.take_eq_nil_iff.mp hbs.symm with
      | inl h0 => omega
      | inr hd => exact hd
    cases h : s.fault with
    | none => exact ⟨by simp [deliverable, h, hd], by simp [ending, h], hp⟩
    | some f =>
      have := hf f h
      have hn : ¬ f.after ≤ s.data.length := by
        simp only [hd, List.length_nil]
        omega
      exact ⟨by simp [deliverable, h, hd], by simp only [ending, h, hn, ↓reduceIte], hp⟩

end Called

/-- A read takes all it wants where that much can be delivered; else it takes what there
is and fails the way the source ends. -/
theorem fill_spec (s : Source) (want : Nat) (hs : s.Steady) :
    (want ≤ s.deliverable.length ∧
      ∃ t, s.fill want = (.ok (s.deliverable.take want), t) ∧ s.Past want t) ∨
    (s.deliverable.length < want ∧
      ∃ t, s.fill want = (.error s.ending, t) ∧ s.Past s.deliverable.length t) := by
  -- Each call leads to a source past the bytes it handed out, where the hypothesis applies.
  fun_induction fill s want with
  | case1 s => exact .inl ⟨Nat.zero_le _, s, rfl, .refl s⟩
  | case2 s want hw t hc ih =>
    cases called_of_call hc with
    | interrupted hp =>
      have hd : t.deliverable = s.deliverable := hp.deliverable
      have he := hp.ending (Nat.zero_le _)
      obtain ⟨hl, u, hu, hpu⟩ | ⟨hl, u, hu, hpu⟩ := ih (hp.steady hs)
      · refine .inl ⟨hd ▸ hl, u, hd ▸ hu, ?_⟩
        simpa using hp.trans hpu
      · refine .inr ⟨hd ▸ hl, u, by rw [hu, he], ?_⟩
        simpa [hd] using hp.trans hpu
  | case3 s want hw f t hc =>
    cases called_of_call hc with
    | failed hd hp =>
      refine .inr ⟨by simp [hd]; omega, t, rfl, ?_⟩
      simpa [hd] using hp
  | case4 s want hw t hc =>
    obtain ⟨hd, he, hp⟩ := (called_of_call hc).ended hs (Nat.pos_of_ne_zero hw)
    refine .inr ⟨by simp [hd]; omega, t, by rw [he], ?_⟩
    simpa [hd] using hp
  | case5 s want hw b bs t hc rest u hu ih =>
    obtain ⟨hpre, hk, hp⟩ := (called_of_call hc).le_deliverable
    have hlen := hpre.length_le
    obtain ⟨hl, v, hv, hpv⟩ | ⟨-, v, hv, -⟩ := ih (hp.steady hs)
    · rw [hu] at hv
      simp only [Prod.mk.injEq, Except.ok.injEq] at hv
      obtain ⟨rfl, rfl⟩ := hv
      have hsum : (b :: bs).length + (want - (bs.length + 1)) = want := by
        simp only [List.length_cons] at hk ⊢
        omega
      rw [hp.deliverable, List.length_drop] at hl
      refine .inl ⟨by omega, u, ?_, hsum ▸ hp.trans hpv⟩
      rw [hp.deliverable, ← hsum, List.take_add, ← List.prefix_iff_eq_take.mp hpre, hsum]
    · simp [hu] at hv
  | case6 s want hw b bs t hc e u hu ih =>
    obtain ⟨hpre, hk, hp⟩ := (called_of_call hc).le_deliverable
    have hlen := hpre.length_le
    obtain ⟨-, v, hv, -⟩ | ⟨hl, v, hv, hpv⟩ := ih (hp.steady hs)
    · simp [hu] at hv
    · rw [hu] at hv
      simp only [Prod.mk.injEq, Except.error.injEq] at hv
      obtain ⟨rfl, rfl⟩ := hv
      rw [hp.deliverable, List.length_drop] at hl hpv
      have hsum : (b :: bs).length + (s.deliverable.length - (b :: bs).length) =
          s.deliverable.length := by omega
      refine .inr ⟨?_, u, by rw [hp.ending hlen], hsum ▸ hp.trans hpv⟩
      simp only [List.length_cons] at hk hl
      omega

theorem quota_stalled {s : Source} (hs : ¬ s.Steady) (want : Nat) : s.quota want = 0 := by
  have hc : s.chunk = some 0 := Decidable.of_not_not hs
  cases hf : s.fault <;> simp only [quota, hc, hf, Nat.min_zero, Nat.zero_min]

theorem fill_stalled {s : Source} {want : Nat} (hs : ¬ s.Steady) (hw : want ≠ 0) :
    ∃ f t, s.fill want = (.error f, t) := by
  fun_induction fill s want with
  | case1 s => exact absurd rfl hw
  | case2 s want _ t hc ih =>
    cases called_of_call hc with
    | interrupted hp => exact ih (hp.not_steady hs) hw
  | case3 s want _ f t => exact ⟨f, t, rfl⟩
  | case4 s want _ t => exact ⟨_, t, rfl⟩
  | case5 s want _ b bs t hc =>
    cases called_of_call hc with
    | bytes hbs =>
      rw [quota_stalled hs, List.take_zero] at hbs
      cases hbs
  | case6 s want _ b bs t hc f u => exact ⟨f, u, rfl⟩
end NetFlow.Source
