import NetFlow.Proofs.Wire.Delivery
import NetFlow.Wire.Reader

/-! The end of a source: how many bytes come before it, and what is met there. Two sources
with the same data and the same fault end alike, whatever their calls are like. -/
namespace NetFlow.Source
variable {s t : Source}

def available (s : Source) : Nat :=
  match s.fault with
  | some f => min f.after s.data.length
  | none => s.data.length

/-- Reading on behind the available bytes meets a fault other than the end of the data. -/
def Breaks (s : Source) (message : String) : Prop :=
  ∃ f, s.fault = some f ∧ f.after ≤ s.data.length ∧ f.failure = ⟨.device, message⟩

theorem deliverable_length (s : Source) : s.deliverable.length = s.available := by
  cases hf : s.fault with
  | none => simp only [deliverable, available, hf]
  | some f => simp only [deliverable, available, hf, List.length_take]

theorem available_le (s : Source) : s.available ≤ s.data.length := by
  rw [← s.deliverable_length]
  exact s.deliverable_length_le

theorem take_deliverable {n : Nat} (h : n ≤ s.available) :
    s.deliverable.take n = s.data.take n := by
  cases hf : s.fault with
  | none => simp only [deliverable, hf]
  | some f =>
    simp only [available, hf] at h
    have hn : n ≤ f.after := Nat.le_trans h (Nat.min_le_left _ _)
    simp only [deliverable, hf, List.take_take, Nat.min_eq_left hn]

theorem deliverable_congr (hd : t.data = s.data) (hf : t.fault = s.fault) :
    t.deliverable = s.deliverable := by
  rw [deliverable, deliverable, hd, hf]

theorem ending_congr (hd : t.data = s.data) (hf : t.fault = s.fault) :
    t.ending = s.ending := by
  rw [ending, ending, hd, hf]

theorem ending_of_reached {f : Fault} (hf : s.fault = some f) (hr : f.after ≤ s.data.length) :
    s.ending = f.failure := by
  simp only [ending, hf, hr, ↓reduceIte]

theorem ending_of_unreached (h : ∀ f, s.fault = some f → s.data.length < f.after) :
    s.ending = .ended := by
  cases hf : s.fault with
  | none => simp only [ending, hf]
  | some f =>
    have hn : ¬ f.after ≤ s.data.length := Nat.not_le.mpr (h f hf)
    simp only [ending, hf, hn, ↓reduceIte]

theorem Breaks.ending {m : String} (h : s.Breaks m) : s.ending = ⟨.device, m⟩ := by
  obtain ⟨f, hf, hr, hm⟩ := h
  rw [ending_of_reached hf hr, hm]

theorem Breaks.error {m : String} (h : s.Breaks m) (field : String) (o w : Nat) :
    s.ending.error field o w = .io field o m := by
  rw [h.ending]
  rfl

theorem ending_kind_of_unbroken (h : ∀ m, ¬ s.Breaks m) : s.ending.kind = .endOfData := by
  cases hf : s.fault with
  | none => simp only [ending, hf, Failure.ended]
  | some f =>
    by_cases hr : f.after ≤ s.data.length
    · rw [ending_of_reached hf hr]
      cases hk : f.failure.kind with
      | endOfData => rfl
      | device =>
        have hb : s.Breaks f.failure.message := ⟨f, hf, hr, by rw [← hk]⟩
        exact absurd hb (h _)
    · simp only [ending, hf, hr, ↓reduceIte, Failure.ended]

theorem error_of_unbroken (h : ∀ m, ¬ s.Breaks m) (field : String) (o w : Nat) :
    s.ending.error field o w = .shortRead field o w s.ending.message := by
  rw [Failure.error, ending_kind_of_unbroken h]

end NetFlow.Source
