import NetFlow.Proofs.Record.RoundTrip

/-! Decoding a declared record where the source may end too early. Only the number of bytes
available matters. If they suffice, the record is made of the first ones; if not, the error is at
the one field of the layout in which they run out. -/
namespace NetFlow
open Layout
variable {α : Type}

/-- Decoding fails where the layout says that the available bytes end, with the fault if one was
met there. With enough bytes it succeeds, and the first ones decide what is returned. -/
structure Localised (layout : Layout) (decode : Source → EStateM.Result Error Reader α) : Prop where
  whole : ∀ s : Source, s.Steady → layout.len ≤ s.available → ∃ a r, decode s = .ok a r
  front : ∀ s t : Source, s.Steady → t.Steady → layout.len ≤ s.available →
    layout.len ≤ t.available → s.data.take layout.len = t.data.take layout.len →
    ∃ a r r', decode s = .ok a r ∧ decode t = .ok a r'
  cut : ∀ s : Source, s.Steady → s.available < layout.len →
    ∃ p : Nat × Field, (∀ q, q ∈ layout.offsets ∧ Covers q s.available ↔ q = p) ∧
      ∃ r, (∀ m, s.Breaks m → decode s = .error (.io p.2.name p.1 m) r) ∧
        ((∀ m, ¬ s.Breaks m) →
          decode s = .error (.shortRead p.2.name p.1 p.2.width s.ending.message) r)
  kinds : ∀ (s : Source) (x : Error) (r : Reader), s.Steady → decode s = .error x r →
    s.available < layout.len ∧
      ((∃ field o m, x = .io field o m) ∨ ∃ field o w m, x = .shortRead field o w m)

theorem Failure.error_cases (e : Failure) (field : String) (o w : Nat) :
    (∃ m, e.error field o w = .io field o m) ∨ ∃ m, e.error field o w = .shortRead field o w m := by
  cases e with
  | mk kind message =>
    cases kind with
    | endOfData => exact .inr ⟨message, rfl⟩
    | device => exact .inl ⟨message, rfl⟩

namespace Format
variable {layout : Layout} {read : ReadM α} {encode : α → List UInt8}
  (h : Format layout.fields read encode fun _ => True)
include h

theorem exists_ok {s : Source} (hs : s.Steady) (hl : layout.len ≤ s.available) :
    ∃ a r, read (.start s) = .ok a r := by
  rw [len_eq_size] at hl
  exact (h.ok_iff 0 hs).mpr hl

theorem exists_error {s : Source} (hs : s.Steady) (hl : s.available < layout.len) :
    ∃ p r, (p ∈ layout.offsets ∧ Covers p s.available) ∧
      read (.start s) = .error (s.ending.error p.2.name p.1 p.2.width) r := by
  rw [len_eq_size, ← s.deliverable_length] at hl
  obtain ⟨p, hp, hc, t, hr, -⟩ := h.cut 0 hs hl
  rw [Nat.zero_add, s.deliverable_length] at hc
  exact ⟨p, _, ⟨hp, hc⟩, hr⟩

theorem localised : Localised layout fun s => read (.start s) where
  whole s hs hl := h.exists_ok hs hl
  front s t hs ht hls hlt heq := by
    obtain ⟨a, r, hr⟩ := h.exists_ok hs hls
    rw [len_eq_size] at hlt heq
    obtain ⟨u, hu⟩ := h.ok_of_take_eq hs ht hr hlt heq
    exact ⟨a, r, _, hr, hu⟩
  cut s hs hl := by
    obtain ⟨p, r, ⟨hp, hc⟩, hr⟩ := h.exists_error hs hl
    refine ⟨p, ?_, r, ?_, ?_⟩
    · intro q
      constructor
      · rintro ⟨hq, hcq⟩
        exact covers_unique hq hp hcq hc
      · rintro rfl
        exact ⟨hp, hc⟩
    · intro m hm
      rw [hr, hm.error]
    · intro hm
      rw [hr, Source.error_of_unbroken hm]
  kinds s x r hs hx := by
    obtain ⟨hl, p, -, -, rfl, -⟩ := h.of_error hs hx
    rw [len_eq_size]
    refine ⟨hl, ?_⟩
    obtain ⟨m, hm⟩ | ⟨m, hm⟩ := s.ending.error_cases p.2.name p.1 p.2.width
    · exact .inl ⟨_, _, m, hm⟩
    · exact .inr ⟨_, _, _, m, hm⟩

end Format

/-- Every declaration, and every type that has one, is decoded or fails as its layout says. -/
theorem declared_localised :
    (∀ s : Schema, Localised s.layout s.decode) ∧
    ∀ (α : Type) [Record α], Localised (Record.layout α) (Record.decode α) := by
  constructor
  · intro s
    exact (Schema.format s).localised
  · intro α _
    exact (Record.format α).localised

def Source.shortRelay (fault : Option Fault) : Source where
  data := [3, 10, 0, 0, 1, 2, 3]
  chunk := some 2
  interrupts := true
  interruptNow := true
  fault := fault

theorem declared_localised_relay :
    (∃ r, Schema.relay.decode (.shortRelay none) =
      .error (.shortRead "at" 7 4 Failure.ended.message) r) ∧
    ∃ r, Schema.relay.decode (.shortRelay (some ⟨6, .device, "reset"⟩)) =
      .error (.io "tag" 5 "reset") r := by
  have h := declared_localised.1 Schema.relay
  constructor
  · obtain ⟨p, hp, r, -, hr⟩ := h.cut (.shortRelay none) (by decide) (by decide)
    obtain rfl := (hp (7, ⟨"at", .u32⟩)).mp (by decide)
    refine ⟨r, hr ?_⟩
    rintro m ⟨f, hf, -⟩
    cases hf
  · obtain ⟨p, hp, r, hr, -⟩ :=
      h.cut (.shortRelay (some ⟨6, .device, "reset"⟩)) (by decide) (by decide)
    obtain rfl := (hp (5, ⟨"tag", .u16⟩)).mp (by decide)
    exact ⟨r, hr "reset" ⟨_, rfl, by decide, rfl⟩⟩

end NetFlow
