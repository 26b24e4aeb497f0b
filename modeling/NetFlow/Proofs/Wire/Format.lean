import NetFlow.Proofs.Wire.Digits
import NetFlow.Proofs.Wire.Ending
import NetFlow.Proofs.Wire.Spans

/-! Readers of a fixed list of fields, together with the encoder that they undo. One
predicate says what such a reader does on every source; it holds of single fields and
passes to sequences and repetitions. -/
namespace NetFlow
open Layout

section
variable {ε σ α β : Type} {s u : σ} {b : β}

theorem exists_of_bind_ok {x : EStateM ε σ α} {f : α → EStateM ε σ β}
    (h : (x >>= f) s = .ok b u) : ∃ a t, x s = .ok a t ∧ f a t = .ok b u := by
  simp only [bind, EStateM.bind] at h
  cases hx : x s with
  | ok a t =>
    rw [hx] at h
    exact ⟨a, t, rfl, h⟩
  | error e t =>
    rw [hx] at h
    cases h

theorem exists_of_map_ok {x : EStateM ε σ α} {f : α → β} (h : (f <$> x) s = .ok b u) :
    ∃ a, x s = .ok a u ∧ f a = b := by
  rw [map_eq_pure_bind] at h
  obtain ⟨a, t, hx, hf⟩ := exists_of_bind_ok h
  cases hf
  exact ⟨a, hx, rfl⟩

theorem map_ok {x : EStateM ε σ α} {a : α} (f : α → β) (h : x s = .ok a u) :
    (f <$> x) s = .ok (f a) u := by
  simp [Functor.map, EStateM.map, h]

end

variable {α β : Type}

/-- On any source, `read` takes exactly the bytes of `fields` and returns the value that
`encode` turns into them; where they are not all there, it fails at the field in which the
bytes end. The values it returns are those that satisfy `Fits`. -/
structure Format (fields : List Field) (read : ReadM α) (encode : α → List UInt8)
    (Fits : α → Prop) : Prop where
  length : ∀ {a}, Fits a → (encode a).length = size fields
  injective : ∀ {a b}, Fits a → Fits b → encode a = encode b → a = b
  whole : ∀ {s : Source} (o : Nat), s.Steady → size fields ≤ s.deliverable.length →
    ∃ a t, read ⟨s, o⟩ = .ok a ⟨t, o + size fields⟩ ∧ Fits a ∧
      encode a = s.deliverable.take (size fields) ∧ s.Past (size fields) t
  cut : ∀ {s : Source} (o : Nat), s.Steady → s.deliverable.length < size fields →
    ∃ p ∈ place o fields, Covers p (o + s.deliverable.length) ∧
      ∃ t, read ⟨s, o⟩ = .error (s.ending.error p.2.name p.1 p.2.width) ⟨t, p.1⟩ ∧
        s.Past s.deliverable.length t

namespace Format
variable {fs gs : List Field} {read : ReadM α} {encode : α → List UInt8} {Fits : α → Prop}

theorem nil {a : α} (hf : Fits a) (he : encode a = []) (hu : ∀ b, Fits b → b = a) :
    Format [] (pure a) encode Fits where
  length hb := by rw [hu _ hb, he]; rfl
  injective hb hc _ := (hu _ hb).trans (hu _ hc).symm
  whole {s} o _ _ := ⟨a, s, rfl, hf, he, .refl s⟩
  cut o _ hl := absurd hl (Nat.not_lt_zero _)

theorem field (f : Field) :
    Format [f] (Reader.field f.name f.kind) f.kind.encode fun _ => True where
  length _ := by simp [Kind.encode_length, Field.width]
  injective {a b} _ _ h := by
    rw [← f.kind.decode_encode a, h, f.kind.decode_encode]
  whole {s} o hs hl := by
    have hw : size [f] = f.kind.width := by simp [Field.width]
    rw [hw] at hl ⊢
    obtain ⟨-, t, ht, hp⟩ | ⟨hlt, -⟩ := s.fill_spec f.kind.width hs
    · refine ⟨f.kind.decode (s.deliverable.take f.kind.width), t, ?_, trivial, ?_, hp⟩
      · simp [Reader.field, ht]
      · exact f.kind.encode_decode (by simp [hl])
    · omega
  cut {s} o hs hl := by
    have hw : size [f] = f.width := by simp
    rw [hw] at hl
    obtain ⟨hle, -⟩ | ⟨-, t, ht, hp⟩ := s.fill_spec f.kind.width hs
    · exact absurd hl (Nat.not_lt.mpr hle)
    · refine ⟨(o, f), by simp [place], ⟨by simp, by simpa using hl⟩, t, ?_, hp⟩
      simp [Reader.field, ht, Field.width]

/-- One reader after the other. Where the second one fails, it does so behind the bytes
that the first one took. -/
theorem pair {read' : ReadM β} {encode' : β → List UInt8} {Fits' : β → Prop}
    (h : Format fs read encode Fits) (h' : Format gs read' encode' Fits') :
    Format (fs ++ gs) (do let a ← read; let b ← read'; return (a, b))
      (fun p => encode p.1 ++ encode' p.2) fun p => Fits p.1 ∧ Fits' p.2 where
  length hp := by simp [h.length hp.1, h'.length hp.2]
  injective {p q} hp hq he := by
    have hl : (encode p.1).length = (encode q.1).length := by rw [h.length hp.1, h.length hq.1]
    obtain ⟨h₁, h₂⟩ := List.append_inj he hl
    exact Prod.ext (h.injective hp.1 hq.1 h₁) (h'.injective hp.2 hq.2 h₂)
  whole {s} o hs hl := by
    rw [size_append] at hl ⊢
    obtain ⟨a, t, ha, hfa, hea, hpt⟩ := h.whole o hs (by omega)
    have hd := hpt.deliverable
    obtain ⟨b, u, hb, hfb, heb, hpu⟩ := h'.whole (o + size fs) (hpt.steady hs)
      (by rw [hd, List.length_drop]; omega)
    refine ⟨(a, b), u, ?_, ⟨hfa, hfb⟩, ?_, hpt.trans hpu⟩
    · simp [bind, EStateM.bind, ha, hb, pure, EStateM.pure, Nat.add_assoc]
    · rw [hea, heb, hd, List.take_add]
  cut {s} o hs hl := by
    rw [size_append] at hl
    rw [place_append]
    by_cases hfs : s.deliverable.length < size fs
    · obtain ⟨p, hp, hc, t, ht, hpt⟩ := h.cut o hs hfs
      refine ⟨p, List.mem_append_left _ hp, hc, t, ?_, hpt⟩
      simp [bind, EStateM.bind, ht]
    · -- The first reader finds all its fields, so the second one is cut.
      obtain ⟨a, t, ha, -, -, hpt⟩ := h.whole o hs (Nat.not_lt.mp hfs)
      have hd : t.deliverable.length = s.deliverable.length - size fs := by
        rw [hpt.deliverable, List.length_drop]
      obtain ⟨p, hp, hc, u, hu, hpu⟩ := h'.cut (o + size fs) (hpt.steady hs) (by omega)
      have hsum : size fs + t.deliverable.length = s.deliverable.length := by omega
      refine ⟨p, List.mem_append_right _ hp, ?_, u, ?_, hsum ▸ hpt.trans hpu⟩
      · rwa [Nat.add_assoc, hsum] at hc
      · rw [hpt.ending (Nat.not_lt.mp hfs)] at hu
        simp [bind, EStateM.bind, ha, hu]

theorem of_iff {Fits' : α → Prop} (h : Format fs read encode Fits)
    (hf : ∀ a, Fits a ↔ Fits' a) : Format fs read encode Fits' := by
  have he : Fits = Fits' := funext fun a => propext (hf a)
  exact he ▸ h

theorem map (h : Format fs read encode Fits) {g : α → β} {encode' : β → List UInt8}
    {Fits' : β → Prop} (he : ∀ a, Fits a → encode' (g a) = encode a)
    (hf : ∀ a, Fits a → Fits' (g a)) (hg : ∀ b, Fits' b → ∃ a, Fits a ∧ g a = b) :
    Format fs (g <$> read) encode' Fits' where
  length {b} hb := by
    obtain ⟨a, ha, rfl⟩ := hg b hb
    rw [he a ha, h.length ha]
  injective {b c} hb hc hbc := by
    obtain ⟨a, ha, rfl⟩ := hg b hb
    obtain ⟨d, hd, rfl⟩ := hg c hc
    rw [he a ha, he d hd] at hbc
    rw [h.injective ha hd hbc]
  whole {s} o hs hl := by
    obtain ⟨a, t, hr, ha, hea, hpt⟩ := h.whole o hs hl
    refine ⟨g a, t, ?_, hf a ha, (he a ha).trans hea, hpt⟩
    simp [Functor.map, EStateM.map, hr]
  cut {s} o hs hl := by
    obtain ⟨p, hp, hc, t, hr, hpt⟩ := h.cut o hs hl
    refine ⟨p, hp, hc, t, ?_, hpt⟩
    simp [Functor.map, EStateM.map, hr]

theorem of_ok (h : Format fs read encode Fits) {s : Source} {o : Nat} {a : α} {r : Reader}
    (hs : s.Steady) (hr : read ⟨s, o⟩ = .ok a r) :
    size fs ≤ s.available ∧ r.offset = o + size fs ∧ s.Past (size fs) r.source ∧ Fits a ∧
      encode a = s.deliverable.take (size fs) := by
  rw [← s.deliverable_length]
  by_cases hl : size fs ≤ s.deliverable.length
  · obtain ⟨b, t, hb, hf, he, hp⟩ := h.whole o hs hl
    have hab := hr.symm.trans hb
    cases hab
    exact ⟨hl, rfl, hp, hf, he⟩
  · obtain ⟨p, -, -, t, hx, -⟩ := h.cut o hs (Nat.not_le.mp hl)
    have hab := hr.symm.trans hx
    cases hab

theorem of_error (h : Format fs read encode Fits) {s : Source} {o : Nat} {e : Error} {r : Reader}
    (hs : s.Steady) (hr : read ⟨s, o⟩ = .error e r) :
    s.available < size fs ∧ ∃ p ∈ place o fs, Covers p (o + s.available) ∧
      e = s.ending.error p.2.name p.1 p.2.width ∧ r.offset = p.1 ∧ s.Past s.available r.source := by
  rw [← s.deliverable_length]
  by_cases hl : size fs ≤ s.deliverable.length
  · obtain ⟨a, t, ha, -⟩ := h.whole o hs hl
    have hne := hr.symm.trans ha
    cases hne
  · obtain ⟨p, hp, hc, t, hx, hpt⟩ := h.cut o hs (Nat.not_le.mp hl)
    have heq := hr.symm.trans hx
    cases heq
    exact ⟨Nat.not_le.mp hl, p, hp, hc, rfl, rfl, hpt⟩

theorem ok_iff (h : Format fs read encode Fits) {s : Source} (o : Nat) (hs : s.Steady) :
    (∃ a r, read ⟨s, o⟩ = .ok a r) ↔ size fs ≤ s.available := by
  constructor
  · intro hok
    obtain ⟨a, r, hr⟩ := hok
    exact (h.of_ok hs hr).1
  · intro hl
    rw [← s.deliverable_length] at hl
    obtain ⟨a, t, hr, -⟩ := h.whole o hs hl
    exact ⟨a, _, hr⟩

theorem ok_of_isPrefix (h : Format fs read encode Fits) {s : Source} {a : α} (o : Nat)
    (hs : s.Steady) (ha : Fits a) (hpre : encode a <+: s.deliverable) :
    ∃ u, read ⟨s, o⟩ = .ok a ⟨u, o + size fs⟩ ∧ s.Past (size fs) u := by
  have hlen := h.length ha
  obtain ⟨b, u, hr, hb, hbytes, hp⟩ := h.whole o hs (hlen ▸ hpre.length_le)
  have he : encode b = encode a := by
    rw [hbytes, ← hlen]
    exact (List.prefix_iff_eq_take.mp hpre).symm
  obtain rfl := h.injective hb ha he
  exact ⟨u, hr, hp⟩

/-- Sources that begin with the same bytes are read alike, as far as these bytes go. -/
theorem ok_of_take_eq (h : Format fs read encode Fits) {s t : Source} {o : Nat} {a : α}
    {r : Reader} (hs : s.Steady) (ht : t.Steady) (hr : read ⟨s, o⟩ = .ok a r)
    (hl : size fs ≤ t.available) (heq : s.data.take (size fs) = t.data.take (size fs)) :
    ∃ u, read ⟨t, o⟩ = .ok a ⟨u, r.offset⟩ := by
  obtain ⟨hls, hoffset, -, ha, he⟩ := h.of_ok hs hr
  have hpre : encode a <+: t.deliverable := by
    rw [he, s.take_deliverable hls, heq, ← t.take_deliverable hl]
    exact List.take_prefix _ _
  obtain ⟨u, hu, -⟩ := h.ok_of_isPrefix o ht ha hpre
  rw [hoffset]
  exact ⟨u, hu⟩

end Format

namespace Reader

theorem timesOnto_eq (read : ReadM α) (n : Nat) (done : List α) :
    timesOnto read n done = (done.reverse ++ ·) <$> times read n := by
  induction n generalizing done with
  | zero => simp [timesOnto, times]
  | succ n ih =>
    have h (done : List α) : timesOnto read (n + 1) done =
        read >>= fun a => ((a :: done).reverse ++ ·) <$> times read n := by
      simp only [timesOnto, ih]
    rw [times, h, h]
    simp [map_bind]

theorem times_succ (read : ReadM α) (n : Nat) :
    times read (n + 1) =
      (fun p => p.1 :: p.2) <$> (do let a ← read; let as ← times read n; return (a, as)) := by
  have h : times read (n + 1) = read >>= fun a => timesOnto read n [a] := rfl
  rw [h]
  simp [timesOnto_eq, map_bind]

end Reader

theorem Format.times {fs : List Field} {read : ReadM α} {encode : α → List UInt8}
    {Fits : α → Prop} (h : Format fs read encode Fits) (n : Nat) :
    Format (List.replicate n fs).flatten (Reader.times read n) (·.flatMap encode)
      fun as => as.length = n ∧ ∀ a ∈ as, Fits a := by
  induction n with
  | zero => exact .nil (by simp) rfl (by simp)
  | succ n ih =>
    rw [Reader.times_succ, List.replicate_succ, List.flatten_cons]
    refine (h.pair ih).map (fun p _ => rfl) ?_ ?_
    · intro p hp
      obtain ⟨ha, hn, has⟩ := hp
      simpa [hn] using And.intro ha has
    · intro as has
      cases as with
      | nil => simp at has
      | cons a as =>
        have ha := List.forall_mem_cons.mp has.2
        exact ⟨(a, as), ⟨ha.1, Nat.succ.inj has.1, ha.2⟩, rfl⟩

end NetFlow
