import NetFlow.Proofs.Wire.Format

/-! Fields read one after another, up to the first that cannot be read. As long as all goes well,
the offset of the reader is the number of bytes that its source has given. A failed read leaves the
offset where its field begins, although it may have taken a part of the field. -/
namespace NetFlow
open Layout

theorem FieldValue.exists_ofCarrier (v : FieldValue) : ∃ x, ofCarrier v.kind x = v := by
  cases v <;> exact ⟨_, rfl⟩

namespace Reader
variable {f : Field} {fs : List Field} {vs : List FieldValue} {v : FieldValue} {e : Error}
  {r t u : Reader} {s : Source}

theorem value_format (f : Field) :
    Format [f] (value f) FieldValue.bytes fun v => v.kind = f.kind := by
  refine (Format.field f).map ?_ ?_ ?_
  · intro x _
    exact FieldValue.bytes_ofCarrier f.kind x
  · intro x _
    exact FieldValue.kind_ofCarrier f.kind x
  · intro v hv
    rw [← hv]
    obtain ⟨x, hx⟩ := v.exists_ofCarrier
    exact ⟨x, trivial, hx⟩

theorem values_cons (f : Field) (fs : List Field) : values (f :: fs) =
    (fun p => p.1 :: p.2) <$> (do let v ← value f; let vs ← values fs; return (v, vs)) := by
  simp [values, map_bind]

theorem values_format (fs : List Field) :
    Format fs (values fs) (·.flatMap FieldValue.bytes) fun vs =>
      vs.map FieldValue.kind = fs.map Field.kind := by
  induction fs with
  | nil => exact .nil rfl rfl (by simp)
  | cons f fs ih =>
    rw [values_cons]
    refine ((value_format f).pair ih).map (fun _ _ => rfl) ?_ ?_
    · intro p hp
      rw [List.map_cons, List.map_cons, hp.1, hp.2]
    · intro vs hvs
      cases vs with
      | nil => simp at hvs
      | cons v vs =>
        rw [List.map_cons, List.map_cons, List.cons.injEq] at hvs
        exact ⟨(v, vs), hvs, rfl⟩

theorem values_cons_ok (hv : value f r = .ok v u) (h : values fs u = .ok vs t) :
    values (f :: fs) r = .ok (v :: vs) t := by
  simp only [values, bind, EStateM.bind, hv, h]
  rfl

theorem exists_of_values_error (h : values fs r = .error e t) :
    ∃ before f after vs u, fs = before ++ f :: after ∧ values before r = .ok vs u ∧
      value f u = .error e t := by
  induction fs generalizing r with
  | nil => cases h
  | cons f fs ih =>
    -- If the first read succeeds, the failure is one of those behind it.
    cases hv : value f r with
    | error e' t' =>
      simp only [values, bind, EStateM.bind, hv] at h
      cases h
      exact ⟨[], f, fs, [], r, rfl, rfl, hv⟩
    | ok v w =>
      cases hvs : values fs w with
      | ok vs u => simp [values, bind, EStateM.bind, hv, hvs, pure, EStateM.pure] at h
      | error e' t' =>
        simp only [values, bind, EStateM.bind, hv, hvs] at h
        obtain ⟨before, g, after, vs, u, rfl, hbefore, hg⟩ := ih (hvs.trans h)
        exact ⟨f :: before, g, after, v :: vs, u, rfl, values_cons_ok hv hbefore, hg⟩

/-- Where a reader of `s` stands when it has read the fields: behind as many bytes as they are wide,
and its offset says so. From the plain data the same values are read. -/
structure Positioned (s : Source) (fs : List Field) (vs : List FieldValue) (r : Reader) : Prop where
  offset : r.offset = size fs
  drawn : r.offset ≤ s.data.length ∧ r.source.data = s.data.drop r.offset
  plain : ∃ u, values fs (.start (.ofBytes s.data)) = .ok vs ⟨u, r.offset⟩

/-- How a reader of `s` fails to read a field. The error is about the field and the offset at which
it begins, the offset stays there, and not all of the field has been taken. -/
structure Halted (s : Source) (r : Reader) (f : Field) (e : Error) (t : Reader) : Prop where
  offset : t.offset = r.offset
  drawn : ∃ n < f.width, n ≤ r.source.data.length ∧ t.source.data = r.source.data.drop n
  broken : ∀ m, s.Breaks m → e = .io f.name r.offset m
  ended : (∀ m, ¬ s.Breaks m) → e = .shortRead f.name r.offset f.width s.ending.message

theorem positioned (hs : s.Steady) (h : values fs (.start s) = .ok vs r) :
    Positioned s fs vs r := by
  obtain ⟨hl, hoffset, hp, -⟩ := (values_format fs).of_ok hs h
  rw [Nat.zero_add] at hoffset
  have hle := s.available_le
  refine ⟨hoffset, ⟨by omega, hoffset ▸ hp.data⟩, ?_⟩
  exact (values_format fs).ok_of_take_eq hs (Source.steady_ofBytes s.data) h
    (Nat.le_trans hl hle) rfl

theorem halted (hs : s.Steady) (h : values fs (.start s) = .ok vs r) (hf : value f r = .error e t) :
    Halted s r f e t := by
  obtain ⟨hl, -, hp, -⟩ := (values_format fs).of_ok hs h
  rw [← s.deliverable_length] at hl
  obtain ⟨hlt, p, hmem, -, he, hoffset, hpast⟩ := (value_format f).of_error (hp.steady hs) hf
  rw [size_cons, size_nil, Nat.add_zero] at hlt
  rw [place, place, List.mem_singleton] at hmem
  rw [hmem, hp.ending hl] at he
  rw [hmem] at hoffset
  refine ⟨hoffset, ⟨_, hlt, r.source.available_le, hpast.data⟩, ?_, ?_⟩
  · intro m hm
    rw [he, hm.error]
  · intro hm
    rw [he, Source.error_of_unbroken hm]

/-- Reads of any fields from any source. All of them succeed where enough bytes can be had, and
otherwise they stop at one. As long as they succeed, the offset is the sum of the widths so far and
the number of bytes drawn, and nothing but the plain data shows in the values. The one that fails
leaves the offset as it was and has drawn less than its field. What comes before it is a run of
fewer fields, so that nothing needs to be said of the reads in between. -/
theorem values_positioned (s : Source) (hs : s.Steady) (fs : List Field) :
    ((∃ vs r, values fs (.start s) = .ok vs r) ↔ size fs ≤ s.available) ∧
    (∀ vs r, values fs (.start s) = .ok vs r → Positioned s fs vs r) ∧
    ∀ e t, values fs (.start s) = .error e t →
      ∃ before f after vs r, fs = before ++ f :: after ∧
        values before (.start s) = .ok vs r ∧ Positioned s before vs r ∧
        value f r = .error e t ∧ Halted s r f e t := by
  refine ⟨(values_format fs).ok_iff 0 hs, fun _ _ => positioned hs, ?_⟩
  intro e t h
  obtain ⟨before, f, after, vs, r, hfs, hbefore, hf⟩ := exists_of_values_error h
  exact ⟨before, f, after, vs, r, hfs, hbefore, positioned hs hbefore, hf, halted hs hbefore hf⟩

end Reader

def Source.unplugged : Source where
  data := [6, 10, 0, 0, 1, 0, 80, 1]
  chunk := some 3
  interrupts := true
  interruptNow := true
  fault := some ⟨6, .device, "unplugged"⟩

theorem Reader.values_positioned_unplugged : Source.unplugged.Steady ∧
    (∃ r, values [⟨"protocol", .u8⟩, ⟨"src_addr", .addr⟩] (.start .unplugged) =
        .ok [.u8 6, .addr ⟨10, 0, 0, 1⟩] r ∧ r.offset = 5 ∧ r.source.data = [0, 80, 1]) ∧
    ∃ f r t, f.name = "src_port" ∧ value f r = .error (.io "src_port" 5 "unplugged") t ∧
      r.offset = 5 ∧ t.offset = 5 := by
  have hs : Source.unplugged.Steady := by decide
  obtain ⟨-, hread, -⟩ := values_positioned .unplugged hs [⟨"protocol", .u8⟩, ⟨"src_addr", .addr⟩]
  obtain ⟨-, -, hstop⟩ := values_positioned .unplugged hs
    [⟨"protocol", .u8⟩, ⟨"src_addr", .addr⟩, ⟨"src_port", .u16⟩]
  have hok : values [⟨"protocol", .u8⟩, ⟨"src_addr", .addr⟩] (.start .unplugged) =
      .ok [.u8 6, .addr ⟨10, 0, 0, 1⟩]
        ⟨⟨[0, 80, 1], some 3, true, true, some ⟨1, .device, "unplugged"⟩⟩, 5⟩ := by cbv
  have herror : values [⟨"protocol", .u8⟩, ⟨"src_addr", .addr⟩, ⟨"src_port", .u16⟩]
      (.start .unplugged) = .error (.io "src_port" 5 "unplugged")
        ⟨⟨[80, 1], some 3, true, true, some ⟨0, .device, "unplugged"⟩⟩, 5⟩ := by cbv
  obtain ⟨-, f, -, -, r, -, -, -, hf, hhalted⟩ := hstop _ _ herror
  have hbroken := hhalted.broken "unplugged" ⟨_, rfl, by decide, rfl⟩
  obtain ⟨hname, hoffset, -⟩ := Error.io.inj hbroken
  have hpositioned := hread _ _ hok
  exact ⟨hs, ⟨_, hok, hpositioned.offset, hpositioned.drawn.2⟩,
    f, r, _, hname.symm, hf, hoffset.symm, rfl⟩

end NetFlow
