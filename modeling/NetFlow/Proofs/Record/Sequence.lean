import NetFlow.Proofs.Record.WireForm

/-! Values of any kinds in any order, put one behind the other into a buffer. Reading the same kinds
undoes it, and putting undoes reading. Where the bytes do not suffice for all the kinds, the first
one whose bytes are not all there cannot be read. -/
namespace NetFlow
open Layout

namespace Row

theorem readerValues_eq (fs : List Field) :
    Reader.values fs = (fun r => (values fs r).map Prod.snd) <$> read fs := by
  induction fs with
  | nil => rfl
  | cons f fs ih => simp [Reader.values, Reader.value, read, values, ih, map_bind]

theorem map_kind_values (fs : List Field) (r : Row fs) :
    ((values fs r).map Prod.snd).map FieldValue.kind = fs.map Field.kind := by
  induction fs with
  | nil => rfl
  | cons f fs ih =>
    obtain ⟨x, r⟩ := r
    simp only [values, List.map_cons, FieldValue.kind_ofCarrier, ih]

theorem encodeInto_nil (fs : List Field) (r : Row fs) : encodeInto fs [] r = encode fs r := by
  rw [encodeInto_eq, List.nil_append]

/-- Putting and reading undo each other, with other bytes behind or without. Where bytes are missing,
reading comes as far as the first field that needs one of them. -/
structure Reversible (fs : List Field) : Prop where
  read_put : ∀ (r : Row fs) (t : List UInt8), ∃ u,
    read fs (.start (.ofBytes (encodeInto fs [] r ++ t))) = .ok r ⟨u, size fs⟩ ∧
    Reader.values fs (.start (.ofBytes (encodeInto fs [] r ++ t))) =
      .ok ((values fs r).map Prod.snd) ⟨u, size fs⟩ ∧
    u.data = t
  kinds : ∀ r : Row fs, ((values fs r).map Prod.snd).map FieldValue.kind = fs.map Field.kind
  put_read : ∀ bs : List UInt8, size fs ≤ bs.length → ∃ r u,
    read fs (.start (.ofBytes bs)) = .ok r ⟨u, size fs⟩ ∧
    encodeInto fs [] r = bs.take (size fs) ∧ u.data = bs.drop (size fs)
  cut : ∀ bs : List UInt8, bs.length < size fs → ∃ before f after,
    fs = before ++ f :: after ∧
    (∀ front, front <+: before → size front ≤ bs.length) ∧ bs.length < size (before ++ [f]) ∧
    (∃ r u, read before (.start (.ofBytes bs)) = .ok r ⟨u, size before⟩) ∧
    ∃ u, read fs (.start (.ofBytes bs)) =
      .error (.shortRead f.name (size before) f.width Failure.ended.message) ⟨u, size before⟩

theorem read_encodeInto {fs : List Field} (r : Row fs) (t : List UInt8) : ∃ u,
    read fs (.start (.ofBytes (encodeInto fs [] r ++ t))) = .ok r ⟨u, size fs⟩ ∧ u.data = t := by
  have hpre : encode fs r <+: encodeInto fs [] r ++ t := by
    rw [encodeInto_nil]
    exact List.prefix_append _ _
  obtain ⟨u, hu, hp⟩ := (format fs).ok_of_isPrefix 0 (Source.steady_ofBytes _) trivial hpre
  have hlen : (encode fs r).length = size fs := (format fs).length trivial
  rw [Nat.zero_add] at hu
  refine ⟨u, hu, ?_⟩
  rw [hp.data, ← hlen, ← encodeInto_nil]
  exact List.drop_left

theorem encodeInto_of_read {fs : List Field} {bs : List UInt8} (h : size fs ≤ bs.length) : ∃ r u,
    read fs (.start (.ofBytes bs)) = .ok r ⟨u, size fs⟩ ∧ encodeInto fs [] r = bs.take (size fs) ∧
      u.data = bs.drop (size fs) := by
  obtain ⟨r, u, hr, -, he, hp⟩ := (format fs).whole 0 (Source.steady_ofBytes bs) h
  rw [Nat.zero_add] at hr
  exact ⟨r, u, hr, (encodeInto_nil fs r).trans he, hp.data⟩

theorem exists_cut {fs : List Field} {bs : List UInt8} (h : bs.length < size fs) :
    ∃ before f after, fs = before ++ f :: after ∧ size before ≤ bs.length ∧
      bs.length < size (before ++ [f]) ∧ ∃ u, read fs (.start (.ofBytes bs)) =
        .error (.shortRead f.name (size before) f.width Failure.ended.message) ⟨u, size before⟩ := by
  obtain ⟨p, hp, hc, u, hu, -⟩ := (format fs).cut 0 (Source.steady_ofBytes bs) h
  obtain ⟨before, after, hfs, hstart⟩ := exists_split_of_mem_place hp
  rw [Nat.zero_add] at hstart
  obtain ⟨hfrom, hto⟩ := hc
  rw [Nat.zero_add, Source.deliverable_ofBytes] at hfrom hto
  rw [hstart] at hu hfrom hto
  refine ⟨before, p.2, after, hfs, hfrom, ?_, u, hu⟩
  rw [size_append, size_cons, size_nil]
  exact hto

theorem reversible (fs : List Field) : Reversible fs where
  read_put r t := by
    obtain ⟨u, hu, hdata⟩ := read_encodeInto r t
    refine ⟨u, hu, ?_, hdata⟩
    rw [readerValues_eq]
    exact map_ok _ hu
  kinds := map_kind_values fs
  put_read _ := encodeInto_of_read
  cut bs h := by
    obtain ⟨before, f, after, hfs, hle, hlt, hread⟩ := exists_cut h
    obtain ⟨r, u, hr, -⟩ := encodeInto_of_read hle
    exact ⟨before, f, after, hfs, fun _ hfront => Nat.le_trans (size_le_of_isPrefix hfront) hle, hlt,
      ⟨r, u, hr⟩, hread⟩

theorem reversible_hop :
    (∃ u, read [⟨"peer", .addr⟩, ⟨"tag", .u16⟩] (.start (.ofBytes [10, 0, 0, 1, 2, 3, 9])) =
      .ok (⟨10, 0, 0, 1⟩, 515, ()) ⟨u, 6⟩ ∧ u.data = [9]) ∧
    ∃ u, read [⟨"peer", .addr⟩, ⟨"tag", .u16⟩] (.start (.ofBytes [10, 0, 0, 1, 2])) =
      .error (.shortRead "tag" 4 2 Failure.ended.message) ⟨u, 4⟩ := by
  have h := reversible [⟨"peer", .addr⟩, ⟨"tag", .u16⟩]
  constructor
  · obtain ⟨u, hu, -, hdata⟩ := h.read_put (⟨10, 0, 0, 1⟩, 515, ()) [9]
    exact ⟨u, hu, hdata⟩
  · obtain ⟨before, f, after, hfs, -, hlt, -, u, hu⟩ := h.cut [10, 0, 0, 1, 2] (by decide)
    cases before with
    | nil =>
      cases hfs
      exact absurd hlt (by decide)
    | cons g before =>
      cases before with
      | nil =>
        cases hfs
        exact ⟨u, hu⟩
      | cons g before => simp at hfs

end Row
end NetFlow
