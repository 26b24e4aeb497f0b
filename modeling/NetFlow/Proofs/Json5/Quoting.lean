import NetFlow.Json5.Tokens
import NetFlow.Proofs.Json.Quoting

/-! JSON5 texts know the escapes of JSON, so text that is quoted for the one is read back in
the other, unless it has a line end in it that JSON does not count as one. -/
namespace NetFlow.Json5

/-- Without the two line ends that JSON writes as they are. -/
def Quotable (s : String) : Prop := ∀ c ∈ s.toList, c ≠ '\u2028' ∧ c ≠ '\u2029'

instance (s : String) : Decidable (Quotable s) :=
  List.decidableBAll (fun c => c ≠ '\u2028' ∧ c ≠ '\u2029') s.toList

variable {c : Char} {cs rest : List Char} {ps : List Piece}

theorem join_char {raw s : List Char} (h : join none ps = .ok s) :
    join none (.char raw c :: ps) = .ok (c :: s) := by
  simp [join, h, Except.map]

theorem join_unit_control {n : Nat} (h : n < 32) (raw : List Char) {s : List Char}
    (hs : join none ps = .ok s) : join none (.unit raw n :: ps) = .ok (Char.ofNat n :: s) := by
  have hlead : Surrogate.isLead n = false := Surrogate.isLead_of_lt (by omega)
  have htrail : Surrogate.isTrail n = false := Surrogate.isTrail_of_lt (by omega)
  simp [join, hlead, htrail, hs, Except.map]

theorem pieces?_plain (hq : c ≠ '"') (hb : c ≠ '\\') (hend : isLineEnd c = false)
    (h : pieces? '"' cs = some (ps, rest)) :
    pieces? '"' (c :: cs) = some (.char [c] c :: ps, rest) := by
  rw [pieces?.eq_def]
  split
  case h_6 heq =>
    cases heq
    simp [hq, hb, hend, h]
  all_goals simp_all

theorem pieces?_short (hc : c ∈ ['"', '\\', '\x08', '\x0c', '\n', '\r', '\t'])
    (h : pieces? '"' cs = some (ps, rest)) :
    pieces? '"' (Json.escape c ++ cs) = some (.char (Json.escape c).tail c :: ps, rest) := by
  simp only [List.mem_cons, List.not_mem_nil, or_false] at hc
  obtain rfl | rfl | rfl | rfl | rfl | rfl | rfl := hc <;>
    simp [Json.escape, pieces?, unescape, isLineEnd, h]

theorem restored (hc : c ≠ '\u2028' ∧ c ≠ '\u2029') :
    Json.Restored (pieces? '"') (fun ps s => join none ps = .ok s) c := by
  obtain hshort | ⟨hlow, he⟩ | ⟨hq, hb, hlow, he⟩ := Json.escape_cases c
  · exact ⟨.char (Json.escape c).tail c, pieces?_short hshort, join_char⟩
  · refine ⟨.unit ['0', '0', Nat.digitChar (c.toNat / 16), Nat.digitChar (c.toNat % 16)]
      c.toNat, ?_, ?_⟩
    · intro cs ps rest h
      have hv := Json.value?_control c.toNat hlow
      simp [he, pieces?, hv, h]
    · intro ps s h
      rw [join_unit_control hlow _ h, Char.ofNat_toNat]
  · have hend : isLineEnd c = false := by
      simp only [isLineEnd, Bool.or_eq_false_iff, beq_eq_false_iff_ne]
      refine ⟨⟨⟨?_, ?_⟩, hc.1⟩, hc.2⟩ <;> rintro rfl <;> exact hlow (by decide)
    refine ⟨.char [c] c, ?_, join_char⟩
    intro cs ps rest h
    rw [he]
    exact pieces?_plain hq hb hend h

/-- Text that is quoted as in JSON is one token, which says what was quoted. -/
theorem token_quoted {s : String} (hs : Quotable s) (rest : List Char) :
    token '"' (s.toList.flatMap Json.escape ++ '"' :: rest) =
      (.leaf (some (.ofString s)) (some (.ok s)), rest) := by
  obtain ⟨ps, hps, hjoin⟩ := Json.read_escaped (fun ps s => join none ps = .ok s)
    (fun _ => by simp [pieces?]) rfl (fun c hc => restored (hs c hc)) rest
  have ht : text ps = .ok s := by
    simp [text, hjoin]
  simp [token, ofString, hps, ht, Document.ofString]

end NetFlow.Json5
