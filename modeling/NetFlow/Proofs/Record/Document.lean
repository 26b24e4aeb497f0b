import NetFlow.Proofs.Document.Members
import NetFlow.Proofs.Text.Dotted
import NetFlow.Record.Basic

/-! Records as documents: what is written of a record is read as the same record, for every
declaration whose fields can be told apart by name. -/
namespace NetFlow

namespace Json

theorem numeral_ofNat {n : Nat} (h : n < wordBound) : numeral (.ofNat n) = .ok (.integer n) := by
  have hv := Decimal.value_digits n
  simp only [numeral, Numeral.ofNat, hv, h, Option.isSome_none, Bool.or_self, Bool.false_eq_true,
    ↓reduceIte]
  rfl

theorem word_ofNat {bound n : Nat} (name : String) (hb : bound ≤ wordBound) (hn : n < bound) :
    word bound name (.ofNat n) = .ok n := by
  rw [Document.ofNat, word, numeral_ofNat (Nat.lt_of_lt_of_le hn hb)]
  have hrange : (0 : Int) ≤ (n : Int) ∧ (n : Int) < (bound : Int) := by omega
  simp [bind, Except.bind, hrange, pure, Except.pure]

theorem word8_toNat (n : UInt8) : word8 (.ofNat n.toNat) = .ok n := by
  rw [word8, word_ofNat _ (by decide) n.toNat_lt]
  simp [bind, Except.bind, pure, Except.pure]

theorem word16_toNat (n : UInt16) : word16 (.ofNat n.toNat) = .ok n := by
  rw [word16, word_ofNat _ (by decide) n.toNat_lt]
  simp [bind, Except.bind, pure, Except.pure]

theorem word32_toNat (n : UInt32) : word32 (.ofNat n.toNat) = .ok n := by
  rw [word32, word_ofNat _ (by decide) n.toNat_lt]
  simp [bind, Except.bind, pure, Except.pure]

theorem address_text (x : Address) : address (.ofString x.text) = .ok x := by
  simp [address, Document.ofString, bind, Except.bind, Address.parse?_text, pure, Except.pure]

end Json

theorem Kind.ofDocument_toDocument (k : Kind) (x : k.Carrier) :
    k.ofDocument (FieldValue.ofCarrier k x).toDocument = .ok x := by
  cases k with
  | u8 => exact Json.word8_toNat x
  | u16 => exact Json.word16_toNat x
  | u32 => exact Json.word32_toNat x
  | addr => exact Json.address_text x

theorem FieldValue.isPlain (v : FieldValue) : v.toDocument.IsPlain fun _ => True := by
  cases v with
  | u8 n => exact .ofNat _
  | u16 n => exact .ofNat _
  | u32 n => exact .ofNat _
  | addr x => exact .ofString trivial

namespace Row

theorem toMembers_cons (f : Field) (fs : List Field) (x : f.kind.Carrier) (r : Row fs) :
    toMembers (f :: fs) (x, r) =
      (f.name, (FieldValue.ofCarrier f.kind x).toDocument) :: toMembers fs r := rfl

theorem map_fst_toMembers (fs : List Field) (r : Row fs) :
    (toMembers fs r).map Prod.fst = fs.map Field.name := by
  induction fs with
  | nil => rfl
  | cons f fs ih =>
    rw [toMembers_cons, List.map_cons, List.map_cons, ih]

theorem isPlain_toMembers (fs : List Field) (r : Row fs) :
    ∀ m ∈ toMembers fs r, m.2.IsPlain fun _ => True := by
  intro m hm
  obtain ⟨v, -, rfl⟩ := List.mem_map.mp hm
  exact v.2.isPlain

theorem checked_toMembers {fs : List Field} (hd : (fs.map Field.name).Nodup) (r : Row fs) :
    Checked (checks fs) (toMembers fs r) := by
  induction fs with
  | nil => exact .nil
  | cons f fs ih =>
    obtain ⟨x, r⟩ := r
    obtain ⟨hf, hfs⟩ := List.nodup_cons.mp hd
    rw [toMembers_cons]
    refine .cons ?_ (discard_ok (f.kind.ofDocument_toDocument x)) (ih hfs r)
    rwa [map_fst_toMembers]

theorem ofMembers_named {fs : List Field} {r : Row fs} {all : List (String × Document)}
    (h : ∀ m ∈ toMembers fs r, all.lookup m.1 = some m.2) (type : String) (arity index : Nat) :
    ofMembers type arity (.named all) index fs = .ok r := by
  induction fs generalizing index with
  | nil => rfl
  | cons f fs ih =>
    obtain ⟨x, r⟩ := r
    rw [toMembers_cons, List.forall_mem_cons] at h
    rw [ofMembers, Members.require_named h.1, f.kind.ofDocument_toDocument, ih h.2]
    rfl

end Row

namespace Schema

def Distinct : Schema → Prop
  | plain _ _ own => (own.map Field.name).Nodup
  | extending base baseKey _ _ own => base.Distinct ∧ (baseKey :: own.map Field.name).Nodup

instance decidableDistinct : (s : Schema) → Decidable s.Distinct
  | plain _ _ own => inferInstanceAs (Decidable (own.map Field.name).Nodup)
  | extending base baseKey _ _ own =>
    have := decidableDistinct base
    inferInstanceAs (Decidable (base.Distinct ∧ (baseKey :: own.map Field.name).Nodup))

theorem isPlain_toDocument (s : Schema) (v : s.Value) :
    (s.toDocument v).IsPlain fun _ => True := by
  induction s with
  | plain _ _ own => exact .ofMembers (fun _ _ => trivial) (Row.isPlain_toMembers own v)
  | extending base baseKey _ _ own ih =>
    obtain ⟨b, r⟩ := v
    refine .ofMembers (fun _ _ => trivial) ?_
    exact List.forall_mem_cons.mpr ⟨ih b, Row.isPlain_toMembers own r⟩

theorem ofDocument_toDocument {s : Schema} (hs : s.Distinct) (v : s.Value) :
    s.ofDocument (s.toDocument v) = .ok v := by
  induction s with
  | plain typeName _ own =>
    obtain ⟨all, hall, hfound, -⟩ := Json.dialect.members_ofMembers ("struct " ++ typeName)
      (by rwa [Row.map_fst_toMembers]) (Row.checked_toMembers hs v)
    simp only [ofDocument, toDocument, hall, bind, Except.bind, Row.ofMembers_named hfound]
    rfl
  | extending base baseKey typeName _ own ih =>
    obtain ⟨b, r⟩ := v
    obtain ⟨hbase, hown⟩ := hs
    have hread := ih hbase b
    obtain ⟨hkey, hnames⟩ := List.nodup_cons.mp hown
    have hc : Checked ((baseKey, fun d => discard (base.ofDocument d)) :: Row.checks own)
        ((baseKey, base.toDocument b) :: Row.toMembers own r) := by
      refine .cons ?_ (discard_ok hread) (Row.checked_toMembers hnames r)
      rwa [Row.map_fst_toMembers]
    obtain ⟨all, hall, hfound, -⟩ := Json.dialect.members_ofMembers ("struct " ++ typeName)
      (by rwa [List.map_cons, Row.map_fst_toMembers]) hc
    obtain ⟨hfirst, hothers⟩ := List.forall_mem_cons.mp hfound
    simp only [ofDocument, toDocument, hall, bind, Except.bind, Members.require_named hfirst,
      hread, Row.ofMembers_named hothers]
    rfl

end Schema

namespace Record
variable {α : Type} [Record α]

theorem isPlain_toDocument (a : α) : (toDocument a).IsPlain fun _ => True :=
  (schema α).isPlain_toDocument (toRow a)

theorem ofDocument_toDocument (hs : (schema α).Distinct) (a : α) :
    ofDocument α (toDocument a) = .ok a := by
  rw [ofDocument, toDocument, Schema.ofDocument_toDocument hs]
  exact congrArg Except.ok (ofRow_toRow a)

theorem transcribed (hs : (schema α).Distinct) : Transcribed toDocument (ofDocument α) where
  isPlain := isPlain_toDocument
  ofDocument_toDocument := ofDocument_toDocument hs

end Record
end NetFlow
