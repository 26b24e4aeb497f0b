import NetFlow.Flow
import NetFlow.Proofs.Wire.Format

/-! Declared records are read and written field by field as their layout says, whatever
they extend. Headers can be read in two parts: what all versions share, and the rest. -/
namespace NetFlow

theorem Row.format (fs : List Field) :
    Format fs (Row.read fs) (Row.encode fs) fun _ => True := by
  induction fs with
  | nil => exact .nil trivial rfl fun _ _ => rfl
  | cons f fs ih => exact ((Format.field f).pair ih).of_iff fun _ => by simp

theorem Schema.format (s : Schema) :
    Format s.layout.fields s.read s.encode fun _ => True := by
  induction s with
  | plain typeName label own => exact Row.format own
  | extending base baseKey typeName label own ih =>
    exact (ih.pair (Row.format own)).of_iff fun _ => by simp

theorem Record.format (α : Type) [Record α] :
    Format (Record.layout α).fields (Record.read α) Record.encode fun _ : α => True := by
  refine (Schema.format (Record.schema α)).map ?_ (fun _ _ => trivial) ?_
  · intro r _
    rw [Record.encode, Record.toRow_ofRow]
  · intro a _
    exact ⟨Record.toRow a, trivial, Record.ofRow_toRow a⟩

theorem Row.encodeInto_eq {fs : List Field} (x : List UInt8) (r : Row fs) :
    Row.encodeInto fs x r = x ++ Row.encode fs r := by
  induction fs generalizing x with
  | nil => exact (List.append_nil x).symm
  | cons f fs ih =>
    obtain ⟨a, r⟩ := r
    rw [encodeInto, encode, ih, List.append_assoc]

theorem Schema.encodeInto_eq {s : Schema} (x : List UInt8) (v : s.Value) :
    s.encodeInto x v = x ++ s.encode v := by
  induction s generalizing x with
  | plain typeName label own => exact Row.encodeInto_eq x v
  | extending base baseKey typeName label own ih =>
    obtain ⟨b, r⟩ := v
    rw [encodeInto, encode, ih, Row.encodeInto_eq, List.append_assoc]

theorem Record.encodeInto_eq {α : Type} [Record α] (x : List UInt8) (a : α) :
    Record.encodeInto x a = x ++ Record.encode a := Schema.encodeInto_eq x (Record.toRow a)

theorem FlowRecord.encodeInto_eq (x : List UInt8) (r : FlowRecord) :
    r.encodeInto x = x ++ r.encode := by
  cases r <;> exact Record.encodeInto_eq x _

theorem Header.encodeInto_eq (x : List UInt8) (h : Header) : h.encodeInto x = x ++ h.encode := by
  cases h <;> exact Record.encodeInto_eq x _

theorem foldl_write {β : Type} {write : List UInt8 → β → List UInt8} {encode : β → List UInt8}
    (h : ∀ x b, write x b = x ++ encode b) (x : List UInt8) (bs : List β) :
    bs.foldl write x = x ++ bs.flatMap encode := by
  obtain rfl : write = fun x b => x ++ encode b := funext₂ h
  exact List.foldl_append_eq_append

/-- Adding to a base is reading the own fields alone. -/
theorem Schema.readAfterBase_eq {base : Schema} (own : List Field) (b : base.Value) :
    Schema.readAfterBase own b = (b, ·) <$> Row.read own := by
  rw [readAfterBase, bind_pure_comp]

theorem FlowRecord.format (v : Version) :
    Format (FlowRecord.layout v).fields (FlowRecord.readAs v) FlowRecord.encode
      fun r => r.version = v := by
  cases v with
  | v1 =>
    refine (Record.format V1FlowRecord).map (fun _ _ => rfl) (fun _ _ => rfl) ?_
    rintro (r | r | r) h
    · exact ⟨r, trivial, rfl⟩
    · cases h
    · cases h
  | v5 =>
    refine (Record.format V5FlowRecord).map (fun _ _ => rfl) (fun _ _ => rfl) ?_
    rintro (r | r | r) h
    · cases h
    · exact ⟨r, trivial, rfl⟩
    · cases h
  | v7 =>
    refine (Record.format V7FlowRecord).map (fun _ _ => rfl) (fun _ _ => rfl) ?_
    rintro (r | r | r) h
    · cases h
    · cases h
    · exact ⟨r, trivial, rfl⟩

namespace Header

def layout : Version → Layout
  | .v1 => Record.layout HeaderBase
  | .v5 => Record.layout V5Header
  | .v7 => Record.layout V7Header

def added : Version → List Field
  | .v1 => []
  | .v5 => V5Header.own
  | .v7 => V7Header.own

def tail : Header → List UInt8
  | .v1 _ => []
  | .v5 h => Row.encode V5Header.own (Record.toRow h).2
  | .v7 h => Row.encode V7Header.own (Record.toRow h).2

theorem layout_fields (v : Version) :
    (layout v).fields = (Record.layout HeaderBase).fields ++ added v := by
  cases v <;> rfl

theorem encode_eq (h : Header) : h.encode = Record.encode h.base ++ h.tail := by
  cases h with
  | v1 h => exact (List.append_nil _).symm
  | v5 h => rfl
  | v7 h => rfl

theorem restFormat (b : HeaderBase) (v : Version) :
    Format (added v) (readAfterBase b v) tail fun h => h.kind = v ∧ h.base = b := by
  cases v with
  | v1 =>
    refine .nil ⟨rfl, rfl⟩ rfl ?_
    rintro (h | h | h) ⟨hk, rfl⟩
    · rfl
    · cases hk
    · cases hk
  | v5 =>
    rw [readAfterBase, V5Header.readAfterBase, Schema.readAfterBase_eq, Functor.map_map,
      Functor.map_map]
    refine (Row.format V5Header.own).map (fun _ _ => rfl) (fun _ _ => ⟨rfl, rfl⟩) ?_
    rintro (h | h | h) ⟨hk, rfl⟩
    · cases hk
    · exact ⟨(Record.toRow h).2, trivial, rfl⟩
    · cases hk
  | v7 =>
    rw [readAfterBase, V7Header.readAfterBase, Schema.readAfterBase_eq, Functor.map_map,
      Functor.map_map]
    refine (Row.format V7Header.own).map (fun _ _ => rfl) (fun _ _ => ⟨rfl, rfl⟩) ?_
    rintro (h | h | h) ⟨hk, rfl⟩
    · cases hk
    · cases hk
    · exact ⟨(Record.toRow h).2, trivial, rfl⟩

end Header
end NetFlow
