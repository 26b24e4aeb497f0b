import Mathlib.Data.List.Forall2
import NetFlow.Proofs.Record.WireForm

/-! The wire image of a declared record as its layout, its field values and its encoder give it.
The three go over the fields on their own, each in its own way through the bases, and agree at
every field. -/
namespace NetFlow
open Layout

/-- How bytes spell a value: a number by its base-256 digits, an address by its octets. A value
is one of the two and not the other. -/
inductive FieldValue.SpeltBy (bs : List UInt8) (x : FieldValue) : Prop where
  | number {n : Nat} : x.asNat? = some n → x.asAddress? = none →
      bs = BigEndian.encode x.kind.width n → BigEndian.value bs = n → SpeltBy bs x
  | address {a : Address} : x.asNat? = none → x.asAddress? = some a →
      bs = [a.a, a.b, a.c, a.d] → SpeltBy bs x

theorem FieldValue.speltBy_bytes (x : FieldValue) : x.SpeltBy x.bytes := by
  cases x with
  | u8 n => exact .number rfl rfl rfl (BigEndian.value_encode_of_lt n.toNat_lt)
  | u16 n => exact .number rfl rfl rfl (BigEndian.value_encode_of_lt n.toNat_lt)
  | u32 n => exact .number rfl rfl rfl (BigEndian.value_encode_of_lt n.toNat_lt)
  | addr a => exact .address rfl rfl rfl

/-- A value of the name and kind of a placed field, spelt by the bytes at its place. -/
structure Shows (bs : List UInt8) (p : Nat × Field) (v : String × FieldValue) : Prop where
  name : v.1 = p.2.name
  kind : v.2.kind = p.2.kind
  spelt : v.2.SpeltBy (slice bs p)

structure Aligned (layout : Layout) (values : List (String × FieldValue))
    (bytes : List UInt8) : Prop where
  fields : values.map (fun v => ⟨v.1, v.2.kind⟩) = layout.fields
  slices : List.Forall₂ (Shows bytes) layout.offsets values
  whole : layout.offsets.flatMap (slice bytes) = bytes

theorem Row.shows (pre post : List UInt8) (fs : List Field) (r : Row fs) :
    List.Forall₂ (Shows (pre ++ (encode fs r ++ post))) (place pre.length fs) (values fs r) := by
  -- What has been passed over goes to the bytes in front.
  induction fs generalizing pre with
  | nil => exact .nil
  | cons f fs ih =>
    obtain ⟨x, r⟩ := r
    have hlen : (f.kind.encode x).length = f.width := f.kind.encode_length x
    have hrest := ih (pre ++ f.kind.encode x) r
    rw [List.length_append, hlen, List.append_assoc] at hrest
    rw [encode, List.append_assoc]
    refine .cons ⟨rfl, FieldValue.kind_ofCarrier _ _, ?_⟩ hrest
    rw [slice_append pre _ hlen, ← FieldValue.bytes_ofCarrier]
    exact FieldValue.speltBy_bytes _

theorem Schema.shows (pre post : List UInt8) (s : Schema) (v : s.Value) :
    List.Forall₂ (Shows (pre ++ (s.encode v ++ post))) (place pre.length s.layout.fields)
      (s.fieldValues v) := by
  induction s generalizing pre post with
  | plain typeName label own => exact Row.shows pre post own v
  | extending base baseKey typeName label own ih =>
    obtain ⟨b, r⟩ := v
    have hlen : (base.encode b).length = size base.layout.fields := base.format.length trivial
    have hbase := ih pre (Row.encode own r ++ post) b
    have hown := Row.shows (pre ++ base.encode b) post own r
    rw [List.length_append, hlen, List.append_assoc] at hown
    rw [encode, List.append_assoc, layout, Layout.fields, place_append, fieldValues]
    exact List.rel_append hbase hown

theorem map_field_of_shows {bs : List UInt8} {ps : List (Nat × Field)}
    {vs : List (String × FieldValue)} (h : List.Forall₂ (Shows bs) ps vs) :
    vs.map (fun v => ⟨v.1, v.2.kind⟩) = ps.map Prod.snd := by
  induction h with
  | nil => rfl
  | cons hv _ ih => rw [List.map_cons, List.map_cons, ih, hv.name, hv.kind]

theorem Aligned.of_shows {layout : Layout} {values : List (String × FieldValue)}
    {bytes : List UInt8} (hlen : bytes.length = size layout.fields)
    (h : List.Forall₂ (Shows bytes) layout.offsets values) : Aligned layout values bytes where
  fields := by
    rw [map_field_of_shows h, offsets, map_snd_place]
  slices := h
  whole := by
    rw [offsets, flatMap_slice, List.drop_zero, ← hlen, List.take_length]

theorem Schema.aligned (s : Schema) (v : s.Value) :
    Aligned s.layout (s.fieldValues v) (s.encode v) := by
  have hs := s.shows [] [] v
  rw [List.append_nil, List.nil_append] at hs
  exact .of_shows (s.format.length trivial) hs

/-- The layout, the field values and the encoding of a declared record agree. -/
theorem declared_aligned :
    (∀ (s : Schema) (v : s.Value), Aligned s.layout (s.fieldValues v) (s.encode v)) ∧
    ∀ (α : Type) [Record α] (a : α),
      Aligned (Record.layout α) (Record.fieldValues a) (Record.encode a) := by
  refine ⟨Schema.aligned, ?_⟩
  intro α _ a
  exact (Record.schema α).aligned (Record.toRow a)

end NetFlow
