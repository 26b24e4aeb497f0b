import NetFlow.Flow
import NetFlow.Proofs.Text.Dotted

/-! Texts of flow records. A numeral goes on as far as there are digits, so that a text of numerals
with other characters between them can be taken apart in one way only. Two records have the same
text if their endpoints are the same, with masks in both or in neither of them. -/
namespace NetFlow

namespace Decimal

/-- Where no digit follows, a text shows where its numeral ends. -/
theorem digits_append_inj {m n : Nat} {cs ds : List Char} (hc : Ends cs) (hd : Ends ds)
    (h : digits m ++ cs = digits n ++ ds) : m = n ∧ cs = ds := by
  have hdigits : digits m = digits n := by
    rw [← takeWhile_digits m hc, h, takeWhile_digits n hd]
  have hrest : cs = ds := by
    rw [← dropWhile_digits m hc, h, dropWhile_digits n hd]
  exact ⟨by rw [← value_digits m, hdigits, value_digits], hrest⟩

theorem digits8_append_inj {m n : UInt8} {cs ds : List Char} (hc : Ends cs) (hd : Ends ds)
    (h : digits m.toNat ++ cs = digits n.toNat ++ ds) : m = n ∧ cs = ds := by
  obtain ⟨hmn, hrest⟩ := digits_append_inj hc hd h
  exact ⟨UInt8.toNat_inj.mp hmn, hrest⟩

end Decimal

open Decimal

theorem Address.chars_append_inj {x y : Address} {cs ds : List Char} (hc : Ends cs) (hd : Ends ds)
    (h : x.chars ++ cs = y.chars ++ ds) : x = y ∧ cs = ds := by
  obtain ⟨a, b, c, d⟩ := x
  obtain ⟨a', b', c', d'⟩ := y
  simp only [chars, List.append_assoc, List.cons_append] at h
  obtain ⟨rfl, hb⟩ := digits8_append_inj (ends_dot _) (ends_dot _) h
  obtain ⟨rfl, hc'⟩ := digits8_append_inj (ends_dot _) (ends_dot _) (List.cons.inj hb).2
  obtain ⟨rfl, hd'⟩ := digits8_append_inj (ends_dot _) (ends_dot _) (List.cons.inj hc').2
  obtain ⟨rfl, hrest⟩ := digits8_append_inj hc hd (List.cons.inj hd').2
  exact ⟨rfl, hrest⟩

/-- One end of a flow, with the mask of its address if the version has masks. -/
structure Endpoint where
  address : Address
  mask? : Option UInt8
  port : UInt16
  deriving DecidableEq, Repr

namespace Endpoint

def maskChars : Option UInt8 → List Char
  | some m => '/' :: digits m.toNat
  | none => []

def chars (e : Endpoint) : List Char :=
  e.address.chars ++ (maskChars e.mask? ++ ':' :: digits e.port.toNat)

theorem ends_colon (cs : List Char) : Ends (':' :: cs) := ends_cons rfl

theorem ends_maskChars (m? : Option UInt8) (cs : List Char) : Ends (maskChars m? ++ ':' :: cs) := by
  cases m? with
  | some m => exact ends_cons rfl
  | none => exact ends_colon cs

theorem maskChars_append_inj {m? n? : Option UInt8} {cs ds : List Char}
    (h : maskChars m? ++ ':' :: cs = maskChars n? ++ ':' :: ds) : m? = n? ∧ cs = ds := by
  cases m? with
  | some m =>
    cases n? with
    | some n =>
      obtain ⟨rfl, hrest⟩ := digits8_append_inj (ends_colon cs) (ends_colon ds) (List.cons.inj h).2
      exact ⟨rfl, (List.cons.inj hrest).2⟩
    | none => exact absurd (List.cons.inj h).1 (by decide)
  | none =>
    cases n? with
    | some n => exact absurd (List.cons.inj h).1 (by decide)
    | none => exact ⟨rfl, (List.cons.inj h).2⟩

theorem chars_append_inj {e f : Endpoint} {cs ds : List Char} (hc : Ends cs) (hd : Ends ds)
    (h : e.chars ++ cs = f.chars ++ ds) : e = f ∧ cs = ds := by
  obtain ⟨x, m?, port⟩ := e
  obtain ⟨y, n?, port'⟩ := f
  simp only [chars, List.append_assoc, List.cons_append] at h
  obtain ⟨rfl, hmask⟩ := Address.chars_append_inj (ends_maskChars _ _) (ends_maskChars _ _) h
  obtain ⟨rfl, hport⟩ := maskChars_append_inj hmask
  obtain ⟨hnat, hrest⟩ := digits_append_inj hc hd hport
  obtain rfl := UInt16.toNat_inj.mp hnat
  exact ⟨rfl, hrest⟩

end Endpoint

namespace FlowRecord

def srcMask? : FlowRecord → Option UInt8
  | .v1 _ => none
  | .v5 r => some r.srcMask
  | .v7 r => some r.srcMask

def dstMask? : FlowRecord → Option UInt8
  | .v1 _ => none
  | .v5 r => some r.dstMask
  | .v7 r => some r.dstMask

def source (r : FlowRecord) : Endpoint := ⟨r.srcAddr, r.srcMask?, r.srcPort⟩

def destination (r : FlowRecord) : Endpoint := ⟨r.dstAddr, r.dstMask?, r.dstPort⟩

theorem toList_string (s : String) : (toString s).toList = s.toList := rfl

theorem toList_uint8 (n : UInt8) : (toString n).toList = digits n.toNat := Nat.toList_repr

theorem toList_uint16 (n : UInt16) : (toString n).toList = digits n.toNat := Nat.toList_repr

theorem toList_address (x : Address) : (toString x).toList = x.chars := String.toList_ofList

theorem toList_text (r : FlowRecord) :
    r.text.toList = r.source.chars ++ (" -> ".toList ++ r.destination.chars) := by
  cases r <;>
    simp [text, V1FlowRecord.text, V5FlowRecord.text, V7FlowRecord.text, source, destination,
      Endpoint.chars, Endpoint.maskChars, srcAddr, srcMask?, srcPort, dstAddr, dstMask?, dstPort,
      toList_string, toList_uint8, toList_uint16, toList_address]

theorem ends_arrow (cs : List Char) : Ends (" -> ".toList ++ cs) := ends_cons rfl

theorem text_eq_iff_endpoints {r q : FlowRecord} :
    r.text = q.text ↔ r.source = q.source ∧ r.destination = q.destination := by
  rw [← String.toList_inj, toList_text, toList_text]
  constructor
  · intro h
    obtain ⟨hsource, harrow⟩ := Endpoint.chars_append_inj (ends_arrow _) (ends_arrow _) h
    have hchars : r.destination.chars ++ [] = q.destination.chars ++ [] := by
      rw [List.append_cancel_left harrow]
    obtain ⟨hdestination, -⟩ := Endpoint.chars_append_inj ends_nil ends_nil hchars
    exact ⟨hsource, hdestination⟩
  · intro h
    rw [h.1, h.2]

theorem srcMask?_eq_none_iff (r : FlowRecord) : r.srcMask? = none ↔ r.version = .v1 := by
  cases r <;> simp [srcMask?, version]

theorem dstMask?_eq_none_iff (r : FlowRecord) : r.dstMask? = none ↔ r.version = .v1 := by
  cases r <;> simp [dstMask?, version]

/-- The text of a record shows its endpoints and whether its version has masks, and nothing else
of it. -/
theorem text_eq_iff (r q : FlowRecord) : r.text = q.text ↔
    (r.version = .v1 ↔ q.version = .v1) ∧
      (r.srcAddr = q.srcAddr ∧ r.srcPort = q.srcPort) ∧
      (r.dstAddr = q.dstAddr ∧ r.dstPort = q.dstPort) ∧
      (r.version ≠ .v1 → q.version ≠ .v1 →
        r.srcMask? = q.srcMask? ∧ r.dstMask? = q.dstMask?) := by
  rw [text_eq_iff_endpoints]
  simp only [source, destination, Endpoint.mk.injEq]
  constructor
  · intro h
    obtain ⟨⟨hsrc, hsrcMask, hsrcPort⟩, hdst, hdstMask, hdstPort⟩ := h
    have hversion : r.version = .v1 ↔ q.version = .v1 := by
      rw [← srcMask?_eq_none_iff, hsrcMask, srcMask?_eq_none_iff]
    exact ⟨hversion, ⟨hsrc, hsrcPort⟩, ⟨hdst, hdstPort⟩, fun _ _ => ⟨hsrcMask, hdstMask⟩⟩
  · intro h
    obtain ⟨hversion, ⟨hsrc, hsrcPort⟩, ⟨hdst, hdstPort⟩, hmasks⟩ := h
    have hboth : r.srcMask? = q.srcMask? ∧ r.dstMask? = q.dstMask? := by
      -- Without masks in either there is nothing left to compare.
      by_cases hr : r.version = .v1
      · have hq := hversion.mp hr
        rw [(srcMask?_eq_none_iff r).mpr hr, (srcMask?_eq_none_iff q).mpr hq,
          (dstMask?_eq_none_iff r).mpr hr, (dstMask?_eq_none_iff q).mpr hq]
        exact ⟨rfl, rfl⟩
      · exact hmasks hr (mt hversion.mpr hr)
    exact ⟨⟨hsrc, hboth.1, hsrcPort⟩, hdst, hboth.2, hdstPort⟩

end FlowRecord
end NetFlow
