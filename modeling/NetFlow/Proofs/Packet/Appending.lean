import NetFlow.Proofs.Packet.Body
import NetFlow.Proofs.Record.RoundTrip
import NetFlow.Proofs.Wire.Ending

/-! Records one behind the other in one buffer. Writing a record adds its bytes at the end, and
decoding it takes these bytes and no others, so records of any types come back from a source in the
order in which they were written. -/
namespace NetFlow

section
variable {β : Type} {ι : Type}

/-- Values that are written one behind the other are concatenated, each in its length. Decoding
values of the same kinds from one source gives them back and leaves what stood behind them; a fault
of the source may be anywhere behind them. -/
structure Consecutive (write : List UInt8 → β → List UInt8) (encode : β → List UInt8)
    (len : β → Nat) (kind : β → ι) (next : ι → EStateM Error Source β) : Prop where
  concatenates : ∀ (x : List UInt8) (bs : List β), bs.foldl write x = x ++ bs.flatMap encode
  grows : ∀ (x : List UInt8) (bs : List β),
    (bs.foldl write x).length = x.length + (bs.map len).sum
  undone : ∀ (x t : List UInt8) (bs : List β) (s : Source), s.Steady →
    (bs.map len).sum ≤ s.available → s.data = (bs.foldl write x).drop x.length ++ t →
    ∃ u, (bs.map kind).mapM next s = .ok bs u ∧ s.Past (bs.map len).sum u ∧ u.data = t

variable {write : List UInt8 → β → List UInt8} {encode : β → List UInt8} {len : β → Nat}
  {kind : β → ι} {next : ι → EStateM Error Source β}

theorem mapM_cons_ok {i : ι} {is : List ι} {b : β} {bs : List β} {s t u : Source}
    (h : next i s = .ok b t) (k : is.mapM next t = .ok bs u) :
    (i :: is).mapM next s = .ok (b :: bs) u := by
  rw [List.mapM_cons]
  simp only [bind, EStateM.bind, h, k]
  rfl

variable (hn : ∀ (b : β) (s : Source), s.Steady → encode b <+: s.deliverable →
  ∃ u, next (kind b) s = .ok b u ∧ s.Past (encode b).length u)
include hn

theorem mapM_takes {bs : List β} {s : Source} (hs : s.Steady)
    (hpre : bs.flatMap encode <+: s.deliverable) :
    ∃ u, (bs.map kind).mapM next s = .ok bs u ∧ s.Past (bs.flatMap encode).length u := by
  induction bs generalizing s with
  | nil => exact ⟨s, rfl, .refl s⟩
  | cons b bs ih =>
    obtain ⟨t, ht⟩ := hpre
    rw [List.flatMap_cons, List.append_assoc] at ht
    obtain ⟨v, hv, hpv⟩ := hn b s hs ⟨_, ht⟩
    have hdv : v.deliverable = bs.flatMap encode ++ t := by
      rw [hpv.deliverable, ← ht, List.drop_left]
    obtain ⟨u, hu, hpu⟩ := ih (hpv.steady hs) ⟨t, hdv.symm⟩
    refine ⟨u, mapM_cons_ok hv hu, ?_⟩
    rw [List.flatMap_cons, List.length_append]
    exact hpv.trans hpu

theorem Consecutive.of_step (hw : ∀ x b, write x b = x ++ encode b)
    (hl : ∀ b, (encode b).length = len b) : Consecutive write encode len kind next := by
  have hlen : ∀ bs : List β, (bs.flatMap encode).length = (bs.map len).sum := by
    intro bs
    rw [List.length_flatMap]
    simp only [hl]
  refine ⟨foldl_write hw, ?_, ?_⟩
  · intro x bs
    rw [foldl_write hw, List.length_append, hlen]
  · intro x t bs s hs ha hd
    rw [foldl_write hw, List.drop_left] at hd
    have hpre : bs.flatMap encode <+: s.deliverable := by
      rw [List.prefix_iff_eq_take, hlen, s.take_deliverable ha, hd, ← hlen, List.take_left]
    obtain ⟨u, hu, hp⟩ := mapM_takes hn hs hpre
    refine ⟨u, hu, hlen bs ▸ hp, ?_⟩
    rw [hp.data, hd, List.drop_left]

end

namespace Record
variable (α : Type) [Record α]

/-- Decodes one record and leaves the source to whatever is decoded next. -/
def next : EStateM Error Source α := fun s =>
  match decode α s with
  | .ok a r => .ok a r.source
  | .error e r => .error e r.source

variable {α}

theorem encode_length (a : α) : (encode a).length = (layout α).len :=
  (declared_lossless.2 α).length a

theorem map_next_encode {β : Type} (f : α → β) (a : α) (s : Source) (hs : s.Steady)
    (hpre : encode a <+: s.deliverable) :
    ∃ u, (f <$> next α) s = .ok (f a) u ∧ s.Past (encode a).length u := by
  obtain ⟨t, ht⟩ := hpre
  obtain ⟨u, hu, hp⟩ := (Record.format α).decode_encode hs ht.symm
  have hnext : next α s = .ok a u := by rw [next, decode, hu]
  exact ⟨u, map_ok f hnext, encode_length a ▸ hp⟩

def nextIn {ι : Type} (α : ι → Type) [∀ i, Record (α i)] (i : ι) :
    EStateM Error Source (Sigma α) := Sigma.mk i <$> next (α i)

theorem consecutive {ι : Type} (α : ι → Type) [∀ i, Record (α i)] :
    Consecutive (fun x (r : Sigma α) => encodeInto x r.2) (fun r => encode r.2)
      (fun r => (layout (α r.1)).len) Sigma.fst (nextIn α) :=
  .of_step (fun r => map_next_encode (Sigma.mk r.1) r.2) (fun x r => encodeInto_eq x r.2)
    fun r => encode_length r.2

end Record

def FlowRecord.next : Version → EStateM Error Source FlowRecord
  | .v1 => .v1 <$> Record.next V1FlowRecord
  | .v5 => .v5 <$> Record.next V5FlowRecord
  | .v7 => .v7 <$> Record.next V7FlowRecord

theorem FlowRecord.consecutive :
    Consecutive encodeInto encode encodedLen version FlowRecord.next := by
  refine .of_step ?_ encodeInto_eq encode_length
  rintro (r | r | r)
  · exact Record.map_next_encode FlowRecord.v1 r
  · exact Record.map_next_encode FlowRecord.v5 r
  · exact Record.map_next_encode FlowRecord.v7 r

/-- Records of mixed types, flow records of mixed versions, and the parts of a packet, consistent or
not, are concatenated; the records can be decoded again. -/
theorem records_concatenate :
    (∀ {ι : Type} (α : ι → Type) [∀ i, Record (α i)],
      Consecutive (fun x (r : Sigma α) => Record.encodeInto x r.2) (fun r => Record.encode r.2)
        (fun r => (Record.layout (α r.1)).len) Sigma.fst (Record.nextIn α)) ∧
    Consecutive FlowRecord.encodeInto FlowRecord.encode FlowRecord.encodedLen FlowRecord.version
      FlowRecord.next ∧
    ∀ p : Packet, p.encode = p.header.encode ++ p.records.flatMap FlowRecord.encode ∧
      p.encode.length = p.encodedLen :=
  ⟨fun α => Record.consecutive α, FlowRecord.consecutive, fun p =>
    ⟨p.encode_eq_append, p.encode_length⟩⟩

@[reducible] def Schema.record (s : Schema) : Record s.Value where
  schema := s
  toRow v := v
  ofRow v := v
  ofRow_toRow _ := rfl
  toRow_ofRow _ := rfl

def Source.relayed : Source where
  data := [3, 10, 0, 0, 1, 2, 3, 0, 1, 17, 112, 0, 9, 0, 1, 0, 0, 0, 2, 0, 0, 0, 3, 0, 0, 0, 4, 9]
  chunk := some 3
  interrupts := true
  interruptNow := true
  fault := some ⟨27, ⟨.device, "link down"⟩⟩

theorem records_concatenate_relayed :
    letI := Schema.record
    let rs : List (Sigma Schema.Value) :=
      [⟨.relay, (((), (3, ⟨10, 0, 0, 1⟩, ())), (515, 70000, ()))⟩,
        ⟨HeaderBase.schema, (9, 1, 2, 3, 4, ())⟩]
    rs.foldl (fun x r => Record.encodeInto x r.2) [255] =
      [255, 3, 10, 0, 0, 1, 2, 3, 0, 1, 17, 112, 0, 9, 0, 1, 0, 0, 0, 2, 0, 0, 0, 3, 0, 0, 0, 4] ∧
    ∃ u, [Schema.relay, HeaderBase.schema].mapM (Record.nextIn Schema.Value) .relayed = .ok rs u ∧
      u.data = [9] := by
  let _ := Schema.record
  intro rs
  have h := records_concatenate.1 Schema.Value
  obtain ⟨u, hu, -, hdata⟩ := h.undone [255] [9] rs .relayed (by decide) (by decide) (by decide)
  exact ⟨by decide, u, hu, hdata⟩

end NetFlow
