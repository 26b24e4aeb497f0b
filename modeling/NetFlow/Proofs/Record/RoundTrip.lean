import NetFlow.Proofs.Record.WireForm

/-! Encoding and decoding of declared records undo each other. This holds of every
declaration: with any fields or none, and on top of any other declaration. -/
namespace NetFlow
open Layout
variable {α : Type}

/-- What is decoded is what was encoded, in the length of the layout. On any source, decoding
takes the bytes of one value and no others. -/
structure Lossless (layout : Layout) (decode : Source → EStateM.Result Error Reader α)
    (encode : α → List UInt8) : Prop where
  length : ∀ a, (encode a).length = layout.len
  decode_encode : ∀ (a : α) (t : List UInt8) (s : Source), s.Steady →
    s.deliverable = encode a ++ t →
    ∃ u, decode s = .ok a ⟨u, layout.len⟩ ∧ u.deliverable = t ∧ u.data = s.data.drop layout.len
  encode_decode : ∀ (s : Source) (a : α) (r : Reader), s.Steady → decode s = .ok a r →
    layout.len ≤ s.deliverable.length ∧ encode a = s.deliverable.take layout.len

namespace Format
variable {layout : Layout} {read : ReadM α} {encode : α → List UInt8}
  (h : Format layout.fields read encode fun _ => True)
include h

theorem decode_encode {a : α} {t : List UInt8} {s : Source} (hs : s.Steady)
    (hd : s.deliverable = encode a ++ t) :
    ∃ u, read (.start s) = .ok a ⟨u, layout.len⟩ ∧ s.Past layout.len u := by
  obtain ⟨u, hr, hp⟩ := h.ok_of_isPrefix 0 hs trivial ⟨t, hd.symm⟩
  rw [Nat.zero_add] at hr
  rw [len_eq_size]
  exact ⟨u, hr, hp⟩

theorem encode_decode {s : Source} {a : α} {r : Reader} (hs : s.Steady)
    (hr : read (.start s) = .ok a r) :
    layout.len ≤ s.deliverable.length ∧ encode a = s.deliverable.take layout.len := by
  obtain ⟨hl, -, -, -, he⟩ := h.of_ok hs hr
  rw [len_eq_size, s.deliverable_length]
  exact ⟨hl, he⟩

theorem lossless : Lossless layout (fun s => read (.start s)) encode where
  length a := (h.length trivial).trans (len_eq_size layout).symm
  decode_encode a t s hs hd := by
    obtain ⟨u, hu, hp⟩ := h.decode_encode hs hd
    have hlen : (encode a).length = layout.len := (h.length trivial).trans (len_eq_size layout).symm
    refine ⟨u, hu, ?_, hp.data⟩
    rw [hp.deliverable, hd]
    exact List.drop_left' hlen
  encode_decode _ _ _ hs hr := h.encode_decode hs hr

end Format

/-- Every declaration, and every type that has one, is encoded and decoded without loss. -/
theorem declared_lossless :
    (∀ s : Schema, Lossless s.layout s.decode s.encode) ∧
    ∀ (α : Type) [Record α], Lossless (Record.layout α) (Record.decode α) Record.encode := by
  constructor
  · intro s
    exact (Schema.format s).lossless
  · intro α _
    exact (Record.format α).lossless

def Schema.relay : Schema :=
  .extending
    (.extending (.plain "Mark" "mark" []) "mark" "Hop" "hop" [⟨"flag", .u8⟩, ⟨"peer", .addr⟩])
    "hop" "Relay" "relay" [⟨"tag", .u16⟩, ⟨"at", .u32⟩]

theorem declared_lossless_relay :
    let v : Schema.relay.Value := (((), (3, ⟨10, 0, 0, 1⟩, ())), (515, 70000, ()))
    Schema.relay.encode v = [3, 10, 0, 0, 1, 2, 3, 0, 1, 17, 112] ∧
    ∃ u, Schema.relay.decode (.ofBytes (Schema.relay.encode v ++ [9])) = .ok v ⟨u, 11⟩ ∧
      u.data = [9] := by
  intro v
  have h := declared_lossless.1 Schema.relay
  obtain ⟨u, hu, -, hdata⟩ := h.decode_encode v [9] _ (Source.steady_ofBytes _) rfl
  exact ⟨by decide, u, hu, hdata.trans (by decide)⟩

end NetFlow
