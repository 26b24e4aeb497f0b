import NetFlow.Proofs.Packet.AnySource

/-! Packet after packet from one source. A packet takes its own bytes and no others, so a run
over encoded packets gives them back and stops where the next one begins; and as a packet takes
at least the common part of a header, a run over any data ends. -/
namespace NetFlow

/-- What comes of a result when nothing is said about bytes behind the packet. -/
def Outcome.noting (r : Except Error Packet) : Outcome := ⟨r, Decoding.noted r⟩

namespace Packet

theorem le_encodedLen (p : Packet) : 16 ≤ p.encodedLen := by
  have hb : (Record.encode p.header.base).length = 16 := (Record.format HeaderBase).length trivial
  rw [← encode_length, encode_eq, List.length_append, hb]
  exact Nat.le_add_right _ _

def idle : Packet := ⟨.v7 ⟨⟨7, 0, 2000, 1700000001, 0⟩, 8, 0⟩, []⟩

theorem build_idle : build idle.header idle.records = .ok idle := rfl

theorem length_flatMap_encode (ps : List Packet) : 16 * ps.length ≤ (ps.flatMap encode).length := by
  induction ps with
  | nil => exact Nat.zero_le _
  | cons p ps ih =>
    have hp := p.le_encodedLen
    rw [List.flatMap_cons, List.length_append, List.length_cons, encode_length]
    omega

end Packet

def Source.twoPackets : Source where
  data := [Packet.query, .idle].flatMap Packet.encode
  chunk := some 7
  interrupts := true
  interruptNow := true
  fault := none

namespace DecoderConfig
variable {c : DecoderConfig} {p : Packet} {s t : Source}

theorem decodeFrom_takes (hs : s.Steady) (hp : c.Takes p) (hpre : p.encode <+: s.deliverable) :
    ∃ t, c.decodeFrom s = (.noting (.ok p), t) ∧ s.Past p.encodedLen t := by
  obtain ⟨r, t, hv, hpt, hr⟩ := decodeFrom_run (c := c) hs
  obtain rfl := hv.unique (verdict_ok_iff_takes.mpr ⟨hp, hpre⟩)
  exact ⟨t, hr, hpt⟩

theorem decodeMany_succ_ok {es : List Event} (h : c.decodeFrom s = (⟨.ok p, es⟩, t)) (n : Nat) :
    c.decodeMany (n + 1) s =
      (⟨.ok p, es⟩ :: (c.decodeMany n t).1, (c.decodeMany n t).2) := by
  simp only [decodeMany, h]

theorem decodeMany_succ_error {x : Error} {es : List Event}
    (h : c.decodeFrom s = (⟨.error x, es⟩, t)) (n : Nat) :
    c.decodeMany (n + 1) s = ([⟨.error x, es⟩], t) := by
  simp only [decodeMany, h]

/-- A run over packets that the decoder takes returns them and stands behind the last one. -/
theorem decodeMany_takes {ps : List Packet} {rest : List UInt8} (hs : s.Steady)
    (hps : ∀ p ∈ ps, c.Takes p) (hd : s.deliverable = ps.flatMap Packet.encode ++ rest) :
    ∃ u, c.decodeMany ps.length s = (ps.map fun p => .noting (.ok p), u) ∧
      s.Past (ps.flatMap Packet.encode).length u := by
  induction ps generalizing s with
  | nil => exact ⟨s, rfl, .refl s⟩
  | cons p ps ih =>
    obtain ⟨hp, hps⟩ := List.forall_mem_cons.mp hps
    rw [List.flatMap_cons, List.append_assoc] at hd
    obtain ⟨t, ht, hpt⟩ := decodeFrom_takes hs hp (hd ▸ List.prefix_append _ _)
    have hdt : t.deliverable = ps.flatMap Packet.encode ++ rest := by
      rw [hpt.deliverable, hd, ← p.encode_length, List.drop_left]
    obtain ⟨u, hu, hpu⟩ := ih (hpt.steady hs) hps hdt
    refine ⟨u, ?_, ?_⟩
    · rw [List.length_cons, decodeMany_succ_ok ht, hu]
      rfl
    · rw [List.flatMap_cons, List.length_append, p.encode_length]
      exact hpt.trans hpu

theorem decodeFrom_empty (hs : s.Steady) (hd : s.deliverable = []) :
    (c.decodeFrom s).1.result = .error (s.ending.error "version" 0 2) := by
  have hv : c.Verdict s.deliverable s.ending (.error (s.ending.error "version" 0 2)) := by
    rw [hd]
    exact .cutInBase (p := (0, ⟨"version", .u16⟩)) (by decide) (by decide) (by decide)
  exact (decodeFrom_verdict hs).mpr hv

/-- A run over any data comes to an error, and the bytes in front of the ones that caused it are
those of the packets returned. No number of calls brings anything else. -/
theorem decodeMany_run (hs : s.Steady) :
    ∃ (ps : List Packet) (rest : List UInt8) (x : Error),
      s.deliverable = ps.flatMap Packet.encode ++ rest ∧ c.Verdict rest s.ending (.error x) ∧
      ∀ n, (c.decodeMany n s).1 =
        ((ps.map fun p => Outcome.noting (.ok p)) ++ [Outcome.noting (.error x)]).take n := by
  -- A packet shortens what is deliverable, which therefore bounds the run.
  induction hn : s.deliverable.length using Nat.strong_induction_on generalizing s with
  | h len ih =>
    obtain ⟨r, t, hv, hpt, hr⟩ := decodeFrom_run (c := c) hs
    cases r with
    | error x =>
      refine ⟨[], s.deliverable, x, rfl, hv, ?_⟩
      intro n
      cases n with
      | zero => rfl
      | succ n =>
        rw [decodeMany_succ_error hr]
        simp [Outcome.noting]
    | ok p =>
      obtain ⟨rest, hrest⟩ := (verdict_ok_iff_takes.mp hv).2
      have hdt : t.deliverable = rest := by
        rw [hpt.deliverable, ← hrest]
        exact List.drop_left' p.encode_length
      have hlen : p.encodedLen + rest.length = len := by
        rw [← hn, ← hrest, List.length_append, p.encode_length]
      have hp := p.le_encodedLen
      obtain ⟨ps, last, x, hd, hx, hrun⟩ :=
        ih t.deliverable.length (by rw [hdt]; omega) (hpt.steady hs) rfl
      have hle : p.encodedLen ≤ s.deliverable.length := by omega
      refine ⟨p :: ps, last, x, ?_, hpt.ending hle ▸ hx, ?_⟩
      · rw [← hrest, ← hdt, hd, List.flatMap_cons, List.append_assoc]
      · intro n
        cases n with
        | zero => rfl
        | succ n =>
          rw [decodeMany_succ_ok hr, hrun]
          rfl

/-- Packets that a run returns before anything else are the first of its packets. -/
theorem isPrefix_of_returned {ps qs : List Packet} {x : Error}
    (h : (qs.map fun p => Outcome.noting (.ok p)) =
      ((ps.map fun p => Outcome.noting (.ok p)) ++ [Outcome.noting (.error x)]).take qs.length) :
    qs <+: ps := by
  induction qs generalizing ps with
  | nil => exact List.nil_prefix
  | cons q qs ih =>
    cases ps with
    | nil =>
      have hhead := congrArg Outcome.result (List.cons.inj h).1
      cases hhead
    | cons p ps =>
      obtain ⟨hhead, htail⟩ := List.cons.inj h
      obtain rfl : q = p := Except.ok.inj (congrArg Outcome.result hhead)
      exact (List.prefix_cons_inj q).mpr (ih htail)

def strict : DecoderConfig := ⟨[.v7, .v5], some 1, false⟩

theorem takes_of_build (hb : ∃ h rs, Packet.build h rs = .ok p) (ha : c.accepts p.version = true)
    (hl : p.records.length ≤ (c.maxRecordsFor p.version).toNat) : c.Takes p :=
  ⟨(Packet.exists_build_iff.mp hb).1, ha, hl⟩

theorem strict_takes_query : strict.Takes .query :=
  takes_of_build ⟨_, _, Packet.build_query⟩ (by decide) (by decide)

/-- Decoding as many packets as were written returns them in order and leaves what stands behind
them. With nothing behind them, the next packet is missing from its first byte on. -/
theorem decodeMany_encode (c : DecoderConfig) (ps : List Packet) (t : List UInt8) (s : Source)
    (hps : ∀ p ∈ ps, (∃ h rs, Packet.build h rs = .ok p) ∧ c.accepts p.version = true ∧
      p.records.length ≤ (c.maxRecordsFor p.version).toNat)
    (hs : s.Steady) (hf : ∀ f, s.fault = some f → s.data.length < f.after)
    (hd : s.data = ps.flatMap Packet.encode ++ t) :
    ∃ u, c.decodeMany ps.length s = (ps.map fun p => .noting (.ok p), u) ∧ u.data = t ∧
      (t = [] → (c.decodeFrom u).1.result =
        .error (.shortRead "version" 0 2 Failure.ended.message)) := by
  have htakes : ∀ p ∈ ps, c.Takes p := by
    intro p hp
    obtain ⟨hb, ha, hl⟩ := hps p hp
    exact takes_of_build hb ha hl
  have hdel := Source.deliverable_of_unreached hf
  obtain ⟨u, hu, hpu⟩ := decodeMany_takes hs htakes (hdel.trans hd)
  refine ⟨u, hu, ?_, ?_⟩
  · rw [hpu.data, hd, List.drop_left]
  · intro ht
    have hlen : (ps.flatMap Packet.encode).length ≤ s.deliverable.length := by
      rw [hdel, hd, List.length_append]
      exact Nat.le_add_right _ _
    have hnone : u.deliverable = [] := by
      rw [hpu.deliverable, hdel, hd, List.drop_left, ht]
    rw [decodeFrom_empty (hpu.steady hs) hnone, hpu.ending hlen, Source.ending_of_unreached hf]
    rfl

theorem decodeMany_encode_twoPackets :
    Source.twoPackets.Steady ∧
    ∃ u, strict.decodeMany 2 .twoPackets = ([.noting (.ok .query), .noting (.ok .idle)], u) ∧
      u.data = [] ∧
      (strict.decodeFrom u).1.result =
        .error (.shortRead "version" 0 2 Failure.ended.message) := by
  have hps : ∀ p ∈ [Packet.query, .idle], (∃ h rs, Packet.build h rs = .ok p) ∧
      strict.accepts p.version = true ∧
      p.records.length ≤ (strict.maxRecordsFor p.version).toNat := by
    rw [List.forall_mem_cons, List.forall_mem_singleton]
    constructor
    · exact ⟨⟨_, _, Packet.build_query⟩, by decide, by decide⟩
    · exact ⟨⟨_, _, Packet.build_idle⟩, by decide, by decide⟩
  have hs : Source.twoPackets.Steady := by decide
  have hf : ∀ f, Source.twoPackets.fault = some f →
      Source.twoPackets.data.length < f.after := by
    intro f hf
    cases hf
  have hd : Source.twoPackets.data = [Packet.query, .idle].flatMap Packet.encode ++ [] := by
    rw [List.append_nil]
    rfl
  obtain ⟨u, hu, hdata, hnext⟩ := decodeMany_encode strict _ [] _ hps hs hf hd
  exact ⟨hs, u, hu, hdata, hnext rfl⟩

/-- Decoding again and again stops at an error after at most one packet for every sixteen bytes.
The packets before it are what the bytes were up to there, and the error is that of the bytes
behind them on their own. -/
theorem decodeMany_drains (c : DecoderConfig) (s : Source) (hs : s.Steady)
    (hf : ∀ f, s.fault = some f → s.data.length < f.after) :
    ∃ (ps : List Packet) (rest : List UInt8) (x : Error),
      s.data = ps.flatMap Packet.encode ++ rest ∧ ps.length ≤ s.data.length / 16 ∧
      (c.decodeFrom (.ofBytes rest)).1.result = .error x ∧
      ∀ n, (c.decodeMany n s).1 =
        ((ps.map fun p => Outcome.noting (.ok p)) ++ [Outcome.noting (.error x)]).take n := by
  obtain ⟨ps, rest, x, hd, hx, hrun⟩ := decodeMany_run (c := c) hs
  rw [Source.deliverable_of_unreached hf] at hd
  rw [Source.ending_of_unreached hf] at hx
  refine ⟨ps, rest, x, hd, ?_, decodeFrom_ofBytes_verdict.mpr hx, hrun⟩
  have hps := Packet.length_flatMap_encode ps
  rw [Nat.le_div_iff_mul_le (by decide), hd, List.length_append]
  omega

theorem decodeMany_drains_twoPackets :
    Source.twoPackets.Steady ∧
    Source.twoPackets.data = [Packet.query, .idle].flatMap Packet.encode ++ [] ∧
    [Packet.query, .idle].length ≤ Source.twoPackets.data.length / 16 ∧
    (default.decodeFrom (.ofBytes [])).1.result =
      .error (.shortRead "version" 0 2 Failure.ended.message) ∧
    ∀ n, (default.decodeMany n .twoPackets).1 =
      [Outcome.noting (.ok .query), .noting (.ok .idle),
        .noting (.error (.shortRead "version" 0 2 Failure.ended.message))].take n := by
  have hs : Source.twoPackets.Steady := by decide
  have hf : ∀ f, Source.twoPackets.fault = some f →
      Source.twoPackets.data.length < f.after := by
    intro f hf
    cases hf
  have hdata : Source.twoPackets.deliverable =
      [Packet.query, .idle].flatMap Packet.encode ++ [] := by
    rw [List.append_nil]
    rfl
  have hps : ∀ p ∈ [Packet.query, .idle], default.Takes p := by
    rw [List.forall_mem_cons, List.forall_mem_singleton]
    constructor
    · exact takes_of_build ⟨_, _, Packet.build_query⟩ (by decide) (by decide)
    · exact takes_of_build ⟨_, _, Packet.build_idle⟩ (by decide) (by decide)
  have hend : (default.decodeFrom (.ofBytes [])).1.result =
      .error (.shortRead "version" 0 2 Failure.ended.message) :=
    decodeFrom_empty (by decide) rfl
  obtain ⟨ps, rest, x, hd, hlen, hx, hrun⟩ := decodeMany_drains default .twoPackets hs hf
  -- The two packets come first, and they leave no byte for a third one or for the rest.
  obtain ⟨u, hu, -⟩ := decodeMany_takes hs hps hdata
  obtain ⟨more, rfl⟩ : [Packet.query, .idle] <+: ps := by
    apply isPrefix_of_returned
    rw [← hrun, hu]
  rw [List.flatMap_append, List.append_assoc] at hd
  obtain ⟨hmore, rfl⟩ := List.append_eq_nil_iff.mp
    (List.append_cancel_left (hdata.symm.trans hd)).symm
  obtain rfl : more = [] := by
    have hle := Packet.length_flatMap_encode more
    rw [hmore, List.length_nil] at hle
    exact List.length_eq_zero_iff.mp (by omega)
  obtain rfl : x = .shortRead "version" 0 2 Failure.ended.message :=
    Except.error.inj (hx.symm.trans hend)
  exact ⟨hs, hd, hlen, hend, hrun⟩

end DecoderConfig
end NetFlow
