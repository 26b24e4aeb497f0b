import NetFlow.Proofs.Packet.Verdict

/-! On every source the decoder comes to the verdict on the bytes that can be delivered.
With it go the bytes drawn, the reader's offset and the events, which all follow from the
result. -/
namespace NetFlow
open Layout

namespace Decoding
variable {α β : Type}

theorem lift_map (read : ReadM α) (f : α → β) : lift (f <$> read) = f <$> lift read := by
  funext d
  simp only [lift, Functor.map, EStateM.map]
  cases read d.reader <;> rfl

theorem lift_bind (read : ReadM α) (f : α → ReadM β) :
    lift (read >>= f) = lift read >>= fun a => lift (f a) := by
  funext d
  simp only [lift, bind, EStateM.bind]
  cases read d.reader <;> rfl

theorem bind_ok {x : DecodeM α} {f : α → DecodeM β} {a : α} {d d' : Decoding}
    (h : x d = .ok a d') : (x >>= f) d = f a d' := by
  simp [bind, EStateM.bind, h]

theorem bind_error {x : DecodeM α} {f : α → DecodeM β} {e : Error} {d d' : Decoding}
    (h : x d = .error e d') : (x >>= f) d = .error e d' := by
  simp [bind, EStateM.bind, h]

theorem get_bind (f : Decoding → DecodeM β) (d : Decoding) : (get >>= f) d = f d d := rfl

theorem lift_ok {read : ReadM α} {a : α} {d : Decoding} {r : Reader}
    (h : read d.reader = .ok a r) : lift read d = .ok a ⟨r, d.events⟩ := by
  simp [lift, h]

theorem lift_error {read : ReadM α} {e : Error} {d : Decoding} {r : Reader}
    (h : read d.reader = .error e r) : lift read d = .error e ⟨r, d.events⟩ := by
  simp [lift, h]

def done : Except Error Packet → Decoding → EStateM.Result Error Decoding Packet
  | .ok p, d => .ok p d
  | .error e, d => .error e d

def noted : Except Error Packet → List Event
  | .ok p => [.decoded p.version p.records.length p.encodedLen]
  | .error (.versionDisabled v) => [.dropped v]
  | .error _ => []

def offsetAt : Except Error Packet → Nat
  | .ok p => p.encodedLen
  | .error (.shortRead _ offset _ _) => offset
  | .error (.io _ offset _) => offset
  | .error _ => 16

/-- The number of bytes taken from a source that can deliver `available` of them. -/
def drawn (available : Nat) : Except Error Packet → Nat
  | .ok p => p.encodedLen
  | .error (.shortRead _ _ _ _) => available
  | .error (.io _ _ _) => available
  | .error _ => 16

theorem offsetAt_error (e : Failure) (name : String) (offset width : Nat) :
    offsetAt (.error (e.error name offset width)) = offset := by
  cases e with
  | mk kind message => cases kind <;> rfl

theorem noted_error (e : Failure) (name : String) (offset width : Nat) :
    noted (.error (e.error name offset width)) = [] := by
  cases e with
  | mk kind message => cases kind <;> rfl

theorem drawn_error (n : Nat) (e : Failure) (name : String) (offset width : Nat) :
    drawn n (.error (e.error name offset width)) = n := by
  cases e with
  | mk kind message => cases kind <;> rfl

end Decoding

section
variable {s t : Source} {b : HeaderBase} (v : Version) (n : Nat)
  (hs : s.Steady) (hl : 16 ≤ s.deliverable.length) (hp : s.Past 16 t)
include hs hl hp

theorem Packet.readRest_whole (hb : Record.encode b = s.deliverable.take 16)
    (hn : v.packetLen n ≤ s.deliverable.length) :
    ∃ p u, v.Body n s.deliverable s.ending (.ok p) ∧ s.Past p.encodedLen u ∧
      readRest b v n ⟨t, 16⟩ = .ok p ⟨u, p.encodedLen⟩ := by
  have hsize := size_restFields v n
  have hd := hp.deliverable
  obtain ⟨p, u, hr, ⟨⟨hv, hbase⟩, hrec⟩, hrest, hpu⟩ := (restFormat b v n).whole 16
    (hp.steady hs) (by rw [hd, List.length_drop]; omega)
  have he : p.encode = s.deliverable.take (v.packetLen n) := by
    rw [encode_eq, hbase, hb, hrest, hd, ← hsize, List.take_add]
  have hlen : p.encodedLen = v.packetLen n := by
    rw [← encode_length, he, List.length_take, Nat.min_eq_left hn]
  refine ⟨p, u, .whole hn hv hrec.1 hrec.2 he, ?_, ?_⟩
  · rw [hlen, ← hsize]
    exact hp.trans hpu
  · rw [hlen, ← hsize]
    exact hr

theorem Packet.readRest_cut (hn : s.deliverable.length < v.packetLen n) :
    ∃ (name : String) (o w : Nat) (u : Source),
      v.Body n s.deliverable s.ending (.error (s.ending.error name o w)) ∧
      s.Past s.deliverable.length u ∧
      readRest b v n ⟨t, 16⟩ = .error (s.ending.error name o w) ⟨u, o⟩ := by
  have hsize := size_restFields v n
  have hd : t.deliverable.length = s.deliverable.length - 16 := by
    rw [hp.deliverable, List.length_drop]
  obtain ⟨p, hmem, hc, u, hr, hpu⟩ := (restFormat b v n).cut 16 (hp.steady hs) (by omega)
  have hsum : 16 + t.deliverable.length = s.deliverable.length := by omega
  rw [hsum] at hc
  exact ⟨p.2.name, p.1, p.2.width, u, .cut hmem hc, hsum ▸ hp.trans hpu, hp.ending hl ▸ hr⟩

theorem Packet.readRest_run (hb : Record.encode b = s.deliverable.take 16) :
    ∃ r u, v.Body n s.deliverable s.ending r ∧
      s.Past (Decoding.drawn s.deliverable.length r) u ∧
      Decoding.lift (readRest b v n) ⟨⟨t, 16⟩, []⟩ =
        Decoding.done r ⟨⟨u, Decoding.offsetAt r⟩, []⟩ := by
  by_cases hn : v.packetLen n ≤ s.deliverable.length
  · obtain ⟨p, u, hbody, hpu, hr⟩ := readRest_whole v n hs hl hp hb hn
    exact ⟨.ok p, u, hbody, hpu, Decoding.lift_ok hr⟩
  · obtain ⟨name, o, w, u, hbody, hpu, hr⟩ :=
      readRest_cut (b := b) v n hs hl hp (Nat.not_le.mp hn)
    refine ⟨_, u, hbody, ?_, ?_⟩
    · rwa [Decoding.drawn_error]
    · rw [Decoding.lift_error hr, Decoding.offsetAt_error]
      rfl

end

theorem Version.Body.version_eq {v : Version} {n : Nat} {bs : List UInt8} {e : Failure}
    {p : Packet} (h : v.Body n bs e (.ok p)) : p.version = v := by
  cases h with
  | whole _ hv => exact hv

theorem Version.Body.noted_eq {v : Version} {n : Nat} {bs : List UInt8} {e : Failure}
    {x : Error} (h : v.Body n bs e (.error x)) : Decoding.noted (.error x) = [] := by
  cases h with
  | cutInHeader => exact Decoding.noted_error _ _ _ _
  | cutInRecord => exact Decoding.noted_error _ _ _ _

namespace DecoderConfig
variable (c : DecoderConfig)

theorem accepts_iff (v : Version) : c.accepts v = true ↔ v ∈ c.versions := by
  simp [accepts]

theorem readPacket_eq : c.readPacket = (do
    let b ← Decoding.lift (Record.read HeaderBase)
    let v ← c.acceptedVersion b
    let p ← Decoding.lift (Packet.readRest b v b.count.toNat)
    Decoding.emit (.decoded v p.records.length (← get).reader.offset)
    return p) := by
  simp [readPacket, Packet.readRest, Decoding.lift_bind, Decoding.lift_map]

theorem acceptedVersion_run (b : HeaderBase) (d : Decoding) :
    (∃ x, c.Refuses b.version b.count x ∧
      c.acceptedVersion b d = .error x ⟨d.reader, d.events ++ Decoding.noted (.error x)⟩) ∨
    ∃ v, c.Admits b.version b.count v ∧ c.acceptedVersion b d = .ok v d := by
  cases hn : Version.ofNumber? b.version with
  | none =>
    refine .inl ⟨_, .unsupported ?_, ?_⟩
    · intro v hv
      rw [← hv, Version.ofNumber?_number] at hn
      cases hn
    · simp [acceptedVersion, hn, Decoding.noted]
      rfl
  | some v =>
    have hv : v.number = b.version := by simpa using List.find?_some hn
    by_cases ha : v ∈ c.versions
    · have hc := (c.accepts_iff v).mpr ha
      by_cases hm : c.maxRecordsFor v < b.count
      · refine .inl ⟨_, .tooMany hv ha hm, ?_⟩
        simp [acceptedVersion, hn, Decoding.noted, hc, hm]
        rfl
      · refine .inr ⟨v, ⟨hv, ha, UInt16.not_lt.mp hm⟩, ?_⟩
        simp [acceptedVersion, hn, hc, hm]
        rfl
    · have hc : c.accepts v = false := by
        rwa [← Bool.not_eq_true, c.accepts_iff]
      refine .inl ⟨_, .disabled hv ha, ?_⟩
      simp [acceptedVersion, hn, Decoding.noted, hc]
      rfl

variable {c}

/-- Reading a packet always comes to the verdict, and the verdict says what is left. -/
theorem readPacket_run {s : Source} (hs : s.Steady) :
    ∃ r t, c.Verdict s.deliverable s.ending r ∧
      s.Past (Decoding.drawn s.deliverable.length r) t ∧
      c.readPacket (.start s) =
        Decoding.done r ⟨⟨t, Decoding.offsetAt r⟩, Decoding.noted r⟩ := by
  rw [readPacket_eq]
  by_cases hl : 16 ≤ s.deliverable.length
  · obtain ⟨b, t, hb, -, he, hp⟩ := (Record.format HeaderBase).whole 0 hs hl
    have hb : Decoding.lift (Record.read HeaderBase) (.start s) = .ok b ⟨⟨t, 16⟩, []⟩ :=
      Decoding.lift_ok hb
    rw [Decoding.bind_ok hb]
    have htag := Packet.tagOf_eq he
    have hcount := Packet.countOf_eq he
    obtain ⟨x, hx, hrun⟩ | ⟨v, hv, hrun⟩ := c.acceptedVersion_run b ⟨⟨t, 16⟩, []⟩
    · refine ⟨.error x, t, .refused hl (by rwa [htag, hcount]), ?_, ?_⟩
      · cases hx <;> exact hp
      · rw [Decoding.bind_error hrun]
        cases hx <;> rfl
    · rw [Decoding.bind_ok hrun]
      obtain ⟨r, u, hbody, hpu, hr⟩ := Packet.readRest_run v b.count.toNat hs hl hp he
      have hadm : c.Admits (Packet.tagOf s.deliverable) (Packet.countOf s.deliverable) v := by
        rwa [htag, hcount]
      refine ⟨r, u, .read hl hadm (by rwa [hcount]), hpu, ?_⟩
      cases r with
      | ok p =>
        obtain rfl := hbody.version_eq
        rw [Decoding.bind_ok hr]
        rfl
      | error x =>
        rw [Decoding.bind_error hr, hbody.noted_eq]
        rfl
  · obtain ⟨p, hmem, hc, t, hr, hp⟩ :=
      (Record.format HeaderBase).cut 0 hs (Nat.not_le.mp hl)
    rw [Nat.zero_add] at hc
    refine ⟨_, t, .cutInBase (Nat.not_le.mp hl) hmem hc, ?_, ?_⟩
    · rwa [Decoding.drawn_error]
    · rw [Decoding.bind_error (Decoding.lift_error hr), Decoding.offsetAt_error,
        Decoding.noted_error]
      rfl

theorem decodeFrom_run {s : Source} (hs : s.Steady) :
    ∃ r t, c.Verdict s.deliverable s.ending r ∧
      s.Past (Decoding.drawn s.deliverable.length r) t ∧
      c.decodeFrom s = (⟨r, Decoding.noted r⟩, t) := by
  obtain ⟨r, t, hv, hp, hr⟩ := readPacket_run (c := c) hs
  refine ⟨r, t, hv, hp, ?_⟩
  rw [decodeFrom, hr]
  cases r <;> rfl

theorem exists_readPacket_ok {s : Source} {p : Packet} (h : (c.decodeFrom s).1.result = .ok p) :
    ∃ d, c.readPacket (.start s) = .ok p d ∧ (c.decodeFrom s).2 = d.reader.source := by
  rw [decodeFrom] at h ⊢
  cases hr : c.readPacket (.start s) with
  | ok p' d =>
    rw [hr] at h
    cases h
    exact ⟨d, rfl, rfl⟩
  | error x d =>
    rw [hr] at h
    cases h

theorem exists_readPacket_error {s : Source} {x : Error}
    (h : (c.decodeFrom s).1.result = .error x) : ∃ d, c.readPacket (.start s) = .error x d := by
  rw [decodeFrom] at h
  cases hr : c.readPacket (.start s) with
  | ok p d =>
    rw [hr] at h
    cases h
  | error x' d =>
    rw [hr] at h
    cases h
    exact ⟨d, rfl⟩

variable (c) in
/-- The outcome for a datagram of `size` bytes, once a packet has been read from it. -/
def settle (size : Nat) : Except Error Packet → Outcome
  | .error e => ⟨.error e, Decoding.noted (.error e)⟩
  | .ok p =>
    let trailing := size - p.encodedLen
    let events := Decoding.noted (.ok p)
    if trailing = 0 then ⟨.ok p, events⟩
    else if c.allowTrailingBytes then ⟨.ok p, events ++ [.ignored trailing p.version]⟩
    else ⟨.error (.trailingBytes trailing), events ++ [.rejected p.version trailing]⟩

theorem ofResult_finish (size : Nat) (p : Packet) (s : Source) :
    .ofResult (c.finish size p ⟨⟨s, p.encodedLen⟩, Decoding.noted (.ok p)⟩) =
      c.settle size (.ok p) := by
  rw [finish, Decoding.get_bind, settle]
  by_cases h : size - p.encodedLen = 0
  · simp only [h, ↓reduceIte]
    rfl
  · by_cases ha : c.allowTrailingBytes
    · simp only [h, ha, ↓reduceIte]
      rfl
    · simp only [h, ha, ↓reduceIte]
      rfl

theorem decode_run (bs : List UInt8) :
    ∃ r, c.Verdict bs .ended r ∧ c.decode bs = c.settle bs.length r := by
  obtain ⟨r, t, hv, -, hr⟩ := readPacket_run (c := c) (Source.steady_ofBytes bs)
  refine ⟨r, hv, ?_⟩
  rw [decode]
  cases r with
  | error e =>
    rw [Decoding.bind_error hr]
    rfl
  | ok p =>
    rw [Decoding.bind_ok hr]
    exact ofResult_finish bs.length p t

end DecoderConfig
end NetFlow
