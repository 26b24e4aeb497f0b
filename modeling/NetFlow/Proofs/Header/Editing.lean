import NetFlow.Header.Edit
import NetFlow.Proofs.Packet.Body
import NetFlow.Proofs.Record.RoundTrip

/-! Runs of edits. A step sets one of three fields or passes the header through the wire form, which
changes nothing; so after any run these fields have the values set last, and the rest of the header,
as of its bytes, is what it was. The tag may come to name another version than the header has. -/
namespace NetFlow

namespace HeaderSetting

def version? : HeaderSetting → Option UInt16
  | .version n => some n
  | _ => none

def count? : HeaderSetting → Option UInt16
  | .count n => some n
  | _ => none

def sysUptime? : HeaderSetting → Option UInt32
  | .sysUptime n => some n
  | _ => none

end HeaderSetting

namespace HeaderEdit

def setting? : HeaderEdit → Option HeaderSetting
  | .set x => some x
  | .setInside x => some x
  | .redecode => none

def settings (es : List HeaderEdit) : List HeaderSetting := es.filterMap setting?

theorem settings_filter (es : List HeaderEdit) :
    settings (es.filter fun e => e ≠ .redecode) = settings es := by
  induction es with
  | nil => rfl
  | cons e es ih =>
    cases e with
    | set x => exact congrArg (x :: ·) ih
    | setInside x => exact congrArg (x :: ·) ih
    | redecode => exact ih

end HeaderEdit

structure HeaderBase.SameTime (a b : HeaderBase) : Prop where
  unixSecs : a.unixSecs = b.unixSecs
  unixNsecs : a.unixNsecs = b.unixNsecs

/-- Headers of one variant that are equal in all fields but tag, count and uptime. -/
inductive Header.SameRest : Header → Header → Prop where
  | v1 {a b : HeaderBase} : a.SameTime b → SameRest (.v1 a) (.v1 b)
  | v5 {a b : V5Header} : a.base.SameTime b.base → a.flowSequence = b.flowSequence →
      a.engineType = b.engineType → a.engineId = b.engineId →
      a.samplingInterval = b.samplingInterval → SameRest (.v5 a) (.v5 b)
  | v7 {a b : V7Header} : a.base.SameTime b.base → a.flowSequence = b.flowSequence →
      a.reserved = b.reserved → SameRest (.v7 a) (.v7 b)

namespace Header

namespace SameRest
variable {a b c : Header}

theorem refl (h : Header) : h.SameRest h := by
  cases h with
  | v1 h => exact .v1 ⟨rfl, rfl⟩
  | v5 h => exact .v5 ⟨rfl, rfl⟩ rfl rfl rfl rfl
  | v7 h => exact .v7 ⟨rfl, rfl⟩ rfl rfl

theorem trans (h : a.SameRest b) (k : b.SameRest c) : a.SameRest c := by
  cases h with
  | v1 ht =>
    cases k with
    | v1 kt => exact .v1 ⟨ht.1.trans kt.1, ht.2.trans kt.2⟩
  | v5 ht hf hy hi hs =>
    cases k with
    | v5 kt kf ky ki ks =>
      exact .v5 ⟨ht.1.trans kt.1, ht.2.trans kt.2⟩ (hf.trans kf) (hy.trans ky) (hi.trans ki)
        (hs.trans ks)
  | v7 ht hf hr =>
    cases k with
    | v7 kt kf kr => exact .v7 ⟨ht.1.trans kt.1, ht.2.trans kt.2⟩ (hf.trans kf) (hr.trans kr)

theorem kind_eq (h : a.SameRest b) : b.kind = a.kind := by
  cases h <;> rfl

end SameRest

theorem setInside_eq (x : HeaderSetting) (h : Header) : h.setInside x = h.set x := by
  cases x <;> cases h <;> rfl

theorem exists_read_encode {α : Type} [Record α] (f : α → Header) (a : α) :
    ∃ r, (f <$> Record.read α) (.start (.ofBytes (Record.encode a))) = .ok (f a) r := by
  obtain ⟨u, hu, -⟩ := (Record.format α).decode_encode (a := a) (t := [])
    (Source.steady_ofBytes _) (List.append_nil _).symm
  exact ⟨_, map_ok f hu⟩

theorem redecode_eq (h : Header) : h.redecode = .ok h := by
  have hread : ∃ r, readAs h.kind (.start (.ofBytes h.encode)) = .ok h r := by
    cases h with
    | v1 h => exact exists_read_encode Header.v1 h
    | v5 h => exact exists_read_encode Header.v5 h
    | v7 h => exact exists_read_encode Header.v7 h
  obtain ⟨r, hr⟩ := hread
  rw [redecode, hr]

def setAll (h : Header) (xs : List HeaderSetting) : Header := xs.foldl (fun h x => h.set x) h

theorem editAll_eq (h : Header) (es : List HeaderEdit) :
    h.editAll es = .ok (h.setAll (HeaderEdit.settings es)) := by
  induction es generalizing h with
  | nil => rfl
  | cons e es ih =>
    rw [editAll, List.foldlM_cons]
    cases e with
    | set x => exact ih (h.set x)
    | setInside x =>
      rw [edit, setInside_eq]
      exact ih (h.set x)
    | redecode =>
      rw [edit, redecode_eq]
      exact ih h

theorem sameRest_set (x : HeaderSetting) (h : Header) : h.SameRest (h.set x) := by
  cases h with
  | v1 h => cases x <;> exact .v1 ⟨rfl, rfl⟩
  | v5 h => cases x <;> exact .v5 ⟨rfl, rfl⟩ rfl rfl rfl rfl
  | v7 h => cases x <;> exact .v7 ⟨rfl, rfl⟩ rfl rfl

theorem sameRest_setAll (h : Header) (xs : List HeaderSetting) : h.SameRest (h.setAll xs) := by
  induction xs generalizing h with
  | nil => exact .refl h
  | cons x xs ih => exact (sameRest_set x h).trans (ih (h.set x))

theorem version_set (x : HeaderSetting) (h : Header) :
    (h.set x).version = x.version?.getD h.version := by
  cases x <;> cases h <;> rfl

theorem count_set (x : HeaderSetting) (h : Header) :
    (h.set x).count = x.count?.getD h.count := by
  cases x <;> cases h <;> rfl

theorem sysUptime_set (x : HeaderSetting) (h : Header) :
    (h.set x).sysUptime = x.sysUptime?.getD h.sysUptime := by
  cases x <;> cases h <;> rfl

/-- A field that each setting either sets or leaves has the value set last, if there is one. -/
theorem get_setAll {β : Type} {get : Header → β} {new? : HeaderSetting → Option β}
    (hset : ∀ x h, get (h.set x) = (new? x).getD (get h)) (h : Header) (xs : List HeaderSetting) :
    get (h.setAll xs) = (xs.filterMap new?).getLastD (get h) := by
  induction xs generalizing h with
  | nil => rfl
  | cons x xs ih =>
    -- What the first setting leaves is the value to start from for the others.
    have hrest : get (h.setAll (x :: xs)) =
        (xs.filterMap new?).getLastD ((new? x).getD (get h)) := by
      rw [← hset]
      exact ih (h.set x)
    rw [hrest]
    cases hx : new? x with
    | none => rw [List.filterMap_cons_none hx, Option.getD_none]
    | some n => rw [List.filterMap_cons_some hx, List.getLastD_cons, Option.getD_some]

theorem encode_split (h : Header) : h.encode = BigEndian.encode 2 h.version.toNat ++
    (BigEndian.encode 2 h.count.toNat ++ (BigEndian.encode 4 h.sysUptime.toNat ++
      h.encode.drop 8)) := by
  cases h <;> rfl

theorem drop_encode (h : Header) : h.encode.drop 8 = BigEndian.encode 4 h.base.unixSecs.toNat ++
    (BigEndian.encode 4 h.base.unixNsecs.toNat ++ h.tail) := by
  cases h <;> rfl

namespace SameRest
variable {a b : Header}

theorem sameTime (h : a.SameRest b) : a.base.SameTime b.base := by
  cases h with
  | v1 ht => exact ht
  | v5 ht => exact ht
  | v7 ht => exact ht

theorem tail_eq (h : a.SameRest b) : b.tail = a.tail := by
  cases h with
  | v1 => rfl
  | v5 _ hf hy hi hs => simp only [tail, Record.toRow, hf, hy, hi, hs]
  | v7 _ hf hr => simp only [tail, Record.toRow, hf, hr]

theorem drop_encode (h : a.SameRest b) : b.encode.drop 8 = a.encode.drop 8 := by
  rw [Header.drop_encode, Header.drop_encode, h.sameTime.unixSecs, h.sameTime.unixNsecs, h.tail_eq]

end SameRest

/-- What a run of edits makes of a header. -/
structure Edited (h : Header) (es : List HeaderEdit) (h' : Header) : Prop where
  kind : h'.kind = h.kind
  rest : h.SameRest h'
  version : h'.version =
    ((HeaderEdit.settings es).filterMap HeaderSetting.version?).getLastD h.version
  count : h'.count = ((HeaderEdit.settings es).filterMap HeaderSetting.count?).getLastD h.count
  sysUptime : h'.sysUptime =
    ((HeaderEdit.settings es).filterMap HeaderSetting.sysUptime?).getLastD h.sysUptime
  bytes : h'.encode = BigEndian.encode 2 h'.version.toNat ++
    (BigEndian.encode 2 h'.count.toNat ++ (BigEndian.encode 4 h'.sysUptime.toNat ++
      h.encode.drop 8))
  length : h'.encode.length = h.encode.length

/-- Every run of edits succeeds. Tag, count and uptime are what was set last, in the header as in
its bytes, and nothing else has changed. Edits that only pass through the wire form may be left
out. -/
theorem editAll_edited (h : Header) (es : List HeaderEdit) :
    ∃ h', h.editAll es = .ok h' ∧ h.Edited es h' ∧
      h.editAll (es.filter fun e => e ≠ .redecode) = .ok h' := by
  have hrest := sameRest_setAll h (HeaderEdit.settings es)
  refine ⟨_, editAll_eq h es, ?_, ?_⟩
  · constructor
    · exact hrest.kind_eq
    · exact hrest
    · exact get_setAll version_set h _
    · exact get_setAll count_set h _
    · exact get_setAll sysUptime_set h _
    · rw [← hrest.drop_encode]
      exact encode_split _
    · rw [encode_length, encode_length, encodedLen_eq, encodedLen_eq, hrest.kind_eq]
  · rw [editAll_eq, HeaderEdit.settings_filter]

end Header
end NetFlow
