import NetFlow.Config.Document
import NetFlow.Proofs.Document.Leaving
import NetFlow.Proofs.Packet.Document

/-! Settings are read from documents as they were written into them, in every dialect that
reads the numbers and the names that are written. What is left out comes back as its default. -/
namespace NetFlow

def Document.ofLimit : Option UInt16 → Document
  | some n => .ofNat n.toNat
  | none => .null

namespace DecoderConfig

theorem toDocument_eq (c : DecoderConfig) :
    c.toDocument = .ofMembers [("versions", .array (c.versions.map Version.toDocument)),
      ("max_records", .ofLimit c.maxRecords),
      ("allow_trailing_bytes", .bool c.allowTrailingBytes)] := rfl

/-- Only the settings that are kept; the others have their defaults. -/
def keeping (keep : String → Bool) (c : DecoderConfig) : DecoderConfig where
  versions := if keep "versions" then c.versions else default.versions
  maxRecords := if keep "max_records" then c.maxRecords else default.maxRecords
  allowTrailingBytes :=
    if keep "allow_trailing_bytes" then c.allowTrailingBytes else default.allowTrailingBytes

theorem isPlain_keeping {Good : String → Prop}
    (hk : ∀ k ∈ ["versions", "max_records", "allow_trailing_bytes"], Good k)
    (keep : String → Bool) (c : DecoderConfig) : (c.toDocument.keeping keep).IsPlain Good := by
  rw [toDocument_eq]
  apply Document.IsPlain.keeping
  · exact hk
  · simp only [List.forall_mem_cons]
    refine ⟨.array ?_, ?_, .bool c.allowTrailingBytes, List.forall_mem_nil _⟩
    · rw [List.forall_mem_map]
      exact fun v _ => .ofNat v.number.toNat
    · cases c.maxRecords with
      | none => exact .null
      | some n => exact .ofNat n.toNat

variable {x : Dialect} (hx : ∀ n : UInt16, x.word16 (.ofNat n.toNat) = .ok n)
include hx

theorem optional_ofLimit (limit : Option UInt16) :
    Document.optional x.word16 (.ofLimit limit) = .ok limit := by
  cases limit with
  | none => rfl
  | some n => exact congrArg (fun e => e >>= fun m => pure (some m)) (hx n)

theorem ofDocument_keeping (keep : String → Bool) (c : DecoderConfig) :
    ofDocument x (c.toDocument.keeping keep) = .ok (c.keeping keep) := by
  have hv := ((Version.transcribed hx).list x).ofDocument_toDocument c.versions
  have hm := optional_ofLimit hx c.maxRecords
  have ha : x.bool (.bool c.allowTrailingBytes) = .ok c.allowTrailingBytes := rfl
  have hc : Checked
      [("versions", fun d => discard (x.list (Version.ofDocument x) d)),
        ("max_records", fun d => discard (Document.optional x.word16 d)),
        ("allow_trailing_bytes", fun d => discard (x.bool d))]
      [("versions", .array (c.versions.map Version.toDocument)),
        ("max_records", .ofLimit c.maxRecords),
        ("allow_trailing_bytes", .bool c.allowTrailingBytes)] :=
    .cons (by simp) (discard_ok hv) (.cons (by simp) (discard_ok hm)
      (.cons (by simp) (discard_ok ha) .nil))
  obtain ⟨all, hall, hfound⟩ := x.members_keeping "struct DecoderConfig" (by simp) hc keep
  simp only [List.forall_mem_cons] at hfound
  obtain ⟨hversions, hmax, hallow, -⟩ := hfound
  simp only [ofDocument, toDocument_eq, hall, bind, Except.bind,
    Members.getD_keeping hversions hv, Members.getD_keeping hmax hm,
    Members.getD_keeping hallow ha]
  rfl

theorem transcribed : Transcribed toDocument (ofDocument x) where
  isPlain c := by
    rw [← c.toDocument.keeping_all]
    exact isPlain_keeping (fun _ _ => trivial) _ c
  ofDocument_toDocument c := by
    rw [← c.toDocument.keeping_all]
    exact ofDocument_keeping hx (fun _ => true) c

end DecoderConfig

theorem LogFormat.ofDocument_toDocument {x : Dialect}
    (hx : ∀ known, ∀ s ∈ known, x.choice known (.ofString s) = .ok s) (f : LogFormat) :
    ofDocument x f.toDocument = .ok f := by
  have hmem : f.name ∈ all.map LogFormat.name := by
    cases f <;> decide
  simp only [ofDocument, toDocument, hx _ _ hmem]
  cases f <;> rfl

namespace LoggingConfig

def keeping (keep : String → Bool) (c : LoggingConfig) : LoggingConfig where
  level := if keep "level" then c.level else default.level
  format := if keep "format" then c.format else default.format

theorem isPlain_keeping {Good : String → Prop} (hk : ∀ k ∈ ["level", "format"], Good k)
    (hf : ∀ f : LogFormat, Good f.name) (keep : String → Bool) {c : LoggingConfig}
    (hlevel : Good c.level) : (c.toDocument.keeping keep).IsPlain Good := by
  apply Document.IsPlain.keeping
  · exact hk
  · simp only [List.forall_mem_cons]
    exact ⟨.ofString hlevel, .ofString (hf c.format), List.forall_mem_nil _⟩

theorem ofDocument_keeping {x : Dialect}
    (hx : ∀ known, ∀ s ∈ known, x.choice known (.ofString s) = .ok s) (keep : String → Bool)
    (c : LoggingConfig) : ofDocument x (c.toDocument.keeping keep) = .ok (c.keeping keep) := by
  have hl : x.string (.ofString c.level) = .ok c.level := rfl
  have hf := LogFormat.ofDocument_toDocument hx c.format
  have hc : Checked
      [("level", fun d => discard (x.string d)),
        ("format", fun d => discard (LogFormat.ofDocument x d))]
      [("level", .ofString c.level), ("format", c.format.toDocument)] :=
    .cons (by simp) (discard_ok hl) (.cons (by simp) (discard_ok hf) .nil)
  obtain ⟨all, hall, hfound⟩ := x.members_keeping "struct LoggingConfig" (by simp) hc keep
  simp only [List.forall_mem_cons] at hfound
  obtain ⟨hlevel, hformat, -⟩ := hfound
  simp only [ofDocument, toDocument, hall, bind, Except.bind,
    Members.getD_keeping hlevel hl, Members.getD_keeping hformat hf]
  rfl

end LoggingConfig

/-- The keys that a text of settings may mention: sections, and what they set. -/
structure Mentions where
  sections : String → Bool
  decoder : String → Bool
  logging : String → Bool

namespace Mentions

def all : Mentions := ⟨fun _ => true, fun _ => true, fun _ => true⟩

def without (m : Mentions) (s : String) : Mentions :=
  { m with sections := fun k => k != s && m.sections k }

/-- One section is there, but with nothing in it. -/
def emptied (m : Mentions) (s : String) : Mentions where
  sections k := k == s || m.sections k
  decoder k := s != "decoder" && m.decoder k
  logging k := s != "logging" && m.logging k

end Mentions

namespace NetFlowConfig

/-- The document of settings with all keys left out that are not to be mentioned. -/
def abridged (m : Mentions) (c : NetFlowConfig) : Document :=
  (Document.ofMembers [("decoder", c.decoder.toDocument.keeping m.decoder),
    ("logging", c.logging.toDocument.keeping m.logging)]).keeping m.sections

def keeping (m : Mentions) (c : NetFlowConfig) : NetFlowConfig where
  decoder := if m.sections "decoder" then c.decoder.keeping m.decoder else .default
  logging := if m.sections "logging" then c.logging.keeping m.logging else .default

theorem abridged_all (c : NetFlowConfig) : c.abridged .all = c.toDocument := by
  simp only [abridged, Mentions.all, Document.keeping_all, toDocument]

theorem keeping_all (c : NetFlowConfig) : c.keeping .all = c := rfl

theorem keeping_emptied (m : Mentions) (s : String) (c : NetFlowConfig) :
    c.keeping (m.emptied s) = c.keeping (m.without s) := by
  simp only [keeping, mk.injEq]
  constructor
  · by_cases h : s = "decoder"
    · subst h
      rfl
    · have hs : (s != "decoder") = true := bne_iff_ne.mpr h
      simp [Mentions.emptied, Mentions.without, hs, Ne.symm h]
  · by_cases h : s = "logging"
    · subst h
      rfl
    · have hs : (s != "logging") = true := bne_iff_ne.mpr h
      simp [Mentions.emptied, Mentions.without, hs, Ne.symm h]

theorem isPlain_abridged {Good : String → Prop}
    (hs : ∀ k ∈ ["decoder", "logging"], Good k)
    (hd : ∀ k ∈ ["versions", "max_records", "allow_trailing_bytes"], Good k)
    (hl : ∀ k ∈ ["level", "format"], Good k) (hf : ∀ f : LogFormat, Good f.name)
    (m : Mentions) {c : NetFlowConfig} (hlevel : Good c.logging.level) :
    (c.abridged m).IsPlain Good := by
  apply Document.IsPlain.keeping
  · exact hs
  · simp only [List.forall_mem_cons]
    exact ⟨c.decoder.isPlain_keeping hd _, LoggingConfig.isPlain_keeping hl hf _ hlevel,
      List.forall_mem_nil _⟩

theorem ofDocument_abridged {x : Dialect} (hx : ∀ n : UInt16, x.word16 (.ofNat n.toNat) = .ok n)
    (hchoice : ∀ known, ∀ s ∈ known, x.choice known (.ofString s) = .ok s)
    (m : Mentions) (c : NetFlowConfig) : ofDocument x (c.abridged m) = .ok (c.keeping m) := by
  have hd := DecoderConfig.ofDocument_keeping hx m.decoder c.decoder
  have hl := LoggingConfig.ofDocument_keeping hchoice m.logging c.logging
  have hc : Checked
      [("decoder", fun d => discard (DecoderConfig.ofDocument x d)),
        ("logging", fun d => discard (LoggingConfig.ofDocument x d))]
      [("decoder", c.decoder.toDocument.keeping m.decoder),
        ("logging", c.logging.toDocument.keeping m.logging)] :=
    .cons (by simp) (discard_ok hd) (.cons (by simp) (discard_ok hl) .nil)
  obtain ⟨all, hall, hfound⟩ := x.members_keeping "struct NetFlowConfig" (by simp) hc m.sections
  simp only [List.forall_mem_cons] at hfound
  obtain ⟨hdecoder, hlogging, -⟩ := hfound
  simp only [ofDocument, abridged, hall, bind, Except.bind,
    Members.getD_keeping hdecoder hd, Members.getD_keeping hlogging hl]
  rfl

/-- Nothing but defaults is left out. -/
structure Sufficient (m : Mentions) (c : NetFlowConfig) : Prop where
  decoder : m.sections "decoder" = false → c.decoder = .default
  logging : m.sections "logging" = false → c.logging = .default
  versions : m.decoder "versions" = false → c.decoder.versions = DecoderConfig.default.versions
  maxRecords :
    m.decoder "max_records" = false → c.decoder.maxRecords = DecoderConfig.default.maxRecords
  allowTrailingBytes : m.decoder "allow_trailing_bytes" = false →
    c.decoder.allowTrailingBytes = DecoderConfig.default.allowTrailingBytes
  level : m.logging "level" = false → c.logging.level = LoggingConfig.default.level
  format : m.logging "format" = false → c.logging.format = LoggingConfig.default.format

theorem ite_default {α : Type} {kept : Bool} {a default : α} (h : kept = false → a = default) :
    (if kept then a else default) = a := by
  cases kept with
  | true => rfl
  | false => exact (h rfl).symm

theorem Sufficient.keeping_eq {m : Mentions} {c : NetFlowConfig} (h : Sufficient m c) :
    c.keeping m = c := by
  have hd : c.decoder.keeping m.decoder = c.decoder := by
    simp only [DecoderConfig.keeping, ite_default h.versions, ite_default h.maxRecords,
      ite_default h.allowTrailingBytes]
  have hl : c.logging.keeping m.logging = c.logging := by
    simp only [LoggingConfig.keeping, ite_default h.level, ite_default h.format]
  simp only [keeping, hd, hl, ite_default h.decoder, ite_default h.logging]

end NetFlowConfig
end NetFlow
