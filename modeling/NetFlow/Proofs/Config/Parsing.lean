import NetFlow.Proofs.Config.Document
import NetFlow.Proofs.Config.Validation
import NetFlow.Proofs.Json5.Lexing

/-! Settings are read from JSON5 texts as they were written, and then they are checked. -/
namespace NetFlow

theorem Json5.choice_ofString (known : List String) :
    ∀ s ∈ known, choice known (.ofString s) = .ok s := by
  intro s hs
  have hcontains : known.contains s = true := List.contains_iff_mem.mpr hs
  simp only [choice, Document.ofString, bind, Except.bind, hcontains, ↓reduceIte]
  rfl

theorem LoggingConfig.quotable_of_isLevel {s : String} (h : isLevel s = true) :
    Json5.Quotable s := by
  have hnames : ∀ l ∈ levels.map String.toList, '\u2028' ∉ l ∧ '\u2029' ∉ l := by decide
  obtain ⟨h₁, h₂⟩ := hnames _ (isLevel_iff.mp h)
  intro c hc
  constructor
  · intro he
    subst he
    exact h₁ (List.mem_map.mpr ⟨_, hc, rfl⟩)
  · intro he
    subst he
    exact h₂ (List.mem_map.mpr ⟨_, hc, rfl⟩)

def Mentions.terse : Mentions :=
  ⟨fun _ => true, fun k => k != "allow_trailing_bytes", fun k => k != "format"⟩

namespace NetFlowConfig
variable {c : NetFlowConfig}

theorem read_abridged (m : Mentions) (hq : Json5.Quotable c.logging.level) :
    Json5.read (ofDocument Json5.dialect) (Json.write (c.abridged m)) = .ok (c.keeping m) := by
  have hplain : (c.abridged m).IsPlain Json5.Quotable :=
    isPlain_abridged (by decide) (by decide) (by decide)
      (fun f => by cases f <;> decide) m hq
  rw [Json5.read_write _ hplain]
  exact ofDocument_abridged Json5.word16_toNat Json5.choice_ofString m c

theorem parse_abridged (m : Mentions) (hq : Json5.Quotable c.logging.level) :
    parse (Json.write (c.abridged m)) = (c.keeping m).validate.map fun _ => c.keeping m := by
  simp only [parse, read_abridged m hq]
  cases (c.keeping m).validate <;> rfl

theorem parse_write (hq : Json5.Quotable c.logging.level) :
    parse (Json.write c.toDocument) = c.validate.map fun _ => c := by
  rw [← c.abridged_all]
  exact parse_abridged .all hq

/-- Nothing comes of a text but settings that pass the checks. -/
theorem validate_of_parse {text : String} (h : parse text = .ok c) : c.validate = .ok () := by
  unfold parse at h
  split at h
  · cases h
  case h_2 d _ =>
    cases hv : d.validate with
    | error e =>
      rw [hv] at h
      cases h
    | ok =>
      rw [hv] at h
      cases h
      exact hv

def quiet : NetFlowConfig := ⟨⟨[.v5, .v5], some 30, true⟩, ⟨"WARN", .text⟩⟩

def quietText : String :=
  "\x7b\"decoder\":\x7b\"versions\":[5,5],\"max_records\":30\x7d," ++
    "\"logging\":\x7b\"level\":\"WARN\"\x7d\x7d"

def hopeless : NetFlowConfig := ⟨⟨[], some 0, true⟩, ⟨"loud", .text⟩⟩

/-- Settings that pass the checks come back from every text of theirs in which nothing but
defaults is left out, and a section may be empty as well as left out. The full text of any
others is refused for what is wrong with them in the first place. -/
theorem parse_restores (c : NetFlowConfig) :
    (c.validate = .ok () →
      (∀ m, Sufficient m c → parse (Json.write (c.abridged m)) = .ok c) ∧
      parse (Json.write c.toDocument) = .ok c ∧
      ∀ (m : Mentions) (s : String), parse (Json.write (c.abridged (m.without s))) =
        parse (Json.write (c.abridged (m.emptied s)))) ∧
    (c.validate ≠ .ok () → Json5.Quotable c.logging.level →
      ∃ fault, c.FirstFault fault ∧
        parse (Json.write c.toDocument) = .error (.config fault)) := by
  constructor
  · intro hv
    have hq := LoggingConfig.quotable_of_isLevel (validate_ok_iff.mp hv).2.2
    refine ⟨?_, ?_, ?_⟩
    · intro m hm
      rw [parse_abridged m hq, hm.keeping_eq, hv]
      rfl
    · rw [parse_write hq, hv]
      rfl
    · intro m s
      rw [parse_abridged _ hq, parse_abridged _ hq, keeping_emptied]
  · intro hv hq
    obtain ⟨fault, hf⟩ := exists_firstFault hv
    refine ⟨fault, hf, ?_⟩
    rw [parse_write hq, hf.validate]
    rfl

theorem parse_restores_quiet :
    (quiet.validate = .ok () ∧ Sufficient .terse quiet ∧ parse quietText = .ok quiet) ∧
    hopeless.validate ≠ .ok () ∧ Json5.Quotable hopeless.logging.level ∧
      parse (Json.write hopeless.toDocument) = .error (.config .noVersions) := by
  have hvalid : quiet.validate = .ok () :=
    validate_ok_iff.mpr ⟨by decide, by decide, LoggingConfig.isLevel_iff.mpr (by decide)⟩
  have hinvalid : hopeless.validate ≠ .ok () := by
    intro h
    exact absurd (validate_ok_iff.mp h).1 (by decide)
  have hq : Json5.Quotable hopeless.logging.level := by decide
  have hm : Sufficient .terse quiet := by
    constructor <;> decide
  have htext : Json.write (quiet.abridged .terse) = quietText := by decide
  have hparse := ((parse_restores quiet).1 hvalid).1 .terse hm
  rw [htext] at hparse
  obtain ⟨fault, hf, hrefused⟩ := (parse_restores hopeless).2 hinvalid hq
  cases hf with
  | noVersions _ => exact ⟨⟨hvalid, hm, hparse⟩, hinvalid, hq, hrefused⟩
  | zeroRecords h _ => exact absurd rfl h
  | unknownLevel h _ _ => exact absurd rfl h

end NetFlowConfig
end NetFlow
