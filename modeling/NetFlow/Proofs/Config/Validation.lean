import NetFlow.Config.Basic

/-! Which settings pass the checks, and which check the others fail first. -/
namespace NetFlow

theorem DecoderConfig.fault?_eq_none_iff {c : DecoderConfig} :
    c.fault? = none ↔ c.versions ≠ [] ∧ c.maxRecords ≠ some 0 := by
  by_cases hv : c.versions = []
  · simp [fault?, hv]
  · by_cases hm : c.maxRecords = some 0 <;> simp [fault?, hv, hm]

theorem LoggingConfig.isLevel_iff {s : String} :
    isLevel s = true ↔ s.toList.map Char.toLower ∈ levels.map String.toList := by
  rw [← String.toList_map, isLevel, List.contains_iff_mem]
  constructor
  · exact List.mem_map_of_mem
  · intro h
    obtain ⟨l, hl, heq⟩ := List.mem_map.mp h
    obtain rfl := String.toList_inj.mp heq
    exact hl

theorem LoggingConfig.fault?_eq_none_iff {c : LoggingConfig} :
    c.fault? = none ↔ isLevel c.level = true := by
  simp [fault?]

namespace NetFlowConfig
variable {c : NetFlowConfig}

theorem validate_ok_iff : c.validate = .ok () ↔
    c.decoder.versions ≠ [] ∧ c.decoder.maxRecords ≠ some 0 ∧
      LoggingConfig.isLevel c.logging.level = true := by
  have hnone : c.validate = .ok () ↔ c.decoder.fault?.or c.logging.fault? = none := by
    unfold validate
    split <;> simp [*]
  rw [hnone, Option.or_eq_none_iff, DecoderConfig.fault?_eq_none_iff,
    LoggingConfig.fault?_eq_none_iff, and_assoc]

/-- What is wrong with settings in the first place: the versions come before the record limit,
and this before the level. -/
inductive FirstFault (c : NetFlowConfig) : ConfigFault → Prop where
  | noVersions : c.decoder.versions = [] → FirstFault c .noVersions
  | zeroRecords : c.decoder.versions ≠ [] → c.decoder.maxRecords = some 0 →
      FirstFault c .zeroRecords
  | unknownLevel : c.decoder.versions ≠ [] → c.decoder.maxRecords ≠ some 0 →
      LoggingConfig.isLevel c.logging.level = false →
      FirstFault c (.unknownLevel c.logging.level)

theorem FirstFault.validate {fault : ConfigFault} (h : c.FirstFault fault) :
    c.validate = .error (.config fault) := by
  cases h with
  | noVersions hv => simp [NetFlowConfig.validate, DecoderConfig.fault?, hv]
  | zeroRecords hv hm => simp [NetFlowConfig.validate, DecoderConfig.fault?, hv, hm]
  | unknownLevel hv hm hl =>
    simp [NetFlowConfig.validate, DecoderConfig.fault?, LoggingConfig.fault?, hv, hm, hl]

theorem exists_firstFault (h : c.validate ≠ .ok ()) : ∃ fault, c.FirstFault fault := by
  by_cases hv : c.decoder.versions = []
  · exact ⟨_, .noVersions hv⟩
  by_cases hm : c.decoder.maxRecords = some 0
  · exact ⟨_, .zeroRecords hv hm⟩
  cases hl : LoggingConfig.isLevel c.logging.level with
  | true => exact absurd (validate_ok_iff.mpr ⟨hv, hm, hl⟩) h
  | false => exact ⟨_, .unknownLevel hv hm hl⟩

end NetFlowConfig
end NetFlow
