import NetFlow.Proofs.Config.Parsing
import NetFlow.Proofs.Packet.Stream

/-! The checks of the decoder's settings refuse those under which no flow could ever be
reported. Settings that pass them report every flow of every version they name. -/
namespace NetFlow

def FlowRecord.zero : Version → FlowRecord
  | .v1 => .v1 (Record.zero _)
  | .v5 => .v5 (Record.zero _)
  | .v7 => .v7 (Record.zero _)

theorem FlowRecord.version_zero (v : Version) : (zero v).version = v := by
  cases v <;> rfl

def Header.zero : Version → Header
  | .v1 => .v1 (Record.zero _)
  | .v5 => .v5 (Record.zero _)
  | .v7 => .v7 (Record.zero _)

theorem Header.kind_zero (v : Version) : (zero v).kind = v := by
  cases v <;> rfl

namespace Packet
variable {h : Header} {r : FlowRecord} {p : Packet}

theorem exists_build_single (hr : r.version = h.kind) :
    ∃ p, build h [r] = .ok p ∧ p.records = [r] := by
  have hone : 1 ≤ h.kind.maxRecords.toNat := by
    cases h.kind <;> decide
  exact ⟨_, build_ok_iff.mpr ⟨by simpa using hr, hone, rfl⟩, rfl⟩

end Packet

namespace DecoderConfig
variable {c : DecoderConfig} {p : Packet} {bs : List UInt8}

/-- There are bytes from which the decoder gets records. -/
def Usable (c : DecoderConfig) : Prop :=
  ∃ bs p, (c.decode bs).result = .ok p ∧ p.records ≠ []

theorem one_le_maxRecordsFor (hm : c.maxRecords ≠ some 0) (v : Version) :
    1 ≤ (c.maxRecordsFor v).toNat := by
  unfold maxRecordsFor
  cases hc : c.maxRecords with
  | none => cases v <;> decide
  | some n =>
    have hn : n ≠ 0 := by
      intro h0
      exact hm (h0 ▸ hc)
    exact Nat.one_le_iff_ne_zero.mpr fun h0 => hn (UInt16.toNat_inj.mp h0)

theorem decode_build {h : Header} {rs : List FlowRecord} (hv : h.kind ∈ c.versions)
    (hl : rs.length ≤ (c.maxRecordsFor h.kind).toNat) (hb : Packet.build h rs = .ok p) :
    (c.decode p.encode).result = .ok p := by
  obtain ⟨-, -, rfl⟩ := Packet.build_ok_iff.mp hb
  have hk : (Packet.mk (h.stamp rs.length) rs).version = h.kind := h.kind_stamp rs.length
  apply Takes.decode_encode
  apply takes_of_build ⟨h, rs, hb⟩
  · rw [hk]
    exact (c.accepts_iff _).mpr hv
  · rw [hk]
    exact hl

theorem exists_decode_single (hm : c.maxRecords ≠ some 0) {h : Header} {r : FlowRecord}
    (hv : h.kind ∈ c.versions) (hr : r.version = h.kind) :
    ∃ p, Packet.build h [r] = .ok p ∧ p.records = [r] ∧
      (c.decode p.encode).result = .ok p := by
  obtain ⟨p, hb, hp⟩ := Packet.exists_build_single hr
  have hl : [r].length ≤ (c.maxRecordsFor h.kind).toNat := one_le_maxRecordsFor hm h.kind
  exact ⟨p, hb, hp, decode_build hv hl hb⟩

theorem versions_ne_nil_of_decode (h : (c.decode bs).result = .ok p) : c.versions ≠ [] := by
  obtain ⟨ht, -⟩ := takes_of_decode h
  exact List.ne_nil_of_mem ((c.accepts_iff _).mp ht.accepted)

theorem records_eq_nil_of_decode (hm : c.maxRecords = some 0)
    (h : (c.decode bs).result = .ok p) : p.records = [] := by
  obtain ⟨ht, -⟩ := takes_of_decode h
  have hcount := ht.count
  simp only [maxRecordsFor, hm, Option.getD_some] at hcount
  exact List.eq_nil_of_length_eq_zero (Nat.le_zero.mp hcount)

theorem usable_iff : c.Usable ↔ c.versions ≠ [] ∧ c.maxRecords ≠ some 0 := by
  constructor
  · intro h
    obtain ⟨bs, p, h, hp⟩ := h
    exact ⟨versions_ne_nil_of_decode h, fun hm => hp (records_eq_nil_of_decode hm h)⟩
  · intro h
    obtain ⟨hv, hm⟩ := h
    obtain ⟨v, hv⟩ := List.exists_mem_of_ne_nil _ hv
    -- Any header and record of the version would do.
    rw [← Header.kind_zero v] at hv
    have hr : (FlowRecord.zero v).version = (Header.zero v).kind := by
      rw [FlowRecord.version_zero, Header.kind_zero]
    obtain ⟨p, -, hp, hd⟩ := exists_decode_single hm hv hr
    exact ⟨_, p, hd, by simp [hp]⟩

/-- The checks pass exactly the settings that are of any use. Under settings that were read from
a text, each flow of each version that they name is reported; without versions nothing is
decoded, and with room for no records only packets without any. -/
theorem checks_iff_usable (d : DecoderConfig) :
    (∀ l : LoggingConfig, LoggingConfig.isLevel l.level = true →
      ((NetFlowConfig.mk d l).validate = .ok () ↔ d.Usable)) ∧
    (d.versions ≠ [] ∧ d.maxRecords ≠ some 0 ↔ d.Usable) ∧
    (∀ text c, NetFlowConfig.parse text = .ok c → c.validate = .ok () ∧
      ∀ v ∈ c.decoder.versions, ∀ (h : Header) (r : FlowRecord), h.kind = v → r.version = v →
        ∃ p, Packet.build h [r] = .ok p ∧ (c.decoder.decode p.encode).result = .ok p) ∧
    (d.versions = [] → ∀ bs p, (d.decode bs).result ≠ .ok p) ∧
    (d.maxRecords = some 0 →
      (∀ bs p, (d.decode bs).result = .ok p → p.records = []) ∧
      ∀ h p, h.kind ∈ d.versions → Packet.build h [] = .ok p →
        (d.decode p.encode).result = .ok p) := by
  refine ⟨?_, usable_iff.symm, ?_, ?_, ?_⟩
  · intro l hl
    rw [NetFlowConfig.validate_ok_iff, usable_iff]
    simp [hl]
  · intro text c hc
    have hvalid := NetFlowConfig.validate_of_parse hc
    obtain ⟨-, hm, -⟩ := NetFlowConfig.validate_ok_iff.mp hvalid
    refine ⟨hvalid, ?_⟩
    intro v hv h r hk hr
    subst hk
    obtain ⟨p, hb, -, hd⟩ := exists_decode_single hm hv hr
    exact ⟨p, hb, hd⟩
  · intro hv bs p h
    exact versions_ne_nil_of_decode h hv
  · intro hm
    refine ⟨fun bs p h => records_eq_nil_of_decode hm h, ?_⟩
    intro h p hv hb
    exact decode_build hv (Nat.zero_le _) hb

theorem checks_iff_usable_default :
    (NetFlowConfig.parse (Json.write NetFlowConfig.default.toDocument) = .ok .default ∧
      default.Usable ∧ ∃ p, Packet.build (.zero .v5) [.zero .v5] = .ok p ∧
        (default.decode p.encode).result = .ok p) ∧
    (∀ bs p, (({ default with versions := [] } : DecoderConfig).decode bs).result ≠ .ok p) ∧
    ∀ bs p, (({ default with maxRecords := some 0 } : DecoderConfig).decode bs).result = .ok p →
      p.records = [] := by
  have hlevel : LoggingConfig.isLevel LoggingConfig.default.level = true :=
    LoggingConfig.isLevel_iff.mpr (by decide)
  have hvalid : NetFlowConfig.default.validate = .ok () :=
    NetFlowConfig.validate_ok_iff.mpr ⟨by decide, by decide, hlevel⟩
  have hparse : NetFlowConfig.parse (Json.write NetFlowConfig.default.toDocument) =
      .ok .default := by
    rw [NetFlowConfig.parse_write (LoggingConfig.quotable_of_isLevel hlevel), hvalid]
    rfl
  obtain ⟨hvalidate, -, htext, -⟩ := checks_iff_usable default
  obtain ⟨-, hsingle⟩ := htext _ _ hparse
  obtain ⟨-, -, -, hnone, -⟩ := checks_iff_usable { default with versions := [] }
  obtain ⟨-, -, -, -, hzero⟩ := checks_iff_usable { default with maxRecords := some 0 }
  exact ⟨⟨hparse, (hvalidate .default hlevel).mp hvalid,
    hsingle .v5 (by decide) (.zero .v5) (.zero .v5) rfl rfl⟩, hnone rfl, (hzero rfl).1⟩

end DecoderConfig
end NetFlow
