import NetFlow.Proofs.Config.Document
import NetFlow.Proofs.Json.Lexing

/-! Values survive being written as JSON texts. -/
namespace NetFlow.Json
variable {α : Type}

/-- Every value is read from its own text. -/
def Restores (toDocument : α → Document) (ofDocument : Document → Except Problem α) : Prop :=
  ∀ a, read ofDocument (write (toDocument a)) = .ok a

theorem restores_of_transcribed {toDocument : α → Document}
    {ofDocument : Document → Except Problem α} (h : Transcribed toDocument ofDocument) :
    Restores toDocument ofDocument := by
  intro a
  rw [read_write ofDocument (h.isPlain a), h.ofDocument_toDocument]

/-- Packets of any parts, the parts themselves, addresses, versions and settings. -/
theorem restores_values :
    Restores Packet.toDocument Packet.ofDocument ∧
    Restores Header.toDocument Header.ofDocument ∧
    Restores FlowRecord.toDocument FlowRecord.ofDocument ∧
    Restores Record.toDocument (Record.ofDocument HeaderBase) ∧
    Restores Record.toDocument (Record.ofDocument V5Header) ∧
    Restores Record.toDocument (Record.ofDocument V7Header) ∧
    Restores Record.toDocument (Record.ofDocument V1FlowRecord) ∧
    Restores Record.toDocument (Record.ofDocument V5FlowRecord) ∧
    Restores Record.toDocument (Record.ofDocument V7FlowRecord) ∧
    Restores Address.toDocument Address.ofDocument ∧
    Restores Version.toDocument (Version.ofDocument dialect) ∧
    Restores DecoderConfig.toDocument (DecoderConfig.ofDocument dialect) := by
  refine ⟨restores_of_transcribed Packet.transcribed, restores_of_transcribed Header.transcribed,
    restores_of_transcribed FlowRecord.transcribed, ?_, ?_, ?_, ?_, ?_, ?_,
    restores_of_transcribed Address.transcribed,
    restores_of_transcribed (Version.transcribed word16_toNat),
    restores_of_transcribed (DecoderConfig.transcribed word16_toNat)⟩
  all_goals exact restores_of_transcribed (Record.transcribed (by decide))

example : write DecoderConfig.default.toDocument =
    "\x7b\"versions\":[1,5,7],\"max_records\":null,\"allow_trailing_bytes\":true\x7d" := by decide

end NetFlow.Json
