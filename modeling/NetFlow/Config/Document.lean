import NetFlow.Config.Basic
import NetFlow.Config.FileTree
import NetFlow.Packet.Document

/-! Settings as documents, in JSON and in JSON5. A section that is left out takes its default as
a whole; within a section each setting has a default of its own. -/
namespace NetFlow

namespace DecoderConfig

def toDocument (c : DecoderConfig) : Document :=
  .ofMembers [("versions", .array (c.versions.map Version.toDocument)),
    ("max_records", match c.maxRecords with | some n => .ofNat n.toNat | none => .null),
    ("allow_trailing_bytes", .bool c.allowTrailingBytes)]

def ofDocument (x : Dialect) (d : Document) : Except Problem DecoderConfig := do
  let ms ← x.members "struct DecoderConfig"
    [("versions", fun d => discard (x.list (Version.ofDocument x) d)),
      ("max_records", fun d => discard (Document.optional x.word16 d)),
      ("allow_trailing_bytes", fun d => discard (x.bool d))] d
  let versions ← ms.getD 0 "versions" defaultVersions (x.list (Version.ofDocument x))
  let maxRecords ← ms.getD 1 "max_records" none (Document.optional x.word16)
  let allow ← ms.getD 2 "allow_trailing_bytes" true x.bool
  x.finish 3 ms
  return ⟨versions, maxRecords, allow⟩

end DecoderConfig

namespace LogFormat

def toDocument (f : LogFormat) : Document := .ofString f.name

def ofDocument (x : Dialect) (d : Document) : Except Problem LogFormat := do
  let name ← x.choice (all.map LogFormat.name) d
  return (all.find? fun f => f.name == name).getD .text

end LogFormat

namespace LoggingConfig

def toDocument (c : LoggingConfig) : Document :=
  .ofMembers [("level", .ofString c.level), ("format", c.format.toDocument)]

def ofDocument (x : Dialect) (d : Document) : Except Problem LoggingConfig := do
  let ms ← x.members "struct LoggingConfig"
    [("level", fun d => discard (x.string d)),
      ("format", fun d => discard (LogFormat.ofDocument x d))] d
  let level ← ms.getD 0 "level" defaultLevel x.string
  let format ← ms.getD 1 "format" .default (LogFormat.ofDocument x)
  x.finish 2 ms
  return ⟨level, format⟩

end LoggingConfig

namespace NetFlowConfig

def toDocument (c : NetFlowConfig) : Document :=
  .ofMembers [("decoder", c.decoder.toDocument), ("logging", c.logging.toDocument)]

def ofDocument (x : Dialect) (d : Document) : Except Problem NetFlowConfig := do
  let ms ← x.members "struct NetFlowConfig"
    [("decoder", fun d => discard (DecoderConfig.ofDocument x d)),
      ("logging", fun d => discard (LoggingConfig.ofDocument x d))] d
  let decoder ← ms.getD 0 "decoder" .default (DecoderConfig.ofDocument x)
  let logging ← ms.getD 1 "logging" .default (LoggingConfig.ofDocument x)
  x.finish 2 ms
  return ⟨decoder, logging⟩

def parse (text : String) : Except Error NetFlowConfig :=
  match Json5.read (ofDocument Json5.dialect) text with
  | .error p => .error (.unreadableText p)
  | .ok c => do
    c.validate
    return c

def ofBytes (path : String) (bytes : ByteArray) : Except Error NetFlowConfig :=
  match String.fromUTF8? bytes with
  | some text => parse text
  | none => .error (.config (.unreadable path "stream did not contain valid UTF-8"))

def load (files : FileSystem) (path : String) : Except Error NetFlowConfig :=
  match files.contents path with
  | .ok bytes => ofBytes path bytes
  | .error fault => .error (.config (.unreadable path fault.message))

end NetFlowConfig
end NetFlow
