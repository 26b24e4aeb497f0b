import NetFlow.Error

/-! Settings: which packets a decoder takes, and how events are logged. -/
namespace NetFlow

/-- Which packets a decoder takes. The list of versions is kept as it was given. -/
structure DecoderConfig where
  versions : List Version
  maxRecords : Option UInt16
  allowTrailingBytes : Bool
  deriving DecidableEq, Repr

namespace DecoderConfig

def defaultVersions : List Version := Version.all

def default : DecoderConfig := ⟨defaultVersions, none, true⟩

instance : Inhabited DecoderConfig := ⟨default⟩

def accepts (c : DecoderConfig) (v : Version) : Bool := c.versions.contains v

def maxRecordsFor (c : DecoderConfig) (v : Version) : UInt16 := c.maxRecords.getD v.maxRecords

/-- The first setting under which no packet with records could be decoded. -/
def fault? (c : DecoderConfig) : Option ConfigFault :=
  if c.versions.isEmpty then some .noVersions
  else if c.maxRecords = some 0 then some .zeroRecords
  else none

end DecoderConfig

inductive LogFormat where
  | text
  | json
  deriving DecidableEq, Repr

namespace LogFormat

def default : LogFormat := .text

def all : List LogFormat := [.text, .json]

def name : LogFormat → String
  | .text => "text"
  | .json => "json"

def inspect : LogFormat → String
  | .text => "Text"
  | .json => "Json"

end LogFormat

structure LoggingConfig where
  level : String
  format : LogFormat
  deriving DecidableEq, Repr

structure Subscriber where
  format : LogFormat
  filter : String
  deriving DecidableEq, Repr

namespace LoggingConfig

def defaultLevel : String := "info"

def default : LoggingConfig := ⟨defaultLevel, .default⟩

instance : Inhabited LoggingConfig := ⟨default⟩

def levels : List String := ["trace", "debug", "info", "warn", "error"]

/-- Levels are compared without regard to case. No character outside ASCII becomes one
of their letters in lower case, so ASCII case is enough. -/
def isLevel (s : String) : Bool := levels.contains s.toLower

def fault? (c : LoggingConfig) : Option ConfigFault :=
  if isLevel c.level then none else some (.unknownLevel c.level)

/-- A filter from the environment comes before the configured level. -/
def subscriber (c : LoggingConfig) (environment : Option String) : Subscriber :=
  ⟨c.format, environment.getD c.level⟩

/-- Installs the program's subscriber, unless it has one already. -/
def install (c : LoggingConfig) (environment : Option String) :
    EStateM Error (Option Subscriber) Unit := do
  match ← get with
  | none => set (some (c.subscriber environment))
  | some _ => throw (.config .loggingInstalled)

/-- Of two installations the second is refused, and the first takes effect only where nothing was
installed before. -/
theorem install_again (c d : LoggingConfig) (e f : Option String) (s : Option Subscriber) :
    (do c.install e; d.install f) s =
      .error (.config .loggingInstalled) (some (s.getD (c.subscriber e))) := by
  cases s <;> rfl

end LoggingConfig

structure NetFlowConfig where
  decoder : DecoderConfig
  logging : LoggingConfig
  deriving DecidableEq, Repr

namespace NetFlowConfig

def default : NetFlowConfig := ⟨.default, .default⟩

instance : Inhabited NetFlowConfig := ⟨default⟩

def validate (c : NetFlowConfig) : Except Error Unit :=
  match c.decoder.fault?.or c.logging.fault? with
  | some fault => .error (.config fault)
  | none => .ok ()

end NetFlowConfig
end NetFlow
