import NetFlow.Json5.Values
import NetFlow.Version

/-! Everything that can go wrong with packets and with their configuration, and the
one place where it is put into words. -/
namespace NetFlow

inductive ConfigFault where
  | noVersions
  | zeroRecords
  | unknownLevel (level : String)
  | unreadable (path reason : String)
  | loggingInstalled
  deriving DecidableEq, Repr

inductive Error where
  /-- The source ended inside a field. -/
  | shortRead (field : String) (offset width : Nat) (cause : String)
  /-- The source failed inside a field. -/
  | io (field : String) (offset : Nat) (cause : String)
  | unsupportedVersion (tag : UInt16)
  | versionDisabled (v : Version)
  | tooManyRecords (v : Version) (count max : UInt16)
  | trailingBytes (n : Nat)
  | versionMismatch (header record : Version)
  | config (fault : ConfigFault)
  | unreadableText (p : Problem)
  deriving DecidableEq, Repr

def ConfigFault.message : ConfigFault → String
  | .noVersions => "At least one NetFlow version must be enabled"
  | .zeroRecords => "max_records must be greater than zero"
  | .unknownLevel level => s!"Unknown log level '{level}'"
  | .unreadable path reason => s!"Failed to read config file '{path}': {reason}"
  | .loggingInstalled =>
    "Failed to initialize tracing: a global default trace dispatcher has already been set"

namespace Error

def message : Error → String
  | .shortRead field offset width _ =>
    s!"Short read on field '{field}' at offset {offset}: needed {width} bytes"
  | .io field offset cause => s!"I/O error on field '{field}' at offset {offset}: {cause}"
  | .unsupportedVersion tag => s!"Unsupported NetFlow version: {tag}"
  | .versionDisabled v => s!"NetFlow {v} is disabled by configuration"
  | .tooManyRecords v count max => s!"NetFlow {v} packet announces {count} records (max: {max})"
  | .trailingBytes n => s!"{n} trailing bytes after last flow record"
  | .versionMismatch header record =>
    s!"Record version {record} does not match header version {header}"
  | .config fault => "Configuration error: " ++ fault.message
  | .unreadableText .malformed => "Failed to parse configuration: malformed text"
  | .unreadableText (.contents c) =>
    "Failed to parse configuration: " ++ c.message Json5.wording

def field? : Error → Option String
  | .shortRead field _ _ _ => some field
  | .io field _ _ => some field
  | _ => none

def cause? : Error → Option String
  | .shortRead _ _ _ cause => some cause
  | .io _ _ cause => some cause
  | _ => none

def isShortRead : Error → Bool
  | .shortRead _ _ _ _ => true
  | _ => false

end Error
end NetFlow
