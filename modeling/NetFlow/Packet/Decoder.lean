import NetFlow.Config.Basic
import NetFlow.Packet.Basic
import NetFlow.Packet.Event

/-! Decoding packets. The common part of the header decides about the version and the
number of records before anything else is read. -/
namespace NetFlow

structure Decoding where
  reader : Reader
  events : List Event

abbrev DecodeM := EStateM Error Decoding

namespace Decoding

def start (s : Source) : Decoding := ⟨.start s, []⟩

@[inline] def lift {α : Type} (read : ReadM α) : DecodeM α := fun d =>
  match read d.reader with
  | .ok a r => .ok a ⟨r, d.events⟩
  | .error e r => .error e ⟨r, d.events⟩

def emit (e : Event) : DecodeM Unit := modify fun d => ⟨d.reader, d.events ++ [e]⟩

end Decoding

structure Outcome where
  result : Except Error Packet
  events : List Event

def Outcome.ofResult : EStateM.Result Error Decoding Packet → Outcome
  | .ok p d => ⟨.ok p, d.events⟩
  | .error e d => ⟨.error e, d.events⟩

namespace DecoderConfig
variable (c : DecoderConfig)

def acceptedVersion (b : HeaderBase) : DecodeM Version := do
  match Version.ofNumber? b.version with
  | none => throw (.unsupportedVersion b.version)
  | some v =>
    if !c.accepts v then
      Decoding.emit (.dropped v)
      throw (.versionDisabled v)
    let max := c.maxRecordsFor v
    if max < b.count then throw (.tooManyRecords v b.count max)
    return v

def readPacket : DecodeM Packet := do
  let b ← Decoding.lift (Record.read HeaderBase)
  let v ← c.acceptedVersion b
  let h ← Decoding.lift (Header.readAfterBase b v)
  let rs ← Decoding.lift (Reader.times (FlowRecord.readAs v) b.count.toNat)
  Decoding.emit (.decoded v rs.length (← get).reader.offset)
  return ⟨h, rs⟩

/-- Bytes behind the packet are let pass or refused. -/
def finish (size : Nat) (p : Packet) : DecodeM Packet := do
  let trailing := size - (← get).reader.offset
  if trailing = 0 then return p
  if c.allowTrailingBytes then
    Decoding.emit (.ignored trailing p.version)
    return p
  Decoding.emit (.rejected p.version trailing)
  throw (.trailingBytes trailing)

def decode (data : List UInt8) : Outcome :=
  .ofResult ((c.readPacket >>= c.finish data.length) (.start (.ofBytes data)))

/-- Decodes one packet from a source and returns the source as it is then. -/
def decodeFrom (s : Source) : Outcome × Source :=
  match c.readPacket (.start s) with
  | .ok p d => (⟨.ok p, d.events⟩, d.reader.source)
  | .error e d => (⟨.error e, d.events⟩, d.reader.source)

/-- Decodes packet after packet, until one fails or `n` are there. -/
def decodeMany : Nat → Source → List Outcome × Source
  | 0, s => ([], s)
  | n + 1, s =>
    let (o, s) := c.decodeFrom s
    match o.result with
    | .ok _ =>
      let (os, s) := decodeMany n s
      (o :: os, s)
    | .error _ => ([o], s)

end DecoderConfig
end NetFlow
