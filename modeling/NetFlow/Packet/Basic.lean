import NetFlow.Flow

/-! Packets: a header and flow records behind it. -/
namespace NetFlow

/-- A header with records. Tag and count in the header need not fit the rest; packets
from `build` and from a decoder are consistent. -/
structure Packet where
  header : Header
  records : List FlowRecord
  deriving DecidableEq, Repr

namespace Packet

def version (p : Packet) : Version := p.header.kind

/-- Makes a packet of records of the header's version, no more than the version allows,
and sets tag and count accordingly. -/
def build (h : Header) (rs : List FlowRecord) : Except Error Packet :=
  match rs.find? fun r => r.version != h.kind with
  | some r => .error (.versionMismatch h.kind r.version)
  | none =>
    let max := h.kind.maxRecords
    if max.toNat < rs.length then
      .error (.tooManyRecords h.kind (UInt16.ofNat (min rs.length (UInt16.size - 1))) max)
    else
      .ok ⟨(h.setVersion h.kind.number).setCount (UInt16.ofNat rs.length), rs⟩

def encode (p : Packet) : List UInt8 :=
  p.records.foldl FlowRecord.encodeInto (p.header.encodeInto [])

def encodedLen (p : Packet) : Nat :=
  p.records.foldl (fun n r => n + r.encodedLen) p.header.encodedLen

def inspect (p : Packet) : String :=
  "Packet \x7b header: " ++ p.header.inspect ++ ", records: [" ++
    ", ".intercalate (p.records.map FlowRecord.inspect) ++ "] \x7d"

end Packet
end NetFlow
