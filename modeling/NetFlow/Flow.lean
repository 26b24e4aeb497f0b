import NetFlow.Header

/-! Flow records: one layout per version, and a record of any version with what all
versions have in common. -/
namespace NetFlow

structure V1FlowRecord where
  srcAddr : Address
  dstAddr : Address
  nextHop : Address
  input : UInt16
  output : UInt16
  packets : UInt32
  octets : UInt32
  first : UInt32
  last : UInt32
  srcPort : UInt16
  dstPort : UInt16
  pad1 : UInt16
  protocol : UInt8
  tos : UInt8
  tcpFlags : UInt8
  pad2 : UInt8
  pad3 : UInt16
  reserved : UInt32
  deriving DecidableEq, Repr

structure V5FlowRecord where
  srcAddr : Address
  dstAddr : Address
  nextHop : Address
  input : UInt16
  output : UInt16
  packets : UInt32
  octets : UInt32
  first : UInt32
  last : UInt32
  srcPort : UInt16
  dstPort : UInt16
  pad1 : UInt8
  tcpFlags : UInt8
  protocol : UInt8
  tos : UInt8
  srcAs : UInt16
  dstAs : UInt16
  srcMask : UInt8
  dstMask : UInt8
  pad2 : UInt16
  deriving DecidableEq, Repr

structure V7FlowRecord where
  srcAddr : Address
  dstAddr : Address
  nextHop : Address
  input : UInt16
  output : UInt16
  packets : UInt32
  octets : UInt32
  first : UInt32
  last : UInt32
  srcPort : UInt16
  dstPort : UInt16
  pad : UInt16
  tcpFlags : UInt8
  protocol : UInt8
  tos : UInt8
  srcAs : UInt16
  dstAs : UInt16
  srcMask : UInt8
  dstMask : UInt8
  flags : UInt16
  routerSc : Address
  deriving DecidableEq, Repr

@[reducible] def V1FlowRecord.schema : Schema :=
  .plain "V1FlowRecord" "NetFlow v1 flow record"
    [⟨"src_addr", .addr⟩, ⟨"dst_addr", .addr⟩, ⟨"next_hop", .addr⟩, ⟨"input", .u16⟩,
      ⟨"output", .u16⟩, ⟨"packets", .u32⟩, ⟨"octets", .u32⟩, ⟨"first", .u32⟩, ⟨"last", .u32⟩,
      ⟨"src_port", .u16⟩, ⟨"dst_port", .u16⟩, ⟨"pad1", .u16⟩, ⟨"protocol", .u8⟩, ⟨"tos", .u8⟩,
      ⟨"tcp_flags", .u8⟩, ⟨"pad2", .u8⟩, ⟨"pad3", .u16⟩, ⟨"reserved", .u32⟩]

@[reducible] def V5FlowRecord.schema : Schema :=
  .plain "V5FlowRecord" "NetFlow v5 flow record"
    [⟨"src_addr", .addr⟩, ⟨"dst_addr", .addr⟩, ⟨"next_hop", .addr⟩, ⟨"input", .u16⟩,
      ⟨"output", .u16⟩, ⟨"packets", .u32⟩, ⟨"octets", .u32⟩, ⟨"first", .u32⟩, ⟨"last", .u32⟩,
      ⟨"src_port", .u16⟩, ⟨"dst_port", .u16⟩, ⟨"pad1", .u8⟩, ⟨"tcp_flags", .u8⟩,
      ⟨"protocol", .u8⟩, ⟨"tos", .u8⟩, ⟨"src_as", .u16⟩, ⟨"dst_as", .u16⟩, ⟨"src_mask", .u8⟩,
      ⟨"dst_mask", .u8⟩, ⟨"pad2", .u16⟩]

@[reducible] def V7FlowRecord.schema : Schema :=
  .plain "V7FlowRecord" "NetFlow v7 flow record"
    [⟨"src_addr", .addr⟩, ⟨"dst_addr", .addr⟩, ⟨"next_hop", .addr⟩, ⟨"input", .u16⟩,
      ⟨"output", .u16⟩, ⟨"packets", .u32⟩, ⟨"octets", .u32⟩, ⟨"first", .u32⟩, ⟨"last", .u32⟩,
      ⟨"src_port", .u16⟩, ⟨"dst_port", .u16⟩, ⟨"pad", .u16⟩, ⟨"tcp_flags", .u8⟩,
      ⟨"protocol", .u8⟩, ⟨"tos", .u8⟩, ⟨"src_as", .u16⟩, ⟨"dst_as", .u16⟩, ⟨"src_mask", .u8⟩,
      ⟨"dst_mask", .u8⟩, ⟨"flags", .u16⟩, ⟨"router_sc", .addr⟩]

instance : Record V1FlowRecord where
  schema := V1FlowRecord.schema
  toRow r :=
    (r.srcAddr, r.dstAddr, r.nextHop, r.input, r.output, r.packets, r.octets, r.first, r.last,
     r.srcPort, r.dstPort, r.pad1, r.protocol, r.tos, r.tcpFlags, r.pad2, r.pad3, r.reserved, ())
  ofRow :=
    fun (srcAddr, dstAddr, nextHop, input, output, packets, octets, first, last, srcPort, dstPort,
     pad1, protocol, tos, tcpFlags, pad2, pad3, reserved, ()) =>
      ⟨srcAddr, dstAddr, nextHop, input, output, packets, octets, first, last, srcPort, dstPort,
       pad1, protocol, tos, tcpFlags, pad2, pad3, reserved⟩
  ofRow_toRow _ := rfl
  toRow_ofRow _ := rfl

instance : Record V5FlowRecord where
  schema := V5FlowRecord.schema
  toRow r :=
    (r.srcAddr, r.dstAddr, r.nextHop, r.input, r.output, r.packets, r.octets, r.first, r.last,
     r.srcPort, r.dstPort, r.pad1, r.tcpFlags, r.protocol, r.tos, r.srcAs, r.dstAs, r.srcMask,
     r.dstMask, r.pad2, ())
  ofRow :=
    fun (srcAddr, dstAddr, nextHop, input, output, packets, octets, first, last, srcPort, dstPort,
     pad1, tcpFlags, protocol, tos, srcAs, dstAs, srcMask, dstMask, pad2, ()) =>
      ⟨srcAddr, dstAddr, nextHop, input, output, packets, octets, first, last, srcPort, dstPort,
       pad1, tcpFlags, protocol, tos, srcAs, dstAs, srcMask, dstMask, pad2⟩
  ofRow_toRow _ := rfl
  toRow_ofRow _ := rfl

instance : Record V7FlowRecord where
  schema := V7FlowRecord.schema
  toRow r :=
    (r.srcAddr, r.dstAddr, r.nextHop, r.input, r.output, r.packets, r.octets, r.first, r.last,
     r.srcPort, r.dstPort, r.pad, r.tcpFlags, r.protocol, r.tos, r.srcAs, r.dstAs, r.srcMask,
     r.dstMask, r.flags, r.routerSc, ())
  ofRow :=
    fun (srcAddr, dstAddr, nextHop, input, output, packets, octets, first, last, srcPort, dstPort,
     pad, tcpFlags, protocol, tos, srcAs, dstAs, srcMask, dstMask, flags, routerSc, ()) =>
      ⟨srcAddr, dstAddr, nextHop, input, output, packets, octets, first, last, srcPort, dstPort,
       pad, tcpFlags, protocol, tos, srcAs, dstAs, srcMask, dstMask, flags, routerSc⟩
  ofRow_toRow _ := rfl
  toRow_ofRow _ := rfl

def V1FlowRecord.text (r : V1FlowRecord) : String :=
  s!"{r.srcAddr}:{r.srcPort} -> {r.dstAddr}:{r.dstPort}"

def V5FlowRecord.text (r : V5FlowRecord) : String :=
  s!"{r.srcAddr}/{r.srcMask}:{r.srcPort} -> {r.dstAddr}/{r.dstMask}:{r.dstPort}"

def V7FlowRecord.text (r : V7FlowRecord) : String :=
  s!"{r.srcAddr}/{r.srcMask}:{r.srcPort} -> {r.dstAddr}/{r.dstMask}:{r.dstPort}"

inductive FlowRecord where
  | v1 (r : V1FlowRecord)
  | v5 (r : V5FlowRecord)
  | v7 (r : V7FlowRecord)
  deriving DecidableEq, Repr

def Version.recordLen : Version → Nat
  | .v1 => (Record.layout V1FlowRecord).len
  | .v5 => (Record.layout V5FlowRecord).len
  | .v7 => (Record.layout V7FlowRecord).len

namespace FlowRecord

def version : FlowRecord → Version
  | .v1 _ => .v1
  | .v5 _ => .v5
  | .v7 _ => .v7

def srcAddr : FlowRecord → Address
  | .v1 r => r.srcAddr
  | .v5 r => r.srcAddr
  | .v7 r => r.srcAddr

def dstAddr : FlowRecord → Address
  | .v1 r => r.dstAddr
  | .v5 r => r.dstAddr
  | .v7 r => r.dstAddr

def srcPort : FlowRecord → UInt16
  | .v1 r => r.srcPort
  | .v5 r => r.srcPort
  | .v7 r => r.srcPort

def dstPort : FlowRecord → UInt16
  | .v1 r => r.dstPort
  | .v5 r => r.dstPort
  | .v7 r => r.dstPort

def protocol : FlowRecord → UInt8
  | .v1 r => r.protocol
  | .v5 r => r.protocol
  | .v7 r => r.protocol

def packets : FlowRecord → UInt32
  | .v1 r => r.packets
  | .v5 r => r.packets
  | .v7 r => r.packets

def octets : FlowRecord → UInt32
  | .v1 r => r.octets
  | .v5 r => r.octets
  | .v7 r => r.octets

def layout : Version → Layout
  | .v1 => Record.layout V1FlowRecord
  | .v5 => Record.layout V5FlowRecord
  | .v7 => Record.layout V7FlowRecord

def encode : FlowRecord → List UInt8
  | .v1 r => Record.encode r
  | .v5 r => Record.encode r
  | .v7 r => Record.encode r

def encodedLen (r : FlowRecord) : Nat := r.version.recordLen

def encodeInto (buffer : List UInt8) (r : FlowRecord) : List UInt8 :=
  match r with
  | .v1 r => Record.encodeInto buffer r
  | .v5 r => Record.encodeInto buffer r
  | .v7 r => Record.encodeInto buffer r

def fieldValues : FlowRecord → List (String × FieldValue)
  | .v1 r => Record.fieldValues r
  | .v5 r => Record.fieldValues r
  | .v7 r => Record.fieldValues r

def readAs : Version → ReadM FlowRecord
  | .v1 => .v1 <$> Record.read V1FlowRecord
  | .v5 => .v5 <$> Record.read V5FlowRecord
  | .v7 => .v7 <$> Record.read V7FlowRecord

def text : FlowRecord → String
  | .v1 r => r.text
  | .v5 r => r.text
  | .v7 r => r.text

def inspect (r : FlowRecord) : String :=
  let s := match r with
    | .v1 r => Record.inspect r
    | .v5 r => Record.inspect r
    | .v7 r => Record.inspect r
  s!"{r.version.inspect}({s})"

end FlowRecord
end NetFlow
