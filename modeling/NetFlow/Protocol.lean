import NetFlow.Flow

/-! Names of the protocols that flows carry. -/
namespace NetFlow.Protocol

def name? : UInt8 → Option String
  | 1 => some "icmp"
  | 2 => some "igmp"
  | 6 => some "tcp"
  | 17 => some "udp"
  | 41 => some "ipv6"
  | 47 => some "gre"
  | 50 => some "esp"
  | 51 => some "ah"
  | 58 => some "icmpv6"
  | 89 => some "ospf"
  | 103 => some "pim"
  | 112 => some "vrrp"
  | 132 => some "sctp"
  | _ => none

def name (n : UInt8) : String := (name? n).getD s!"proto_{n}"

end NetFlow.Protocol

namespace NetFlow

def FlowRecord.protocolName (r : FlowRecord) : String := Protocol.name r.protocol

end NetFlow
