import NetFlow.Header

/-! Editing headers step by step: new values for the common fields, and passing through
the wire form. Values are set through the header, whatever its version, or in the record
of a version that it holds. -/
namespace NetFlow

inductive HeaderSetting where
  | version (n : UInt16)
  | count (n : UInt16)
  | sysUptime (n : UInt32)
  deriving DecidableEq, Repr

inductive HeaderEdit where
  | set (x : HeaderSetting)
  | setInside (x : HeaderSetting)
  | redecode
  deriving DecidableEq, Repr

def HeaderBase.set (x : HeaderSetting) (b : HeaderBase) : HeaderBase :=
  match x with
  | .version n => { b with version := n }
  | .count n => { b with count := n }
  | .sysUptime n => { b with sysUptime := n }

def V5Header.set (x : HeaderSetting) (h : V5Header) : V5Header := { h with base := h.base.set x }

def V7Header.set (x : HeaderSetting) (h : V7Header) : V7Header := { h with base := h.base.set x }

namespace Header

def set (x : HeaderSetting) (h : Header) : Header :=
  match x with
  | .version n => h.setVersion n
  | .count n => h.setCount n
  | .sysUptime n => h.setSysUptime n

def setInside (x : HeaderSetting) : Header → Header
  | .v1 h => .v1 (h.set x)
  | .v5 h => .v5 (h.set x)
  | .v7 h => .v7 (h.set x)

/-- The header decoded from its own encoding, in the same variant. -/
def redecode (h : Header) : Except Error Header :=
  match readAs h.kind (.start (.ofBytes h.encode)) with
  | .ok h _ => .ok h
  | .error e _ => .error e

def edit (h : Header) : HeaderEdit → Except Error Header
  | .set x => .ok (h.set x)
  | .setInside x => .ok (h.setInside x)
  | .redecode => h.redecode

def editAll (h : Header) (es : List HeaderEdit) : Except Error Header := es.foldlM edit h

end Header
end NetFlow
