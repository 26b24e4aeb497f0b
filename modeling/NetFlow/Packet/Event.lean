import NetFlow.Version

/-! What a decoder notes down while it works. -/
namespace NetFlow

inductive Event where
  | decoded (v : Version) (records bytes : Nat)
  | dropped (v : Version)
  | ignored (bytes : Nat) (v : Version)
  | rejected (v : Version) (bytes : Nat)
  deriving DecidableEq, Repr

namespace Event

def level : Event → String
  | .decoded _ _ _ => "TRACE"
  | _ => "DEBUG"

def text : Event → String
  | .decoded v records bytes =>
    s!"Decoded NetFlow {v} packet with {records} records ({bytes} bytes)"
  | .dropped v => s!"Dropping NetFlow {v} packet: version disabled"
  | .ignored bytes v => s!"Ignoring {bytes} trailing bytes after NetFlow {v} packet"
  | .rejected v bytes => s!"Rejecting NetFlow {v} packet with {bytes} trailing bytes"

end Event
end NetFlow
