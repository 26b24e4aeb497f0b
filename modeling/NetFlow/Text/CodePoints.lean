/-! Sets of characters given by the code points at which membership changes. -/
namespace NetFlow.CodePoints

/-- Whether `c` lies inside, for boundaries in ascending order: the first one
enters the set, the next one leaves it, and so on. -/
def inside (c : Nat) (now : Bool) : List Nat → Bool
  | [] => now
  | b :: bs => if c < b then now else inside c (!now) bs

def holds (boundaries : List Nat) (c : Char) : Bool := inside c.toNat false boundaries

end NetFlow.CodePoints
