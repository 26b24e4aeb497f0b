/-! Code units of which two stand for one character. -/
namespace NetFlow.Surrogate

def isLead (n : Nat) : Bool := 0xD800 ≤ n && n < 0xDC00

def isTrail (n : Nat) : Bool := 0xDC00 ≤ n && n < 0xE000

def pair (lead trail : Nat) : Char :=
  Char.ofNat (0x10000 + (lead - 0xD800) * 0x400 + (trail - 0xDC00))

theorem isLead_of_lt {n : Nat} (h : n < 0xD800) : isLead n = false := by
  simp [isLead, Nat.not_le.mpr h]

theorem isTrail_of_lt {n : Nat} (h : n < 0xDC00) : isTrail n = false := by
  simp [isTrail, Nat.not_le.mpr h]

end NetFlow.Surrogate
