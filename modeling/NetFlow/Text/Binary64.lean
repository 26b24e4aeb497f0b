import NetFlow.Text.Decimal

/-! Binary floating-point numbers of 64 bits as a significand and a power of two,
and the rounding of exact ratios and decimals to them. Nothing here depends on a
machine's arithmetic. -/
namespace NetFlow

/-- A finite number is `significand * 2 ^ exponent`, the significand below `2 ^ 53`. -/
inductive Binary64 where
  | finite (negative : Bool) (significand : Nat) (exponent : Int)
  | infinite (negative : Bool)
  | nan
  deriving DecidableEq, Repr

namespace Binary64

/-- The integer nearest to `num / den`; a half goes to the even neighbour. -/
def roundDiv (num den : Nat) : Nat :=
  let q := num / den
  let r := num % den
  if 2 * r < den then q
  else if den < 2 * r then q + 1
  else if q % 2 = 0 then q else q + 1

def scaleDiv (num den : Nat) (e : Int) : Nat :=
  if 0 ≤ e then roundDiv num (den * Nat.pow 2 e.toNat)
  else roundDiv (num * Nat.pow 2 (-e).toNat) den

/-- The largest `e` with `2 ^ e * den ≤ num`, for positive `num` and `den`. -/
def floorLog (num den : Nat) : Int :=
  let e : Int := (num.log2 : Int) - (den.log2 : Int)
  let fits := if 0 ≤ e then den * Nat.pow 2 e.toNat ≤ num else den ≤ num * Nat.pow 2 (-e).toNat
  if fits then e else e - 1

def leastExponent : Int := -1074

def greatestExponent : Int := 971

def ofRatio (negative : Bool) (num den : Nat) (shift : Int) : Binary64 :=
  if num = 0 then .finite negative 0 leastExponent
  else
    let e := max (floorLog num den + shift - 52) leastExponent
    let m := scaleDiv num den (e - shift)
    let (m, e) := if m = Nat.pow 2 53 then (Nat.pow 2 52, e + 1) else (m, e)
    if greatestExponent < e then .infinite negative else .finite negative m e

/-- The number nearest to `m * 10 ^ e`. Far outside the range of the format the
answer is settled by the number of digits alone. -/
def ofDecimal (negative : Bool) (m : Nat) (e : Int) : Binary64 :=
  let magnitude := ((Decimal.digits m).length : Int) + e
  if m = 0 ∨ magnitude < -400 then .finite negative 0 leastExponent
  else if 400 < magnitude then .infinite negative
  else if 0 ≤ e then ofRatio negative (m * Nat.pow 10 e.toNat) 1 0
  else ofRatio negative m (Nat.pow 10 (-e).toNat) 0

def isFinite : Binary64 → Bool
  | .finite _ _ _ => true
  | _ => false

def isZero : Binary64 → Bool
  | .finite _ m _ => m == 0
  | _ => false

def negate : Binary64 → Binary64
  | .finite s m e => .finite (!s) m e
  | .infinite s => .infinite (!s)
  | .nan => .nan

def mul : Binary64 → Binary64 → Binary64
  | .finite s m e, .finite t n f => ofRatio (s != t) (m * n) 1 (e + f)
  | _, _ => .nan

def div : Binary64 → Binary64 → Binary64
  | .finite s m e, .finite t n f => ofRatio (s != t) m n (e - f)
  | _, _ => .nan

/-- The integer part, kept within `0 … max`; what is no number counts as zero. -/
def clamp (max : Nat) : Binary64 → Nat
  | .finite true _ _ => 0
  | .finite false m e =>
    min max (if 0 ≤ e then m * Nat.pow 2 e.toNat else m / Nat.pow 2 (-e).toNat)
  | .infinite true => 0
  | .infinite false => max
  | .nan => 0

end Binary64
end NetFlow
