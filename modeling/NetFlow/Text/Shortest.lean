import NetFlow.Text.Binary64

/-! Writing binary floating-point numbers with the fewest decimal digits that
read back as the same number, and of those the nearest. -/
namespace NetFlow

/-- How a real number is written: for which decimal exponents without one, and
whether a tie between two shortest digit strings goes to the greater or the even one. -/
structure RealStyle where
  positional : Int → Bool
  tieUp : Bool

namespace Shortest

/-- Least `e` with `num / den < 10 ^ e`, for positive `num` and `den`. -/
def pointPosition (num den : Nat) : Int :=
  if den ≤ num then (Decimal.digits (num / den)).length
  else 1 - ((Decimal.digits ((den - 1) / num)).length : Int)

/-- The positive numbers that round to `num / den`: bounds over the same
denominator, themselves included when `closed`. -/
structure Interval where
  low : Nat
  num : Nat
  high : Nat
  den : Nat
  closed : Bool

def interval (m : Nat) (e : Int) : Interval :=
  let low := if m = Nat.pow 2 52 ∧ Binary64.leastExponent < e then 4 * m - 1 else 4 * m - 2
  let q := e - 2
  let up := Nat.pow 2 q.toNat
  { low := low * up, num := 4 * m * up, high := (4 * m + 2) * up,
    den := Nat.pow 2 (-q).toNat, closed := m % 2 = 0 }

def Interval.holds (i : Interval) (c : Nat) (k : Int) : Bool :=
  let x := c * Nat.pow 10 k.toNat * i.den
  let scale := Nat.pow 10 (-k).toNat
  if i.closed then i.low * scale ≤ x && x ≤ i.high * scale
  else i.low * scale < x && x < i.high * scale

/-- The multiple of `10 ^ k` to write: the nearer of the two neighbours that lie
in the interval, or the only one. -/
def candidate? (tieUp : Bool) (i : Interval) (k : Int) : Option Nat :=
  let num := i.num * Nat.pow 10 (-k).toNat
  let den := i.den * Nat.pow 10 k.toNat
  let c := num / den
  let r := num % den
  match i.holds c k, i.holds (c + 1) k with
  | true, true =>
    if 2 * r < den then some c
    else if den < 2 * r then some (c + 1)
    else if !tieUp && c % 2 == 0 then some c else some (c + 1)
  | true, false => some c
  | false, true => some (c + 1)
  | false, false => none

def search (tieUp : Bool) (i : Interval) : Nat → Int → Nat × Int
  | 0, k => (0, k)
  | fuel + 1, k =>
    match candidate? tieUp i k with
    | some c => (c, k)
    | none => search tieUp i fuel (k - 1)

def dropTrailingZeros (ds : List Char) : List Char :=
  (ds.reverse.dropWhile (· == '0')).reverse

/-- Significant digits and the position of the point before which they stand:
digits `d` and point `p` are the number `0.d * 10 ^ p`. Seventeen digits always do. -/
def digits (tieUp : Bool) (m : Nat) (e : Int) : List Char × Int :=
  let i := interval m e
  let (c, k) := search tieUp i 18 (pointPosition i.num i.den - 1)
  let ds := Decimal.digits c
  (dropTrailingZeros ds, k + ds.length)

def positionalText (ds : List Char) (point : Int) : List Char :=
  if point ≤ 0 then '0' :: '.' :: (List.replicate (-point).toNat '0' ++ ds)
  else
    let n := point.toNat
    if ds.length ≤ n then ds ++ List.replicate (n - ds.length) '0' ++ ['.', '0']
    else ds.take n ++ '.' :: ds.drop n

def exponentText (ds : List Char) (point : Int) : List Char :=
  let e := point - 1
  let fraction := if ds.length ≤ 1 then [] else '.' :: ds.drop 1
  ds.take 1 ++ fraction ++ 'e' :: (if e < 0 then '-' else '+') :: Decimal.digits e.natAbs

end Shortest

def RealStyle.write (style : RealStyle) : Binary64 → String
  | .nan => "NaN"
  | .infinite negative => if negative then "-inf" else "inf"
  | .finite negative m e =>
    let body :=
      if m = 0 then ['0', '.', '0']
      else
        let (ds, point) := Shortest.digits style.tieUp m e
        if style.positional (point - 1) then Shortest.positionalText ds point
        else Shortest.exponentText ds point
    String.ofList (if negative then '-' :: body else body)

end NetFlow
