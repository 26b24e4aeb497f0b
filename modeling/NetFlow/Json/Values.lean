import NetFlow.Address
import NetFlow.Document.Dialect
import NetFlow.Json.Tokens

/-! Values of JSON documents. Integers are read exactly; a number with a fraction, an
exponent or too many digits becomes a real, and real numbers are only ever refused. -/
namespace NetFlow.Json

def wordBound : Nat := UInt64.size

/-- Takes digits into `n` as long as it stays below the bound: the number reached and
how many digits it took. -/
def takeDigits (n : Nat) : List Char → Nat × Nat
  | [] => (n, 0)
  | c :: cs =>
    let next := n * 10 + (c.toNat - '0'.toNat)
    if next < wordBound then
      let (m, k) := takeDigits next cs
      (m, k + 1)
    else (n, 0)

def greatestPower : Nat := 308

def power (k : Nat) : Binary64 := .ofDecimal false 1 k

/-- The significand times a power of ten, each step rounded on its own. A power beyond
the table is applied in steps; two of them bring every significand to zero. -/
def scale? (significand : Nat) (exponent : Int) : Option Binary64 :=
  let f := Binary64.ofDecimal false significand 0
  if 0 ≤ exponent then
    if exponent ≤ greatestPower then
      let product := f.mul (power exponent.toNat)
      if product.isFinite then some product else none
    else if f.isZero then some f else none
  else
    let k := (-exponent).toNat
    if k ≤ greatestPower then some (f.div (power k))
    else
      let g := f.div (power greatestPower)
      some (g.div (power (min (k - greatestPower) greatestPower)))

/-- Exponents of this size or more are settled without looking at the point. -/
def exponentBound : Nat := UInt32.size / 2

def real? (negative : Bool) (whole : List Char) (fraction : Option (List Char))
    (exponent : Option (Sign × List Char)) : Option Binary64 :=
  let (n, taken) := takeDigits 0 whole
  let (n, places) := takeDigits n (fraction.getD [])
  let shift : Int := (whole.length - taken : Nat) - (places : Int)
  let magnitude : Option Binary64 :=
    match exponent with
    | none => scale? n shift
    | some (s, ds) =>
      let e := Decimal.value ds
      if e < exponentBound then scale? n (if s = .minus then shift - e else shift + e)
      else if n ≠ 0 ∧ s ≠ .minus then none
      else some (.ofDecimal false 0 0)
  magnitude.map fun x => if negative then x.negate else x

def numeral : Numeral → Except Problem Found
  | .decimal s whole fraction exponent =>
    let negative := s == .minus
    let real :=
      match real? negative whole fraction exponent with
      | some x => .ok (.real x)
      | none => .error .malformed
    let n := Decimal.value whole
    if fraction.isSome || exponent.isSome then real
    else if negative then
      if 0 < n ∧ n ≤ wordBound / 2 then .ok (.integer (-n)) else real
    else if n < wordBound then .ok (.integer n) else real
  | _ => .error .malformed

def found : Document → Except Problem Found
  | .null => .ok .null
  | .bool b => .ok (.bool b)
  | .number n => numeral n
  | .string s => s.map .string
  | .array _ => .ok .sequence
  | .object _ => .ok .map
  | .broken => .error .malformed

def skip (d : Document) : Except Problem Unit :=
  if d.isWhole then .ok () else .error .malformed

def wrongType {α : Type} (d : Document) (expected : String) : Except Problem α := do
  throw (.contents (.wrongType (← found d) expected))

def word (bound : Nat) (name : String) (d : Document) : Except Problem Nat :=
  match d with
  | .number n => do
    match ← numeral n with
    | .integer i =>
      if 0 ≤ i ∧ i < bound then pure i.toNat else throw (.contents (.outOfRange i name))
    | x => throw (.contents (.wrongType x name))
  | d => wrongType d name

def word8 (d : Document) : Except Problem UInt8 :=
  return UInt8.ofNat (← word UInt8.size "u8" d)

def word16 (d : Document) : Except Problem UInt16 :=
  return UInt16.ofNat (← word UInt16.size "u16" d)

def word32 (d : Document) : Except Problem UInt32 :=
  return UInt32.ofNat (← word UInt32.size "u32" d)

def address : Document → Except Problem Address
  | .string s => do
    match Address.parse? (← s) with
    | some x => pure x
    | none => throw (.contents .badAddress)
  | d => wrongType d "IPv4 address"

/-- One of several variants: an object whose only key names it, its value read by
`payload`, or the bare name, taken by `bare`. -/
def variant {α : Type} (known : List String) (bare : String → Except Problem α)
    (payload : String → Document → Except Problem α) : Document → Except Problem α
  | .string s => do
    let name ← s
    if known.contains name then bare name
    else throw (.contents (.unknownVariant name known))
  | .object ((.key k, d) :: ms) => do
    let name ← k
    if known.contains name then
      let x ← payload name d
      if ms.isEmpty then pure x else throw .malformed
    else throw (.contents (.unknownVariant name known))
  | _ => throw .malformed

def choice (known : List String) : Document → Except Problem String :=
  variant known pure fun name d =>
    match d with
    | .null => pure name
    | d => wrongType d "unit"

def tagged {α : Type} (known : List String) (payload : String → Document → Except Problem α) :
    Document → Except Problem α :=
  variant known
    (fun _ => throw (.contents (.wrongType .unitVariant "newtype variant"))) payload

/-- Real numbers from `1e-5` to below `1e16` have no exponent; ties go to even digits. -/
def wording : Wording where
  null := "null"
  real := { positional := fun e => -5 ≤ e && e < 16, tieUp := false }

def dialect : Dialect where
  wording := wording
  found := found
  skip := skip
  word16 := word16
  choice := choice
  allowsExtraItems := false

/-- Reads a whole text. What follows the value matters only if the value is good. -/
def read {α : Type} (value : Document → Except Problem α) (s : String) : Except Problem α := do
  let r := Reading.ofTokens false (tokens s.toList)
  let x ← value r.root
  if r.trailing then throw .malformed
  return x

end NetFlow.Json
