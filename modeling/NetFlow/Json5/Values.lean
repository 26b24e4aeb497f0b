import NetFlow.Document.Dialect
import NetFlow.Json5.Tokens

/-! Values of JSON5 documents. The whole text must be well-formed before any value is
read; then every value on the way is converted, also those nobody asked for. -/
namespace NetFlow.Json5

def real : Numeral → Except Complaint Binary64
  | .decimal s ds fraction exponent =>
    let fs := fraction.getD []
    let e : Int :=
      match exponent with
      | none => 0
      | some (.minus, es) => -(Decimal.value es : Int)
      | some (_, es) => Decimal.value es
    let x := Binary64.ofDecimal (s == .minus) (Decimal.value (ds ++ fs)) (e - fs.length)
    if x.isFinite then .ok x else .error .numberTooLarge
  | .hex .bare ds =>
    match Hexadecimal.value? ds with
    | some n => if n < UInt32.size then .ok (.ofDecimal false n 0) else .error .badHex
    | none => .error .badHex
  | .hex _ _ => .error .badNumber
  | .infinity .plus => .error .numberTooLarge
  | .infinity s => .ok (.infinite (s == .minus))
  | .nan .plus => .error .numberTooLarge
  | .nan _ => .ok .nan

def integerBound : Nat := UInt64.size / 2

/-- An integer if it is written as one, within 64 bits; otherwise a real number. A sign
before a hexadecimal numeral spoils it, in one of two ways as its digits look like an
exponent or not. -/
def numeral (n : Numeral) : Except Complaint Found :=
  match n with
  | .decimal s ds none none =>
    let i : Int := if s = .minus then -(Decimal.value ds : Int) else Decimal.value ds
    if -(integerBound : Int) ≤ i ∧ i < integerBound then .ok (.integer i) else .error .badInteger
  | .hex .bare ds =>
    match Hexadecimal.value? ds with
    | some n => if n < UInt32.size then .ok (.integer n) else .error .badHex
    | none => .error .badHex
  | .hex _ ds => if ds.any (fun c => c == 'e' || c == 'E') then .error .badNumber
    else .error .badInteger
  | .infinity .plus => .error .badInteger
  | .nan .plus => .error .badInteger
  | n => (real n).map .real

def contents {α : Type} : Except Complaint α → Except Problem α
  | .ok a => .ok a
  | .error c => .error (.contents c)

def found : Document → Except Problem Found
  | .null => .ok .null
  | .bool b => .ok (.bool b)
  | .number n => contents (numeral n)
  | .string s => s.map .string
  | .array _ => .ok .sequence
  | .object _ => .ok .map
  | .broken => .error .malformed

mutual
def skip : Document → Except Problem Unit
  | .number n => discard (contents (numeral n))
  | .string s => discard s
  | .array items => skipItems items
  | .object members => skipMembers members
  | .broken => .error .malformed
  | _ => .ok ()
def skipItems : List Document → Except Problem Unit
  | [] => .ok ()
  | d :: ds => do
    skip d
    skipItems ds
def skipMembers : List (Label × Document) → Except Problem Unit
  | [] => .ok ()
  | (.key k, d) :: ms => do
    discard k
    skip d
    skipMembers ms
  | (.stray, _) :: _ => .error .malformed
end

/-- Any number, cut to its integer part and kept within 16 bits. -/
def word16 : Document → Except Problem UInt16
  | .number n => return UInt16.ofNat ((← contents (real n)).clamp (UInt16.size - 1))
  | _ => throw (.contents .badNumber)

/-- A name, or an object whose first key is one. Nothing behind that key counts. -/
def choice (known : List String) (d : Document) : Except Problem String := do
  let name ← match d with
    | .string s => s
    | .object ((.key k, _) :: _) => k
    | .object _ => throw (.contents .emptyObject)
    | _ => throw (.contents .noVariant)
  if known.contains name then return name
  else throw (.contents (.unknownVariant name known))

def wording : Wording where
  null := "unit value"
  real := { positional := fun _ => true, tieUp := true }

def dialect : Dialect where
  wording := wording
  found := found
  skip := skip
  word16 := word16
  choice := choice
  allowsExtraItems := true

def read {α : Type} (value : Document → Except Problem α) (s : String) : Except Problem α :=
  let r := Reading.ofTokens true (tokens s.toList)
  if r.root.isWhole && !r.trailing then value r.root else throw .malformed

end NetFlow.Json5
