import NetFlow.Text.Decimal

/-! Internet addresses of four octets: dotted text, its strict reader, and the
order by octets. No address has a special meaning here. -/
namespace NetFlow

structure Address where
  a : UInt8
  b : UInt8
  c : UInt8
  d : UInt8
  deriving DecidableEq, Repr, Inhabited

namespace Address

def zero : Address := ⟨0, 0, 0, 0⟩

def octets (x : Address) : List UInt8 := [x.a, x.b, x.c, x.d]

def ofOctets? : List UInt8 → Option Address
  | [a, b, c, d] => some ⟨a, b, c, d⟩
  | _ => none

theorem ofOctets?_octets (x : Address) : ofOctets? x.octets = some x := rfl

theorem eq_of_octets_eq {x y : Address} (h : x.octets = y.octets) : x = y := by
  have hread := congrArg ofOctets? h
  rwa [ofOctets?_octets, ofOctets?_octets, Option.some.injEq] at hread

def chars (x : Address) : List Char :=
  Decimal.digits x.a.toNat ++ '.' :: (Decimal.digits x.b.toNat ++
    '.' :: (Decimal.digits x.c.toNat ++ '.' :: Decimal.digits x.d.toNat))

def text (x : Address) : String := String.ofList x.chars

instance : ToString Address := ⟨text⟩

def octet? (cs : List Char) : Option (UInt8 × List Char) :=
  match Decimal.read? (cs.takeWhile Char.isDigit) with
  | some n => if n < 256 then some (UInt8.ofNat n, cs.dropWhile Char.isDigit) else none
  | none => none

def dot? : List Char → Option (List Char)
  | '.' :: cs => some cs
  | _ => none

/-- Reads dotted text: four octets without zeros in front, and nothing else. -/
def ofChars? (cs : List Char) : Option Address := do
  let (a, cs) ← octet? cs
  let (b, cs) ← octet? (← dot? cs)
  let (c, cs) ← octet? (← dot? cs)
  let (d, cs) ← octet? (← dot? cs)
  if cs.isEmpty then some ⟨a, b, c, d⟩ else none

def parse? (s : String) : Option Address := ofChars? s.toList

def order (x y : Address) : Ordering :=
  (compare x.a y.a).then ((compare x.b y.b).then ((compare x.c y.c).then (compare x.d y.d)))

instance : Ord Address := ⟨order⟩

end Address
end NetFlow
