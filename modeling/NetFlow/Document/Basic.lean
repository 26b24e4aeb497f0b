import NetFlow.Document.Problem

/-! Documents: trees of values as a text gives them, members in the order of the
text and repeated keys kept. A text that breaks off still has a tree, with a mark
where it does, so that readers meet problems in the order of the text. -/
namespace NetFlow

inductive Sign where
  | bare
  | plus
  | minus
  deriving DecidableEq, Repr

inductive Numeral where
  | decimal (sign : Sign) (whole : List Char) (fraction : Option (List Char))
      (exponent : Option (Sign × List Char))
  | hex (sign : Sign) (digits : List Char)
  | infinity (sign : Sign)
  | nan (sign : Sign)
  deriving DecidableEq, Repr

/-- What stands where a key belongs: a key, or something that is none. -/
inductive Label where
  | key (name : Except Problem String)
  | stray

/-- A tree of values. A string may fail to denote text; `broken` marks the place
where the text stops being well-formed. -/
inductive Document where
  | null
  | bool (b : Bool)
  | number (n : Numeral)
  | string (s : Except Problem String)
  | array (items : List Document)
  | object (members : List (Label × Document))
  | broken

/-- A tree and whether anything but blanks follows it in the text. -/
structure Reading where
  root : Document
  trailing : Bool

def Sign.chars : Sign → List Char
  | .bare => []
  | .plus => ['+']
  | .minus => ['-']

def Sign.take : List Char → Sign × List Char
  | '+' :: cs => (.plus, cs)
  | '-' :: cs => (.minus, cs)
  | cs => (.bare, cs)

theorem Sign.take_length_le (cs : List Char) : (Sign.take cs).2.length ≤ cs.length := by
  unfold Sign.take
  split <;> simp

def Numeral.ofNat (n : Nat) : Numeral := .decimal .bare (Decimal.digits n) none none

def Numeral.chars : Numeral → List Char
  | .decimal sign whole fraction exponent =>
    sign.chars ++ whole ++ (match fraction with | some ds => '.' :: ds | none => []) ++
      (match exponent with | some (s, ds) => 'e' :: s.chars ++ ds | none => [])
  | .hex sign ds => sign.chars ++ '0' :: 'x' :: ds
  | .infinity sign => sign.chars ++ "Infinity".toList
  | .nan sign => sign.chars ++ "NaN".toList

namespace Document

def ofNat (n : Nat) : Document := .number (.ofNat n)

def ofString (s : String) : Document := .string (.ok s)

def ofMembers (ms : List (String × Document)) : Document :=
  .object (ms.map fun m => (.key (.ok m.1), m.2))

mutual
def isWhole : Document → Bool
  | .array items => areWhole items
  | .object members => membersWhole members
  | .broken => false
  | _ => true
def areWhole : List Document → Bool
  | [] => true
  | d :: ds => d.isWhole && areWhole ds
def membersWhole : List (Label × Document) → Bool
  | [] => true
  | (.key _, d) :: ms => d.isWhole && membersWhole ms
  | (.stray, _) :: _ => false
end

end Document
end NetFlow
