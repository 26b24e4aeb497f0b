import NetFlow.Document.Basic

/-! JSON text of documents: no blanks, members in order, and an escape for every
character that a string cannot hold as it is. -/
namespace NetFlow.Json

def escape (c : Char) : List Char :=
  if c == '"' || c == '\\' then ['\\', c]
  else if c == '\x08' then ['\\', 'b']
  else if c == '\x0c' then ['\\', 'f']
  else if c == '\n' then ['\\', 'n']
  else if c == '\r' then ['\\', 'r']
  else if c == '\t' then ['\\', 't']
  else if c.toNat < 32 then
    ['\\', 'u', '0', '0', Nat.digitChar (c.toNat / 16), Nat.digitChar (c.toNat % 16)]
  else [c]

def quote (s : String) : List Char := '"' :: s.toList.flatMap escape ++ ['"']

/-- Text that cannot be written leaves nothing behind. -/
def quote? : Except Problem String → List Char
  | .ok s => quote s
  | .error _ => []

def labelChars : Label → List Char
  | .key name => quote? name
  | .stray => []

mutual
def chars : Document → List Char
  | .null => ['n', 'u', 'l', 'l']
  | .bool true => ['t', 'r', 'u', 'e']
  | .bool false => ['f', 'a', 'l', 's', 'e']
  | .number n => n.chars
  | .string s => quote? s
  | .array items => '[' :: (itemChars items ++ [']'])
  | .object members => '\x7b' :: (memberChars members ++ ['\x7d'])
  | .broken => []
def itemChars : List Document → List Char
  | [] => []
  | [d] => chars d
  | d :: ds => chars d ++ ',' :: itemChars ds
def memberChars : List (Label × Document) → List Char
  | [] => []
  | [(l, d)] => labelChars l ++ ':' :: chars d
  | (l, d) :: ms => labelChars l ++ ':' :: (chars d ++ ',' :: memberChars ms)
end

def write (d : Document) : String := String.ofList (chars d)

end NetFlow.Json
