import NetFlow.Text.Marks
import NetFlow.Text.Printable

/-! Text in double quotes, with an escape for every character that cannot be seen
on its own. -/
namespace NetFlow.Quoted

def codePoint (c : Char) : List Char :=
  '\\' :: 'u' :: '\x7b' :: (Nat.toDigits 16 c.toNat ++ ['\x7d'])

def escape (c : Char) : List Char :=
  if c == '\x00' then ['\\', '0']
  else if c == '\t' then ['\\', 't']
  else if c == '\r' then ['\\', 'r']
  else if c == '\n' then ['\\', 'n']
  else if c == '"' || c == '\\' then ['\\', c]
  else if CodePoints.extendsGrapheme c || !CodePoints.isPrintable c then codePoint c
  else [c]

def write (s : String) : String :=
  String.ofList ('"' :: s.toList.flatMap escape ++ ['"'])

end NetFlow.Quoted
