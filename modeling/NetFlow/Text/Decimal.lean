/-! Decimal numerals without sign: their digits, their value, and the reader that
accepts exactly the digits a number is written with. -/
namespace NetFlow.Decimal

def digits (n : Nat) : List Char := Nat.toDigits 10 n

def value (ds : List Char) : Nat := Nat.ofDigitChars 10 ds 0

def isCanonical : List Char → Bool
  | [] => false
  | [c] => c.isDigit
  | c :: cs => c != '0' && (c :: cs).all Char.isDigit

def read? (ds : List Char) : Option Nat :=
  if isCanonical ds then some (value ds) else none

theorem value_digits (n : Nat) : value (digits n) = n :=
  Nat.ofDigitChars_toDigits (by decide) (by decide)

theorem digits_ne_nil (n : Nat) : digits n ≠ [] := Nat.toDigits_ne_nil

theorem isDigit_of_mem_digits {n : Nat} {c : Char} (h : c ∈ digits n) : c.isDigit = true :=
  Nat.isDigit_of_mem_toDigits (by decide) (by decide) h

end NetFlow.Decimal
