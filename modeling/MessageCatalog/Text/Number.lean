/-! Numbers written in digits, and the characters that code points stand for. -/

namespace MessageCatalog

/-- The value of a hexadecimal digit of either case. -/
def hexDigit? (c : Char) : Option Nat :=
  if '0' ≤ c ∧ c ≤ '9' then some (c.toNat - '0'.toNat)
  else if 'a' ≤ c ∧ c ≤ 'f' then some (c.toNat - 'a'.toNat + 10)
  else if 'A' ≤ c ∧ c ≤ 'F' then some (c.toNat - 'A'.toNat + 10)
  else none

/-- The value of digits in a base, read on from a value; other characters have none. -/
def digitsFrom? (digit? : Char → Option Nat) (base : Nat) : Nat → List Char → Option Nat
  | value, [] => some value
  | value, c :: rest =>
    match digit? c with
    | some digit => digitsFrom? digit? base (value * base + digit) rest
    | none => none

/-- At least one digit, of which any number may be zeros in front; a plus sign may precede them. -/
def signedDigits? (digit? : Char → Option Nat) (base : Nat) : List Char → Option Nat
  | [] => none
  | ['+'] => none
  | '+' :: digits => digitsFrom? digit? base 0 digits
  | digits => digitsFrom? digit? base 0 digits

/-- A decimal digit of ASCII. -/
def decimalDigit? (c : Char) : Option Nat :=
  if '0' ≤ c ∧ c ≤ '9' then some (c.toNat - '0'.toNat) else none

/-- The number that a text of hexadecimal digits writes. -/
def hexNumber? (digits : List Char) : Option Nat := signedDigits? hexDigit? 16 digits

/-- The largest count that is told apart from a larger one. -/
def maxCount : Nat := Nat.pow 2 64 - 1

/-- The count that a text of decimal digits writes, unless it takes more than 64 bits. -/
def count? (digits : List Char) : Option Nat :=
  match signedDigits? decimalDigit? 10 digits with
  | some value => if value ≤ maxCount then some value else none
  | none => none

/-- The character with a code point; surrogates and values past U+10FFFF have none. -/
def charOfCode? (code : Nat) : Option Char :=
  if code.isValidChar then some (Char.ofNat code) else none

end MessageCatalog
