import MessageCatalog.Json5.Text
import MessageCatalog.Text.Number

/-! Numbers of the wide form are taken as the nearest double, and as a count without its fraction. -/

namespace MessageCatalog.Json5

/-- A quotient rounded to the nearest integer, and to the even one of two equally near. -/
def roundHalfEven (numerator denominator : Nat) : Nat :=
  let quotient := numerator / denominator
  let twice := 2 * (numerator % denominator)
  if denominator < twice ∨ (twice = denominator ∧ quotient % 2 = 1) then quotient + 1 else quotient

/-- The exponent of the last binary place of the double next to a positive quotient. It leaves 53
places for the quotient, and is no lower than that of the smallest double. -/
def lastPlace (numerator denominator : Nat) : Int :=
  let estimate : Int := (Nat.log2 numerator : Int) - Nat.log2 denominator
  let reaches : Bool := match estimate with
    | .ofNat up => decide (denominator <<< up ≤ numerator)
    | .negSucc down => decide (denominator ≤ numerator <<< (down + 1))
  -- The lengths of two numbers give the quotient's exponent up to one.
  let exponent := if reaches then estimate else estimate - 1
  max (exponent - 52) (-1074)

/-- The double nearest to a positive quotient without its fraction; none when it is infinite. -/
def truncatedDouble? (numerator denominator : Nat) : Option Nat :=
  match lastPlace numerator denominator with
  | .ofNat up =>
    let value := roundHalfEven numerator (denominator <<< up) <<< up
    if value < Nat.pow 2 1024 then some value else none
  | .negSucc down => some (roundHalfEven (numerator <<< (down + 1)) denominator >>> (down + 1))

/-- The value of decimal digits. -/
def digitsValue (digits : List Char) : Nat :=
  digits.foldl (fun value digit => value * 10 + (digit.toNat - '0'.toNat)) 0

/-- The size of a decimal number without its fraction, from its digits and its power of ten. Powers
that no double reaches on either side are told apart by the number of digits. -/
def decimalSize? (digits : List Char) (power : Int) : Option Nat :=
  let digits := digits.dropWhile (· == '0')
  if digits.isEmpty then some 0
  else
    -- Beyond these bounds the answer is known without a power of that size.
    let places := power + digits.length
    if places > 310 then none
    else if places < -330 then some 0
    else match power with
      | .ofNat up => truncatedDouble? (digitsValue digits * Nat.pow 10 up) 1
      | .negSucc down => truncatedDouble? (digitsValue digits) (Nat.pow 10 (down + 1))

/-- The power of ten after the letter of an exponent; none of it is zero. -/
def exponentValue : List Char → Int
  | [] => 0
  | _ :: '-' :: digits => -(digitsValue digits)
  | _ :: '+' :: digits => digitsValue digits
  | _ :: digits => digitsValue digits

/-- The size of an unsigned decimal number without its fraction; none when it is infinite. -/
def unsignedSize? (literal : List Char) : Option Nat :=
  let whole := literal.takeWhile Char.isDigit
  match literal.dropWhile Char.isDigit with
  | '.' :: rest =>
    let fraction := rest.takeWhile Char.isDigit
    -- The digits of the fraction are those of the whole, with a smaller exponent.
    decimalSize? (whole ++ fraction)
      (exponentValue (rest.dropWhile Char.isDigit) - fraction.length)
  | rest => decimalSize? whole (exponentValue rest)

/-- The value of a hexadecimal number, which has no sign and at most 32 bits. -/
def hexadecimalValue? (literal : List Char) : Option Nat :=
  (hexNumber? (literal.drop 2)).filter fun value => decide (value < Nat.pow 2 32)

/-- The count that a number stands for: its fraction is dropped, a negative number counts as zero and
one that is too large as the largest count. An infinite decimal and a signed hexadecimal are none. -/
def count? (literal : List Char) : Option Nat :=
  -- The infinite counts as the largest count, and what is no number counts as zero.
  if literal = "Infinity".toList then some maxCount
  else if literal = "-Infinity".toList ∨ literal = "NaN".toList ∨ literal = "-NaN".toList then some 0
  else if isHexadecimal literal then hexadecimalValue? literal
  else match literal with
    | '-' :: rest => if isDecimal rest then (unsignedSize? rest).map fun _ => 0 else none
    | '+' :: rest => if isDecimal rest then (unsignedSize? rest).map (Nat.min maxCount) else none
    | rest => if isDecimal rest then (unsignedSize? rest).map (Nat.min maxCount) else none

/-- An integer is written without a point and an exponent, and not as a word. -/
def isInteger (literal : List Char) : Bool :=
  literal.all fun c => c.isDigit || c == '+' || c == '-'

/-- An integer of at most 64 bits with its sign. -/
def isWordInteger (literal : List Char) : Bool :=
  match literal with
  | '-' :: digits => decide (digitsValue digits ≤ Nat.pow 2 63)
  | '+' :: digits => decide (digitsValue digits < Nat.pow 2 63)
  | digits => decide (digitsValue digits < Nat.pow 2 63)

/-- A number that is read, whatever it is for: integers have a limit of their own. -/
def isReadable (literal : List Char) : Bool :=
  if isInteger literal then isWordInteger literal else (count? literal).isSome

end MessageCatalog.Json5
