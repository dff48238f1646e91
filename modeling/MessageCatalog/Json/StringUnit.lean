import MessageCatalog.Text.Number

/-! A string is written as units: characters, and code units of which two may make one character. -/

namespace MessageCatalog.Json

/-- A character, or a code unit of sixteen bits. -/
inductive StringUnit where
  | char (c : Char)
  | code (unit : Nat)
  deriving DecidableEq, Repr, Inhabited

/-- The first code unit of a pair. -/
def isLead (unit : Nat) : Bool := decide (0xD800 ≤ unit ∧ unit ≤ 0xDBFF)

/-- The second code unit of a pair. -/
def isTrail (unit : Nat) : Bool := decide (0xDC00 ≤ unit ∧ unit ≤ 0xDFFF)

/-- The code point that a pair of code units stands for. -/
def pairCode (lead trail : Nat) : Nat := 0x10000 + (lead - 0xD800) * 0x400 + (trail - 0xDC00)

/-- The characters of units; half of a pair has none. -/
def joinUnits? : List StringUnit → Option (List Char)
  | [] => some []
  | .char c :: rest => (joinUnits? rest).map (c :: ·)
  | [.code unit] => (charOfCode? unit).map fun c => [c]
  -- Only a pair of code units makes one character; any other two stand for themselves.
  | .code unit :: .code second :: rest =>
    if isLead unit then
      if isTrail second then do return (← charOfCode? (pairCode unit second)) :: (← joinUnits? rest)
      else none
    else do return (← charOfCode? unit) :: (← joinUnits? (.code second :: rest))
  | .code unit :: .char c :: rest => do return (← charOfCode? unit) :: c :: (← joinUnits? rest)

/-- The text of units. -/
def unitText? (units : List StringUnit) : Option String := (joinUnits? units).map String.ofList

/-- The value of exactly four hexadecimal digits at the start of a text, and the text behind. -/
def fourHexDigits? : List Char → Option (Nat × List Char)
  | a :: b :: c :: d :: rest => do
    let value := ((← hexDigit? a) * 16 + (← hexDigit? b)) * 16 + (← hexDigit? c)
    return (value * 16 + (← hexDigit? d), rest)
  | _ => none

/-- Four digits are taken off. -/
theorem fourHexDigits?_length {text rest : List Char} {value : Nat}
    (found : fourHexDigits? text = some (value, rest)) : rest.length < text.length := by
  -- The only branch that yields a value has taken four characters off.
  unfold fourHexDigits? at found
  split at found
  · simp only [Option.bind_eq_bind, Option.bind_eq_some_iff] at found
    obtain ⟨_, -, _, -, _, -, _, -, same⟩ := found
    cases same
    simp only [List.length_cons]
    omega
  · cases found

end MessageCatalog.Json
