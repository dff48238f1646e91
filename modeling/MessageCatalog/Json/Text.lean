import MessageCatalog.Json.StringUnit
import MessageCatalog.Json.Token

/-! The plain way to write documents: double quotes, no comments and no trailing commas. -/

namespace MessageCatalog.Json

/-- The blanks between tokens. -/
def isGap (c : Char) : Bool := c == ' ' || c == '\t' || c == '\n' || c == '\r'

/-- What a character denotes after a backslash. -/
def escaped? : Char → Option Char
  | '"' => some '"'
  | '\\' => some '\\'
  | '/' => some '/'
  | 'b' => some '\x08'
  | 'f' => some '\x0c'
  | 'n' => some '\n'
  | 'r' => some '\r'
  | 't' => some '\t'
  | _ => none

/-- The units of a string up to its closing quote, and the text behind. -/
def stringUnits? (text : List Char) : Option (List StringUnit × List Char) :=
  match text with
  | [] => none
  | '"' :: rest => some ([], rest)
  | '\\' :: 'u' :: rest =>
    match _digits : fourHexDigits? rest with
    | some (unit, behind) =>
      (stringUnits? behind).map fun (units, behind) => (.code unit :: units, behind)
    | none => none
  -- Other escapes are single characters.
  | '\\' :: c :: rest => do
    let escaped ← escaped? c
    let (units, behind) ← stringUnits? rest
    return (.char escaped :: units, behind)
  | c :: rest =>
    -- A backslash at the end, and controls, cannot stand in a string.
    if c = '\\' ∨ c.toNat < 0x20 then none
    else (stringUnits? rest).map fun (units, behind) => (.char c :: units, behind)
termination_by text.length
decreasing_by
  · have shorter := fourHexDigits?_length _digits
    simp only [List.length_cons]
    omega
  all_goals simp only [List.length_cons]; omega

/-- A string takes at least its closing quote. -/
theorem stringUnits?_length {text behind : List Char} {units : List StringUnit}
    (found : stringUnits? text = some (units, behind)) : behind.length < text.length := by
  -- Every unit takes a character or more, and the closing quote takes the last one.
  fun_induction stringUnits? text generalizing units behind with
  | case1 => cases found
  | case2 rest => cases found; simp
  | case3 rest unit rest' digits ih =>
    obtain ⟨⟨units', behind'⟩, inner, same⟩ := Option.map_eq_some_iff.1 found
    cases same
    have shorter := fourHexDigits?_length digits
    have := ih inner
    simp only [List.length_cons]
    omega
  | case4 => cases found
  | case5 c rest _ ih =>
    simp only [Option.bind_eq_bind, Option.bind_eq_some_iff] at found
    obtain ⟨_, -, ⟨units', behind'⟩, inner, same⟩ := found
    cases same
    have := ih inner
    simp only [List.length_cons]
    omega
  | case6 => cases found
  | case7 c rest _ _ _ _ ih =>
    obtain ⟨⟨units', behind'⟩, inner, same⟩ := Option.map_eq_some_iff.1 found
    cases same
    have := ih inner
    simp only [List.length_cons]
    omega

/-- The end of a number: nothing, or an exponent. -/
def isExponent : List Char → Bool
  | [] => true
  | c :: rest =>
    -- A sign may stand in front of the digits, and at least one of them is needed.
    let digits := match rest with
      | '+' :: digits => digits
      | '-' :: digits => digits
      | digits => digits
    (c == 'e' || c == 'E') && !digits.isEmpty && digits.all Char.isDigit

/-- The part of a number after its integer: maybe a fraction, maybe an exponent. -/
def isFraction : List Char → Bool
  | '.' :: rest => !(rest.takeWhile Char.isDigit).isEmpty && isExponent (rest.dropWhile Char.isDigit)
  | rest => isExponent rest

/-- A number has no plus sign and no zero in front of other digits. -/
def isNumber (literal : List Char) : Bool :=
  let unsigned := match literal with
    | '-' :: rest => rest
    | rest => rest
  match unsigned with
  | [] => false
  -- A zero in front stands alone.
  | '0' :: rest => isFraction rest
  | c :: rest => c.isDigit && isFraction (rest.dropWhile Char.isDigit)

/-- The characters of which numbers consist; a number goes on as far as they do. -/
def isNumberChar (c : Char) : Bool :=
  c.isDigit || c == '-' || c == '+' || c == '.' || c == 'e' || c == 'E'

/-- What is left behind the longest start of one class is shorter than the text. -/
theorem dropWhile_shorter {p : Char → Bool} {c : Char} {rest : List Char} (first : p c = true) :
    ((c :: rest).dropWhile p).length < (c :: rest).length := by
  rw [List.dropWhile_cons, if_pos first]
  exact Nat.lt_succ_of_le (List.dropWhile_sublist _).length_le

/-- The token at the start of a text. -/
def plainToken? : List Char → Option (Token (Option String) × List Char)
  | [] => none
  | '{' :: rest => some (.beginObject, rest)
  | '}' :: rest => some (.endObject, rest)
  | '[' :: rest => some (.beginArray, rest)
  | ']' :: rest => some (.endArray, rest)
  | ':' :: rest => some (.colon, rest)
  | ',' :: rest => some (.comma, rest)
  | '"' :: rest => (stringUnits? rest).map fun (units, behind) => (.string (unitText? units), behind)
  -- A number or a word goes on as far as its characters do, and is judged as a whole.
  | c :: rest =>
    if isNumberChar c && !c.isAlpha then
      let literal := (c :: rest).takeWhile isNumberChar
      if isNumber literal then some (.number literal, (c :: rest).dropWhile isNumberChar) else none
    else if c.isAlpha then
      some (.word ((c :: rest).takeWhile Char.isAlpha) none, (c :: rest).dropWhile Char.isAlpha)
    else none

/-- A token takes at least one character. -/
theorem plainToken?_length {text rest : List Char} {token : Token (Option String)}
    (found : plainToken? text = some (token, rest)) : rest.length < text.length := by
  -- Signs take one character, a string at least its closing quote, and runs their first character.
  unfold plainToken? at found
  split at found
  · cases found
  iterate 6 · cases found; simp
  · obtain ⟨⟨units, behind⟩, inner, same⟩ := Option.map_eq_some_iff.1 found
    cases same
    have := stringUnits?_length inner
    simp only [List.length_cons]
    omega
  · rename_i c tail _ _ _ _ _ _ _
    split at found
    · rename_i number
      dsimp only at found
      split at found
      · cases found
        exact dropWhile_shorter (by simp_all)
      · cases found
    · split at found
      · rename_i letter
        cases found
        exact dropWhile_shorter letter
      · cases found

/-- Documents in the plain form. A string whose escapes form no text has none. -/
def plain : Grammar (Option String) where
  toDialect := .plain
  skip? text := some (text.dropWhile isGap)
  token? := plainToken?
  skip_length := by
    intro text rest skipped
    cases skipped
    exact (List.dropWhile_sublist _).length_le
  token_length := plainToken?_length

end MessageCatalog.Json
