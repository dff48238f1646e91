import MessageCatalog.Json.Text
import MessageCatalog.Json5.Name

/-! The wide way to write documents: comments, names without quotes, single quotes, more numbers. -/

namespace MessageCatalog.Json5

open Json (StringUnit Token Dialect Grammar fourHexDigits? fourHexDigits?_length unitText?)

/-- The characters that end a line. -/
def endsLine (c : Char) : Bool :=
  c == '\n' || c == '\r' || c == '\u2028' || c == '\u2029'

/-- The blanks between tokens. -/
def isGap (c : Char) : Bool :=
  endsLine c || c == '\t' || c == '\x0b' || c == '\x0c' || c == ' ' || c == '\ufeff' ||
    c == '\u00a0' || c == '\u1680' || (decide ('\u2000' ≤ c) && decide (c ≤ '\u200a')) ||
    c == '\u202f' || c == '\u205f' || c == '\u3000'

/-- The text behind the end of a block comment. -/
def behindComment? : List Char → Option (List Char)
  | [] => none
  | '*' :: '/' :: rest => some rest
  | _ :: rest => behindComment? rest

/-- The end of a comment is taken off. -/
theorem behindComment?_length {text rest : List Char} (found : behindComment? text = some rest) :
    rest.length ≤ text.length := by
  fun_induction behindComment? text with
  | case1 => cases found
  | case2 rest' => cases found; simp only [List.length_cons]; omega
  | case3 c tail _ ih => have := ih found; simp only [List.length_cons]; omega

/-- The text from the next token on, behind blanks and comments. -/
def skip? (text : List Char) : Option (List Char) :=
  match text with
  | [] => some []
  | '/' :: '*' :: rest =>
    match _closed : behindComment? rest with
    | some behind => skip? behind
    | none => none
  -- A comment of one line ends in front of the end of the line, which is a gap.
  | '/' :: '/' :: rest => skip? (rest.dropWhile (!endsLine ·))
  | '/' :: _ => none
  | c :: rest => if isGap c then skip? rest else some (c :: rest)
termination_by text.length
decreasing_by
  · have shorter := behindComment?_length _closed
    simp only [List.length_cons]
    omega
  · have shorter := (List.dropWhile_sublist (l := rest) (!endsLine ·)).length_le
    simp only [List.length_cons]
    omega
  · simp

/-- Skipping takes nothing or more. -/
theorem skip?_length {text rest : List Char} (skipped : skip? text = some rest) :
    rest.length ≤ text.length := by
  -- Each branch goes on with a shorter text, behind a blank or a comment.
  fun_induction skip? text with
  | case1 => cases skipped; simp
  | case2 rest' behind closed ih =>
    have shorter := behindComment?_length closed
    have := ih skipped
    simp only [List.length_cons]
    omega
  | case3 => cases skipped
  | case4 rest' ih =>
    have shorter := (List.dropWhile_sublist (l := rest') (!endsLine ·)).length_le
    have := ih skipped
    simp only [List.length_cons]
    omega
  | case5 => cases skipped
  | case6 c rest' _ _ _ _ ih =>
    have := ih skipped
    simp only [List.length_cons]
    omega
  | case7 c rest' _ _ _ _ => cases skipped; simp

/-- What a character denotes after a backslash; digits, line ends and the letters of code points
have rules of their own. -/
def escaped? (c : Char) : Option Char :=
  if c = 'b' then some '\x08'
  else if c = 'f' then some '\x0c'
  else if c = 'n' then some '\n'
  else if c = 'r' then some '\r'
  else if c = 't' then some '\t'
  else if c = 'v' then some '\x0b'
  else if c.isDigit || c == 'x' || c == 'u' || endsLine c then none
  else some c

/-- The character of exactly two hexadecimal digits at the start of a text, and the text behind. -/
def twoHexDigits? : List Char → Option (Char × List Char)
  | a :: b :: rest => do return (Char.ofNat ((← hexDigit? a) * 16 + (← hexDigit? b)), rest)
  | _ => none

/-- Two digits are taken off. -/
theorem twoHexDigits?_length {text rest : List Char} {value : Char}
    (found : twoHexDigits? text = some (value, rest)) : rest.length < text.length := by
  unfold twoHexDigits? at found
  split at found
  · simp only [Option.bind_eq_bind, Option.bind_eq_some_iff] at found
    obtain ⟨_, -, _, -, same⟩ := found
    cases same
    simp only [List.length_cons]
    omega
  · cases found

/-- What follows a backslash: a unit, or nothing for a line continuation; and the text behind. -/
def escape? : List Char → Option (Option StringUnit × List Char)
  | [] => none
  | '\r' :: '\n' :: rest => some (none, rest)
  -- A zero is the null character, whatever stands behind it.
  | '0' :: rest => some (some (.char '\x00'), rest)
  | 'x' :: rest => (twoHexDigits? rest).map fun (c, behind) => (some (.char c), behind)
  | 'u' :: rest => (fourHexDigits? rest).map fun (unit, behind) => (some (.code unit), behind)
  | c :: rest =>
    if endsLine c then some (none, rest)
    else (escaped? c).map fun escaped => (some (.char escaped), rest)

/-- An escape takes at least one character. -/
theorem escape?_length {text rest : List Char} {unit : Option StringUnit}
    (found : escape? text = some (unit, rest)) : rest.length < text.length := by
  -- A line end and the letters of code points take more than one character, all else takes one.
  unfold escape? at found
  split at found
  · cases found
  · cases found; simp only [List.length_cons]; omega
  · cases found; simp
  · obtain ⟨⟨c, behind⟩, inner, same⟩ := Option.map_eq_some_iff.1 found
    cases same
    have := twoHexDigits?_length inner
    simp only [List.length_cons]
    omega
  · obtain ⟨⟨c, behind⟩, inner, same⟩ := Option.map_eq_some_iff.1 found
    cases same
    have := fourHexDigits?_length inner
    simp only [List.length_cons]
    omega
  · split at found
    · cases found; simp
    · obtain ⟨c, -, same⟩ := Option.map_eq_some_iff.1 found
      cases same
      simp

/-- The units of a string up to its closing quote, and the text behind. -/
def stringUnits? (quote : Char) (text : List Char) : Option (List StringUnit × List Char) :=
  match text with
  | [] => none
  | c :: rest =>
    if c = quote then some ([], rest)
    else if c = '\\' then
      match _escaped : escape? rest with
      | some (unit, behind) =>
        (stringUnits? quote behind).map fun (units, behind) => (unit.toList ++ units, behind)
      | none => none
    -- A string goes on to the next line only behind a backslash.
    else if endsLine c then none
    else (stringUnits? quote rest).map fun (units, behind) => (.char c :: units, behind)
termination_by text.length
decreasing_by
  · have shorter := escape?_length _escaped
    simp only [List.length_cons]
    omega
  · simp

/-- A string takes at least its closing quote. -/
theorem stringUnits?_length {quote : Char} {text behind : List Char} {units : List StringUnit}
    (found : stringUnits? quote text = some (units, behind)) : behind.length < text.length := by
  -- Every unit takes a character or more, and the closing quote takes the last one.
  fun_induction stringUnits? quote text generalizing units behind with
  | case1 => cases found
  | case2 rest => cases found; simp
  | case3 rest unit behind' escaped _ ih =>
    obtain ⟨⟨units', behind''⟩, inner, same⟩ := Option.map_eq_some_iff.1 found
    cases same
    have shorter := escape?_length escaped
    have := ih inner
    simp only [List.length_cons]
    omega
  | case4 => cases found
  | case5 => cases found
  | case6 c rest _ _ _ ih =>
    obtain ⟨⟨units', behind'⟩, inner, same⟩ := Option.map_eq_some_iff.1 found
    cases same
    have := ih inner
    simp only [List.length_cons]
    omega

/-- The units of the rest of a name, and the text behind; a code point may stand for a character. -/
def nameUnits? (first : Bool) (text : List Char) : Option (List StringUnit × List Char) :=
  match text with
  | [] => if first then none else some ([], [])
  | '\\' :: 'u' :: rest =>
    match _digits : fourHexDigits? rest with
    | some (unit, behind) =>
      (nameUnits? false behind).map fun (units, behind) => (.code unit :: units, behind)
    | none => if first then none else some ([], '\\' :: 'u' :: rest)
  | c :: rest =>
    if if first then startsName c else continuesName c then
      (nameUnits? false rest).map fun (units, behind) => (.char c :: units, behind)
    -- The name ends here, unless it has not begun.
    else if first then none
    else some ([], c :: rest)
termination_by text.length
decreasing_by
  · have shorter := fourHexDigits?_length _digits
    simp only [List.length_cons]
    omega
  · simp

/-- A name takes nothing at most when it is the rest of one. -/
theorem nameUnits?_length {first : Bool} {text behind : List Char} {units : List StringUnit}
    (found : nameUnits? first text = some (units, behind)) :
    behind.length + first.toNat ≤ text.length := by
  -- The first character of a name has to be there; what follows it may be nothing.
  fun_induction nameUnits? first text generalizing units behind with
  | case1 => cases found
  | case2 => cases found; simp_all
  | case3 first rest unit behind' digits ih =>
    obtain ⟨⟨units', behind''⟩, inner, same⟩ := Option.map_eq_some_iff.1 found
    cases same
    have shorter := fourHexDigits?_length digits
    have := ih inner
    have := Bool.toNat_le first
    simp only [List.length_cons, Bool.toNat_false] at *
    omega
  | case4 => cases found
  | case5 first rest _ => cases found; simp_all
  | case6 first c rest _ _ ih =>
    obtain ⟨⟨units', behind'⟩, inner, same⟩ := Option.map_eq_some_iff.1 found
    cases same
    have := ih inner
    have := Bool.toNat_le first
    simp only [List.length_cons, Bool.toNat_false] at *
    omega
  | case7 => cases found
  | case8 first c rest _ _ _ => cases found; simp_all

/-- A text of hexadecimal digits after its sign. -/
def isHexadecimal : List Char → Bool
  | '0' :: 'x' :: digits => !digits.isEmpty && digits.all fun c => (hexDigit? c).isSome
  | '0' :: 'X' :: digits => !digits.isEmpty && digits.all fun c => (hexDigit? c).isSome
  | _ => false

/-- A decimal number after its sign: digits may be missing on one side of the point. -/
def isDecimal : List Char → Bool
  | '.' :: rest => !(rest.takeWhile Char.isDigit).isEmpty &&
      Json.isExponent (rest.dropWhile Char.isDigit)
  -- A zero in front stands alone, apart from a fraction.
  | '0' :: '.' :: rest => Json.isExponent (rest.dropWhile Char.isDigit)
  | '0' :: rest => Json.isExponent rest
  | c :: rest =>
    c.isDigit && match rest.dropWhile Char.isDigit with
      | '.' :: rest => Json.isExponent (rest.dropWhile Char.isDigit)
      | rest => Json.isExponent rest
  | [] => false

/-- The words that are numbers. -/
def numberWords : List (List Char) := ["Infinity".toList, "NaN".toList]

/-- A number: maybe a sign, then decimal or hexadecimal digits or a word. -/
def isNumber (literal : List Char) : Bool :=
  let unsigned := match literal with
    | '+' :: rest => rest
    | '-' :: rest => rest
    | rest => rest
  isHexadecimal unsigned || isDecimal unsigned || numberWords.any (· == unsigned)

/-- The characters of which numbers consist; a number goes on as far as they do. -/
def isNumberChar (c : Char) : Bool := c.isAlphanum || c == '+' || c == '-' || c == '.'

/-- The token at the start of a text. -/
def wideToken? : List Char → Option (Token (Option String) × List Char)
  | [] => none
  | '{' :: rest => some (.beginObject, rest)
  | '}' :: rest => some (.endObject, rest)
  | '[' :: rest => some (.beginArray, rest)
  | ']' :: rest => some (.endArray, rest)
  | ':' :: rest => some (.colon, rest)
  | ',' :: rest => some (.comma, rest)
  | c :: rest =>
    if c = '"' ∨ c = '\'' then
      (stringUnits? c rest).map fun (units, behind) => (.string (unitText? units), behind)
    else if isNumberChar c && !c.isAlpha then
      let literal := (c :: rest).takeWhile isNumberChar
      if isNumber literal then some (.number literal, (c :: rest).dropWhile isNumberChar) else none
    else
      -- A word keeps its spelling, by which it may be a value, and the name that it spells.
      (nameUnits? true (c :: rest)).map fun (units, behind) =>
        (.word ((c :: rest).take ((c :: rest).length - behind.length)) (unitText? units), behind)

/-- A token takes at least one character. -/
theorem wideToken?_length {text rest : List Char} {token : Token (Option String)}
    (found : wideToken? text = some (token, rest)) : rest.length < text.length := by
  -- Signs take one character, and strings, numbers and names take theirs.
  unfold wideToken? at found
  split at found
  · cases found
  iterate 6 · cases found; simp
  · rename_i c tail _ _ _ _ _ _
    split at found
    · obtain ⟨⟨units, behind⟩, inner, same⟩ := Option.map_eq_some_iff.1 found
      cases same
      have := stringUnits?_length inner
      simp only [List.length_cons]
      omega
    · split at found
      · rename_i number
        dsimp only at found
        split at found
        · cases found
          exact Json.dropWhile_shorter (by simp_all)
        · cases found
      · obtain ⟨⟨units, behind⟩, inner, same⟩ := Option.map_eq_some_iff.1 found
        cases same
        have := nameUnits?_length inner
        simp only [Bool.toNat_true] at this
        omega

/-- Documents in the wide form. A string or a name whose escapes form no text has none. -/
def wide : Grammar (Option String) where
  toDialect := ⟨true, true, numberWords⟩
  skip? := skip?
  token? := wideToken?
  skip_length := skip?_length
  token_length := wideToken?_length

end MessageCatalog.Json5
