import MessageCatalog.Text.Number

/-! A string literal denotes the characters it spells, with escapes after a backslash. -/

namespace MessageCatalog.Source

/-- The control characters that have an escape letter. -/
def controlEscape? : Char → Option Char
  | 'n' => some '\n'
  | 't' => some '\t'
  | 'r' => some '\r'
  | 'b' => some '\x08'
  | 'f' => some '\x0c'
  | 'v' => some '\x0b'
  | _ => none

/-- The character of a code point escape; digits that name none stay as they were written. -/
def codePoint (opening digits : List Char) : List Char :=
  match (hexNumber? digits).bind charOfCode? with
  | some c => [c]
  | none => opening ++ digits

/-- Decoding replaces each escape by what it stands for: a control character, a code point, nothing
for a line continuation, and the escaped character itself for all others. -/
def decodeEscapes : List Char → List Char
  | [] => []
  | '\\' :: [] => ['\\']
  | '\\' :: 'x' :: rest => codePoint ['\\', 'x'] (rest.take 2) ++ decodeEscapes (rest.drop 2)
  | '\\' :: 'u' :: '{' :: rest =>
    codePoint ['\\', 'u'] (rest.takeWhile (· != '}')) ++
      decodeEscapes ((rest.dropWhile (· != '}')).drop 1)
  | '\\' :: 'u' :: rest => codePoint ['\\', 'u'] (rest.take 4) ++ decodeEscapes (rest.drop 4)
  | '\\' :: '\n' :: rest => decodeEscapes rest
  -- A line continuation may end in both characters, which go together.
  | '\\' :: '\r' :: '\n' :: rest => decodeEscapes rest
  | '\\' :: '\r' :: rest => decodeEscapes rest
  | '\\' :: c :: rest =>
    -- In front of another digit a zero is no null character.
    if c = '0' ∧ !rest.head?.any Char.isDigit then '\x00' :: decodeEscapes rest
    else (controlEscape? c).getD c :: decodeEscapes rest
  | c :: rest => c :: decodeEscapes rest
termination_by text => text.length
decreasing_by
  -- Every case but one drops a known number of characters; that one searches a brace.
  all_goals simp only [List.length_cons, List.length_drop]
  all_goals try omega
  have shorter := (List.dropWhile_sublist (l := rest) (· != '}')).length_le
  omega

end MessageCatalog.Source
