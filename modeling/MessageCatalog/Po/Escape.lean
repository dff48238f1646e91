/-! Quoted text of a catalog has a backslash before what would end it, and one for each control. -/

namespace MessageCatalog.Po

/-- A character as it stands between quotes. -/
def escapeChar (c : Char) : List Char :=
  if c = '\\' then ['\\', '\\']
  else if c = '"' then ['\\', '"']
  else if c = '\n' then ['\\', 'n']
  else if c = '\r' then ['\\', 'r']
  else if c = '\t' then ['\\', 't']
  else [c]

/-- A text as it stands between quotes. -/
def escape (text : List Char) : List Char := text.flatMap escapeChar

/-- What a character denotes after a backslash; no other character may follow one. -/
def escaped? : Char → Option Char
  | 'n' => some '\n'
  | 't' => some '\t'
  | 'r' => some '\r'
  | 'a' => some '\x07'
  | 'b' => some '\x08'
  | 'f' => some '\x0c'
  | 'v' => some '\x0b'
  | '"' => some '"'
  | '\\' => some '\\'
  | _ => none

/-- The text that stands between quotes; an unknown escape stands for itself. -/
def unescape : List Char → List Char
  | [] => []
  | [c] => [c]
  | c :: d :: rest =>
    if c = '\\' then
      match escaped? d with
      -- The character behind the backslash is used up as well.
      | some e => e :: unescape rest
      | none => c :: d :: unescape rest
    else c :: unescape (d :: rest)

end MessageCatalog.Po
