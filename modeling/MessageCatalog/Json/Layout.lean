import MessageCatalog.Json.Value
import MessageCatalog.Text.Quoted

/-! Documents are written with one item or member a line, indented by its depth. -/

namespace MessageCatalog.Json

/-- How a document is laid out. -/
structure Style where
  indent : List Char := [' ', ' ']
  crlf : Bool := false
  trailingNewline : Bool := true
  deriving DecidableEq, Repr, Inhabited

namespace Style

/-- The style that indents by a number of spaces. -/
def ofWidth (width : Nat) : Style := { indent := List.replicate width ' ' }

/-- The end of a line. -/
def newline (style : Style) : List Char := if style.crlf then ['\r', '\n'] else ['\n']

/-- The start of a line at a depth. -/
def line (style : Style) (depth : Nat) : List Char :=
  style.newline ++ (List.replicate depth style.indent).flatten

/-- The end of a document. -/
def ending (style : Style) : List Char := if style.trailingNewline then style.newline else []

end Style

/-- A text has lines that end with a carriage return and a line feed when it holds such a pair. -/
def usesCrlf : List Char → Bool
  | '\r' :: '\n' :: _ => true
  | _ :: rest => usesCrlf rest
  | [] => false

/-- A character as it stands between double quotes; only controls, quotes and backslashes change. -/
def escapeChar (c : Char) : List Char :=
  if c = '"' then ['\\', '"']
  else if c = '\\' then ['\\', '\\']
  else if c = '\x08' then ['\\', 'b']
  else if c = '\x0c' then ['\\', 'f']
  else if c = '\n' then ['\\', 'n']
  else if c = '\r' then ['\\', 'r']
  else if c = '\t' then ['\\', 't']
  -- The other controls have no letter of their own.
  else if c.toNat < 0x20 then
    ['\\', 'u', '0', '0', Nat.digitChar (c.toNat / 16), Nat.digitChar (c.toNat % 16)]
  else [c]

/-- A string between double quotes. -/
def writeString (text : String) : List Char :=
  '"' :: (text.toList.flatMap escapeChar ++ ['"'])

/-- How far a document has been written: the depth of the containers that are open, and whether a value
has been written since the last container was opened. Both are kept once, not for each container. -/
structure Progress where
  depth : Nat := 0
  hasValue : Bool := false
  deriving DecidableEq, Repr, Inhabited

/-- A step of writing gives some text by the progress so far, and makes progress. -/
def Writing := Progress → List Char × Progress

namespace Writing

/-- Text that is written wherever it stands. -/
def plain (text : List Char) : Writing := fun progress => (text, progress)

/-- One step goes on where the other one stops. -/
def andThen (first second : Writing) : Writing := fun progress =>
  let (text, between) := first progress
  let (others, after) := second between
  (text ++ others, after)

instance : Append Writing := ⟨andThen⟩

/-- The start of a container, which has no value yet. -/
def beginContainer (bracket : Char) : Writing := fun progress =>
  ([bracket], { depth := progress.depth + 1, hasValue := false })

/-- The start of an item or a member, on a line of its own; each but the first one follows a comma. -/
def beginPart (style : Style) (first : Bool) : Writing := fun progress =>
  ((if first then [] else [',']) ++ style.line progress.depth, progress)

/-- The end of an item or a member, which is a value. -/
def endPart : Writing := fun progress => ([], { progress with hasValue := true })

/-- The end of a container. Its bracket stands on a line of its own when there is a value in front of it,
and the container is a value itself. -/
def endContainer (style : Style) (bracket : Char) : Writing := fun progress =>
  let depth := progress.depth - 1
  ((if progress.hasValue then style.line depth else []) ++ [bracket], { depth, hasValue := true })

end Writing

mutual

/-- A value is written part by part. -/
def emit (style : Style) : Value String → Writing
  | .null => .plain "null".toList
  | .bool true => .plain "true".toList
  | .bool false => .plain "false".toList
  | .number literal => .plain literal
  | .string text => .plain (writeString text)
  -- What stands inside of a container tells whether its end gets a line.
  | .array items =>
    .beginContainer '[' ++ emitItems style true items ++ .endContainer style ']'
  | .object members =>
    .beginContainer '{' ++ emitMembers style true members ++ .endContainer style '}'

/-- Items are written one after the other. -/
def emitItems (style : Style) (first : Bool) : List (Value String) → Writing
  | [] => .plain []
  | item :: items =>
    .beginPart style first ++ emit style item ++ .endPart ++ emitItems style false items

/-- Members are written one after the other, each with a colon and a space between name and value. -/
def emitMembers (style : Style) (first : Bool) : List (String × Value String) → Writing
  | [] => .plain []
  | (name, value) :: members =>
    .beginPart style first ++ .plain (writeString name ++ [':', ' ']) ++ emit style value ++
      .endPart ++ emitMembers style false members

end

/-- A whole document. -/
def write (style : Style) (value : Value String) : List Char :=
  (emit style value {}).1 ++ style.ending

end MessageCatalog.Json
