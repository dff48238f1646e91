/-! Contexts are the constructs that can be open at a point of a source text. -/

namespace MessageCatalog.Source

/-- The ways in which code is embedded in a template literal. -/
inductive Interpolation where
  | template
  | angular
  | polymer
  | ejs
  deriving DecidableEq, Repr, Inhabited

namespace Interpolation

/-- All kinds, in the order in which their openings are tried. -/
def all : List Interpolation := [template, angular, polymer, ejs]

/-- The text that begins embedded code. -/
def opening : Interpolation → List Char
  | template => ['$', '{']
  | angular => ['{', '{']
  | polymer => ['[', '[']
  | ejs => ['<', '%']

/-- The text that ends embedded code. -/
def closing : Interpolation → List Char
  | template => ['}']
  | angular => ['}', '}']
  | polymer => [']', ']']
  | ejs => ['%', '>']

end Interpolation

/-- A construct that is open at a point of the text. -/
inductive Context where
  | singleQuote
  | doubleQuote
  | backtick
  | lineComment
  | blockComment
  | paren
  | interpolation (kind : Interpolation)
  deriving DecidableEq, Repr, Inhabited

namespace Context

/-- The text that opens a context. -/
def opening : Context → List Char
  | singleQuote => ['\'']
  | doubleQuote => ['"']
  | backtick => ['\x60']
  | lineComment => ['/', '/']
  | blockComment => ['/', '*']
  | paren => ['(']
  | interpolation kind => kind.opening

/-- The text that closes a context. -/
def closing : Context → List Char
  | singleQuote => ['\'']
  | doubleQuote => ['"']
  | backtick => ['\x60']
  -- The line feed belongs to the comment, so the code goes on behind it.
  | lineComment => ['\n']
  | blockComment => ['*', '/']
  | paren => [')']
  | interpolation kind => kind.closing

/-- The quote that a character opens. -/
def ofQuote? (c : Char) : Option Context :=
  if c = '\'' then some singleQuote
  else if c = '"' then some doubleQuote
  else if c = '\x60' then some backtick
  else none

/-- The comment that opens at the start of a text. -/
def ofComment? : List Char → Option Context
  | '/' :: '/' :: _ => some lineComment
  | '/' :: '*' :: _ => some blockComment
  | _ => none

/-- String and template literals. -/
def isQuote : Context → Bool
  | singleQuote | doubleQuote | backtick => true
  | _ => false

/-- Comments of both kinds. -/
def isComment : Context → Bool
  | lineComment | blockComment => true
  | _ => false

/-- Literals and comments hide code, so no call begins inside them. -/
def hidesCode (context : Context) : Bool := context.isQuote || context.isComment

/-- A context as it is named in messages. -/
def describe (context : Context) : String :=
  let name := match context with
    | singleQuote => "single-quoted string"
    | doubleQuote => "double-quoted string"
    | backtick => "template literal"
    | lineComment => "line comment"
    | blockComment => "block comment"
    | paren => "parenthesis"
    | interpolation _ => "interpolation"
  name ++ " `" ++ String.ofList context.opening ++ "`"

end Context

/-- The characters that delimit literals. -/
def isQuoteChar (c : Char) : Bool := (Context.ofQuote? c).isSome

end MessageCatalog.Source
