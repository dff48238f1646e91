import MessageCatalog.Entry.Fault
import MessageCatalog.Po.Escape
import MessageCatalog.Text.Blank
import MessageCatalog.Text.Digit
import MessageCatalog.Text.Number

/-! A line of a catalog is blank, a comment, a keyword with a quoted text, or such a text alone. -/

namespace MessageCatalog.Po

/-- The words that start a quoted text. -/
inductive Keyword where
  | msgctxt
  | msgidPlural
  | msgid
  | msgstr
  deriving DecidableEq, Repr, Inhabited

namespace Keyword

/-- The word itself. -/
def name : Keyword → String
  | msgctxt => "msgctxt"
  | msgidPlural => "msgid_plural"
  | msgid => "msgid"
  | msgstr => "msgstr"

/-- All words, a longer one before its own start. -/
def all : List Keyword := [msgctxt, msgidPlural, msgid, msgstr]

end Keyword

/-- The part of an entry that a quoted text belongs to. -/
inductive Field where
  | context
  | text
  | plural
  | translation
  | form (index : Nat)
  deriving DecidableEq, Repr, Inhabited

/-- A line without the blanks around it. -/
inductive Line where
  | blank
  /-- The characters after the number sign. -/
  | comment (text : List Char)
  | field (field : Field) (value : List Char)
  | continuation (value : List Char)
  deriving DecidableEq, Repr, Inhabited

/-- The characters between the first and the last character of a text, when both are quotes. -/
def betweenQuotes? : List Char → Option (List Char)
  | '"' :: rest =>
    match rest.reverse with
    | '"' :: inner => some inner.reverse
    | _ => none
  | _ => none

/-- The digits between brackets at the start of a text, and the text behind them. -/
def bracketed? (text : List Char) : Option (List Char × List Char) :=
  match text with
  | '[' :: rest =>
    match rest.takeWhile isDecimalDigit, rest.dropWhile isDecimalDigit with
    -- Brackets without digits, and digits without the closing one, are no index.
    | [], _ => none
    | digits, ']' :: behind => some (digits, behind)
    | _, _ => none
  | _ => none

/-- A quoted text behind at least one blank. -/
def quotedBehindBlank? : List Char → Option (List Char)
  | c :: rest => if isBlank c then betweenQuotes? (trimStart rest) else none
  | [] => none

/-- A keyword at the start of a line, its index in digits, and its text as it is quoted. -/
def keywordLine? (line : List Char) : Option (Keyword × Option (List Char) × List Char) :=
  Keyword.all.findSome? fun keyword => do
    -- A shorter keyword fails on a longer one, since neither a bracket nor a blank follows it.
    let behind ← keyword.name.toList.isPrefixOf? line
    match bracketed? behind with
    | some (digits, behind) => return (keyword, some digits, ← quotedBehindBlank? behind)
    | none => return (keyword, none, ← quotedBehindBlank? behind)

/-- Only translations have an index, which is a count in digits of ASCII. -/
def fieldOf (keyword : Keyword) (digits : Option (List Char)) : Except LineFault Field :=
  match keyword, digits with
  | .msgctxt, none => .ok .context
  | .msgid, none => .ok .text
  | .msgidPlural, none => .ok .plural
  | .msgstr, none => .ok .translation
  | .msgstr, some digits =>
    match count? digits with
    | some index => .ok (.form index)
    | none => .error .badPluralIndex
  -- An index on any other keyword is a mistake, not a field of its own.
  | keyword, some _ => .error (.cannotBeIndexed keyword.name)

/-- The line that a text without blanks around it is. -/
def Line.read (line : List Char) : Except LineFault Line :=
  match line with
  | [] => .ok .blank
  | '#' :: note => .ok (.comment note)
  | _ =>
    match keywordLine? line with
    | some (keyword, digits, quotedText) =>
      (fieldOf keyword digits).map fun field => .field field (unescape quotedText)
    -- Without a keyword, a quoted text continues the field above.
    | none =>
      match betweenQuotes? line with
      | some quotedText => .ok (.continuation (unescape quotedText))
      | none => .error (.unexpected (String.ofList line))

end MessageCatalog.Po
