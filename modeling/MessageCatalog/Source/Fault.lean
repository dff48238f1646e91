import MessageCatalog.Source.Cursor

/-! What can be wrong with a source text, and how it is told. -/

namespace MessageCatalog.Source

/-- The arguments of a call that have to be literals. -/
inductive Argument where
  | context
  | text
  | plural
  deriving DecidableEq, Repr, Inhabited

/-- The name of an argument in messages. -/
def Argument.name : Argument → String
  | context => "msgctxt"
  | text => "msgid"
  | plural => "msgid_plural"

/-- What makes a construct malformed. -/
inductive Defect where
  | missingOpeningParen
  | notALiteral (argument : Argument)
  | emptyLiteral (argument : Argument)
  deriving DecidableEq, Repr, Inhabited

/-- A defect as it is told. -/
def Defect.message : Defect → String
  | missingOpeningParen => "missing matching opening brace"
  | notALiteral argument => argument.name ++ " must be a literal"
  | emptyLiteral argument => argument.name ++ " must not be empty"

/-- A malformed construct, which a scan skips. -/
structure Malformed where
  defect : Defect
  position : Position
  deriving DecidableEq, Repr, Inhabited

/-- Lines are counted from one in messages. -/
def Malformed.message (malformed : Malformed) : String :=
  s!"line {malformed.position.line + 1}: " ++ malformed.defect.message

/-- Why a step has no next state. -/
inductive ScanError where
  /-- A construct that a scan recovers from. -/
  | malformed (construct : Malformed)
  /-- The text ended inside a context. -/
  | unclosed (context : Context) (line : Nat)
  /-- A step did not move forward. -/
  | stalled (position : Position)
  deriving DecidableEq, Repr, Inhabited

namespace ScanError

/-- A scan goes on after a malformed construct only. -/
def isRecoverable : ScanError → Bool
  | malformed _ => true
  | _ => false

/-- A scan error as it is told. -/
def message : ScanError → String
  | malformed construct => construct.message
  | unclosed context line =>
    "unclosed " ++ context.describe ++ s!" at end of file (line {line + 1})"
  | stalled position =>
    s!"infinite loop detected at offset {position.offset} (line {position.line + 1})"

end ScanError

end MessageCatalog.Source
