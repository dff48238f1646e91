import MessageCatalog.Entry.Fault
import MessageCatalog.Glob
import MessageCatalog.Log

/-! Why an operation failed: one cause, and what was being done at the time. -/

namespace MessageCatalog

/-- The kinds of trouble with files. -/
inductive FileTrouble where
  | notFound
  | permissionDenied
  | invalidData
  | isADirectory
  | notADirectory
  | alreadyExists
  | other
  deriving DecidableEq, Repr, Inhabited

/-- Trouble with a file, as the system tells it. -/
structure FileFault where
  trouble : FileTrouble
  text : String
  deriving DecidableEq, Repr, Inhabited

/-- A setting that no run can work with. -/
inductive SettingFault where
  | noInput
  | noLocales
  | noFunctions
  | invalidFunction (name : String)
  | noPluralForms (locale : String)
  deriving DecidableEq, Repr, Inhabited

/-- A setting fault as it is told. -/
def SettingFault.message : SettingFault → String
  | noInput => "`input` must list at least one glob pattern"
  | noLocales => "`locales` must list at least one locale"
  | noFunctions => "`functions` must list at least one function name"
  | invalidFunction name => "Function name '" ++ name ++ "' is not a valid identifier"
  | noPluralForms locale => "`pluralForms` for '" ++ locale ++ "' must be at least 1"

/-- What made an operation fail. -/
inductive Cause where
  | file (fault : FileFault)
  | catalog (fault : CatalogFault)
  | pattern (fault : PatternFault)
  | setting (fault : SettingFault)
  /-- A text that holds no settings. -/
  | settingsText
  | unknownLevel (name : String)
  | nothingToWatch
  | unscannedFiles (count : Nat)
  deriving DecidableEq, Repr, Inhabited

/-- A cause as it is told. -/
def Cause.message : Cause → String
  | file fault => fault.text
  | catalog fault => fault.message
  | pattern fault => fault.message
  | setting fault => fault.message
  | settingsText => "the text does not hold a valid configuration object"
  | unknownLevel name => Level.unknownMessage name
  | nothingToWatch => "No valid directories found to watch from input patterns"
  | unscannedFiles count =>
    s!"{count} file(s) could not be scanned (--fail-on-scan-errors enabled)"

/-- A cause with what was being done, outermost first. -/
structure Failure where
  contexts : List String := []
  cause : Cause
  deriving DecidableEq, Repr, Inhabited

namespace Failure

/-- A failure without context. -/
def of (cause : Cause) : Failure := { cause }

/-- A failure while something was being done. -/
def within (failure : Failure) (context : String) : Failure :=
  { failure with contexts := context :: failure.contexts }

/-- A failure because there is no such file. -/
def isNotFound (failure : Failure) : Bool :=
  match failure.cause with
  | .file fault => fault.trouble == .notFound
  | _ => false

/-- The messages of a failure, the cause last. -/
def messages (failure : Failure) : List String := failure.contexts ++ [failure.cause.message]

/-- The lines of a text, each behind the same margin except that the first one has its own. -/
def indented (first others text : String) : String :=
  first ++ String.ofList (text.toList.flatMap fun c => if c = '\n' then c :: others.toList else [c])

/-- The report of a failure that ends a program: what was being done, then the causes, which are
numbered when there are several. -/
def report (failure : Failure) : String :=
  match failure.messages with
  | [] => "Error: \n"
  | message :: causes =>
    let numbered (cause : String) (index : Nat) : String :=
      let number := toString index
      indented ("".pushn ' ' (5 - number.length) ++ number ++ ": ") "       " cause
    -- A single cause has no number.
    let lines := match causes with
      | [cause] => [indented "    " "    " cause]
      | causes => causes.zipIdx.map fun (cause, index) => numbered cause index
    let told := if lines.isEmpty then [] else "" :: "Caused by:" :: lines
    "\n".intercalate (("Error: " ++ message) :: told) ++ "\n"

end Failure

/-- A result that may be a failure. -/
abbrev Outcome (α : Type) := Except Failure α

/-- An outcome while something was being done. -/
def Outcome.within {α : Type} (outcome : Outcome α) (context : String) : Outcome α :=
  outcome.mapError fun failure => failure.within context

/-- Patterns that have all been checked; the first one that is none stops them. -/
def compilePatterns : List String → Outcome (List Pattern)
  | [] => .ok []
  | text :: texts => do
    let pattern ← Outcome.within ((Pattern.parse text).mapError fun fault => .of (.pattern fault))
      ("Invalid glob pattern: " ++ text)
    return pattern :: (← compilePatterns texts)

end MessageCatalog
