/-! A log has four levels; what is more detailed than the limit is not shown. -/

namespace MessageCatalog

/-- How urgent a log line is. -/
inductive Level where
  | error
  | warn
  | info
  | debug
  deriving DecidableEq, Repr, Inhabited

namespace Level

/-- Levels count upwards from the most urgent one. -/
def rank : Level → Nat
  | error => 1
  | warn => 2
  | info => 3
  | debug => 4

/-- A line is shown when it is at least as urgent as the limit. -/
def shownAt (level limit : Level) : Bool := decide (level.rank ≤ limit.rank)

/-- The level that a name in letters of either case stands for. -/
def ofText? (text : String) : Option Level :=
  let name := text.map Char.toLower
  -- The longer name of a level is understood as well.
  if name = "error" then some error
  else if name = "warn" ∨ name = "warning" then some warn
  else if name = "info" then some info
  else if name = "debug" then some debug
  else none

/-- How an unknown name of a level is told. -/
def unknownMessage (text : String) : String :=
  "Unknown log level '" ++ text.map Char.toLower ++
    "' (expected one of: error, warn, info, debug)"

/-- What stands before a line of a level. -/
def label : Level → String
  | error => "ERROR: "
  | warn => "Warning: "
  | info => ""
  | debug => "DEBUG: "

end Level

/-- Where a program prints. -/
inductive Channel where
  | out
  | err
  deriving DecidableEq, Repr, Inhabited

/-- Only information goes to the output; the rest of a log goes beside it. -/
def Level.channel : Level → Channel
  | info => .out
  | _ => .err

/-- A place to print to, with the limit of its log. -/
class Console (m : Type → Type) where
  limit : m Level
  setLimit : Level → m Unit
  print : Channel → String → m Unit

section

variable {m : Type → Type} [Monad m] [Console m]

/-- Printing a line of output. -/
def putLine (line : String) : m Unit := Console.print .out (line ++ "\n")

/-- Printing a line beside the output. -/
def putErrorLine (line : String) : m Unit := Console.print .err (line ++ "\n")

/-- A log line is printed when its level is shown. -/
def log (level : Level) (message : String) : m Unit := do
  if level.shownAt (← Console.limit) then
    Console.print level.channel (level.label ++ message ++ "\n")

end

/-- What has been printed, and the limit of the log. -/
structure Screen where
  limit : Level := .info
  out : String := ""
  err : String := ""
  deriving DecidableEq, Repr, Inhabited

/-- Printing adds to the text of a channel. -/
def Screen.print (screen : Screen) (channel : Channel) (text : String) : Screen :=
  match channel with
  | .out => { screen with out := screen.out ++ text }
  | .err => { screen with err := screen.err ++ text }

end MessageCatalog
