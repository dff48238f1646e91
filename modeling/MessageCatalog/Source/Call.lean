import MessageCatalog.Message.Key
import MessageCatalog.Source.Function
import MessageCatalog.Source.Lexer
import MessageCatalog.Source.Literal
import MessageCatalog.Text.Blank
import MessageCatalog.Text.Normal

/-! A translation call is read from its name to the end of its argument list. -/

namespace MessageCatalog.Source

/-- A call whose required arguments are all literals. -/
structure Call where
  /-- The text of the whole call. -/
  raw : List Char
  /-- The message that its arguments name. -/
  message : Message
  /-- The point where the function name begins. -/
  start : Position
  /-- The point after the last character. -/
  stop : Position
  deriving DecidableEq, Repr, Inhabited

/-- The key of the message that is asked for. -/
def Call.key (call : Call) : Key := call.message.key

/-- Blanks and whole comments between arguments are skipped. -/
def skipTrivia (state : State) : Except ScanError State :=
  match _left : state.rest with
  | [] => .ok state
  | c :: _ =>
    if isBlank c then skipTrivia (state.advance 1)
    else if (Context.ofComment? state.rest).isSome then
      -- The comment is left where the depth is the one before it.
      match _walked : stepUntil (fun next => next.depth == state.depth) state with
      | .error fault => .error fault
      | .ok (.ended last) => .ok last
      | .ok (.reached next) => skipTrivia next
    else .ok state
termination_by state.rest.length
decreasing_by
  · exact State.advance_shorter (by decide) (by simp [_left])
  · exact stepUntil_shorter (by assumption)

/-- One step inside a context that has to be closed before the text ends. -/
def stepInside (state : State) : Except ScanError State :=
  match stepLexical state with
  | .error fault => .error fault
  | .ok (some next) => .ok next
  | .ok none => .error (.unclosed (state.top.getD .paren) state.position.line)

/-- A step inside a context moves forward. -/
theorem stepInside_shorter {state next : State} (stepped : stepInside state = .ok next) :
    next.rest.length < state.rest.length := by
  unfold stepInside at stepped
  split at stepped
  · cases stepped
  · rename_i reached lexical
    cases stepped
    exact stepLexical_shorter lexical
  · cases stepped

/-- The states before and after the end of a literal whose opening was at depth `outer`; none when
code is embedded in it. -/
def closeLiteral (outer : Nat) (state : State) : Except ScanError (Option (State × State)) :=
  if outer + 1 < state.depth then .ok none
  else match _stepped : stepInside state with
    | .error fault => .error fault
    | .ok next => if next.depth = outer then .ok (some (state, next)) else closeLiteral outer next
termination_by state.rest.length
decreasing_by exact stepInside_shorter (by assumption)

/-- A literal argument and the separator after it: its value in composed form and the state behind.
Between parentheses anything but a separator after the literal makes it part of an expression. -/
def readLiteral (argument : Argument) (parenthesized : Bool) (state : State) :
    Except ScanError (String × State) := do
  let opening ← skipTrivia state
  let notALiteral : ScanError := .malformed ⟨.notALiteral argument, opening.position⟩
  unless opening.rest.head?.any isQuoteChar do throw notALiteral
  let content ← stepInside opening
  -- Embedded code makes the value dynamic, so there is no literal to read.
  match ← closeLiteral opening.depth content with
  | none => throw notALiteral
  | some (last, closed) =>
    let raw := content.cursor.textTo last.cursor
    if raw.isEmpty then throw (.malformed ⟨.emptyLiteral argument, opening.position⟩)
    let value := String.ofList (composedForm (decodeEscapes raw))
    -- A separator is taken, but the end of the list is left for the call to close.
    let after ← skipTrivia closed
    match after.rest with
    | [] => return (value, after)
    | c :: _ =>
      if c = ',' then return (value, after.advance 1)
      else if c = ')' then return (value, after)
      else if parenthesized then throw notALiteral
      else return (value, after)

/-- Arguments after the required ones are skipped unread, up to the end of the list. -/
def skipArguments (outer : Nat) (state : State) : Except ScanError State :=
  if state.depth ≤ outer then .ok state
  else match stepUntil (fun next => decide (next.depth ≤ outer)) state with
    | .error fault => .error fault
    | .ok (.reached next) => .ok next
    | .ok (.ended last) => .ok last

/-- The call of a function whose name stands at a state, and the state behind the call. -/
def readCall (function : Function) (state : State) : Except ScanError (State × Call) := do
  -- The parenthesis is optional: without one the arguments follow the name.
  let named ← skipTrivia (state.advance function.name.length)
  let opened ← if named.rest.head? = some '(' then stepInside named else pure named
  let parenthesized := decide (state.depth < opened.depth)
  let (context, behindContext) ←
    if function.contextual then
      (fun read => (some read.1, read.2)) <$> readLiteral .context parenthesized opened
    else pure (none, opened)
  let (text, behindText) ← readLiteral .text parenthesized behindContext
  let (plural, behindPlural) ←
    if function.plural then
      (fun read => (some read.1, read.2)) <$> readLiteral .plural parenthesized behindText
    else pure (none, behindText)
  -- The call ends where the depth is that of its start again.
  let behind ← skipArguments state.depth behindPlural
  return (behind, {
    raw := state.cursor.textTo behind.cursor
    message := ⟨context, text, plural⟩
    start := state.position
    stop := behind.position })

end MessageCatalog.Source
