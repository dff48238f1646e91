import MessageCatalog.Source.Call

/-! A scan finds the translation calls of a source text and skips what is malformed. -/

namespace MessageCatalog.Source

/-- The state after a step, with the call that the step moved over, if it was one. -/
structure Step where
  state : State
  call : Option Call
  deriving DecidableEq, Repr, Inhabited

/-- A step moves over a whole call where one begins and over one lexical unit elsewhere. -/
def step (functions : List Function) (state : State) : Except ScanError (Option Step) :=
  let function := if state.isHidden then none
    else Function.named? functions state.cursor.before state.rest
  match function with
  | some function => (readCall function state).map fun (next, call) => some ⟨next, some call⟩
  | none => (stepLexical state).map fun next => next.map fun next => ⟨next, none⟩

/-- What a scan finds, and the malformed constructs that it skipped. -/
structure Scan where
  result : Except ScanError (List Call)
  skipped : List Malformed

/-- What is told about the skipped constructs. -/
def Scan.notes (scan : Scan) : List String :=
  scan.skipped.map fun construct => "Skipping malformed code at " ++ construct.message

/-- A scan from a state on, with the calls and the skipped constructs so far, last ones first.
After a malformed construct the innermost context is given up, and at top level one character. -/
def scanFrom (functions : List Function) (state : State) (calls : List Call)
    (skipped : List Malformed) : Scan :=
  match step functions state with
  | .ok none => ⟨.ok calls.reverse, skipped.reverse⟩
  | .ok (some next) =>
    if next.state.rest.length < state.rest.length then
      scanFrom functions next.state (next.call.toList ++ calls) skipped
    else ⟨.error (.stalled state.position), skipped.reverse⟩
  | .error (.malformed construct) =>
    -- The position stays when a context is given up, so the pair of both lengths goes down.
    match _open : state.stack, _left : state.rest with
    | _ :: stack, _ => scanFrom functions ⟨state.cursor, stack⟩ calls (construct :: skipped)
    | [], _ :: _ => scanFrom functions (state.advance 1) calls (construct :: skipped)
    | [], [] => ⟨.error (.stalled state.position), skipped.reverse⟩
  | .error fault => ⟨.error fault, skipped.reverse⟩
termination_by (state.rest.length, state.stack.length)
decreasing_by
  · exact Prod.Lex.left _ _ (by assumption)
  · exact Prod.Lex.right _ (by simp [_open])
  · exact Prod.Lex.left _ _ (State.advance_shorter (by decide) (by simp [_left]))

/-- The scan of a whole text. -/
def scan (functions : List Function) (text : List Char) : Scan :=
  scanFrom functions (.start text) [] []

end MessageCatalog.Source
