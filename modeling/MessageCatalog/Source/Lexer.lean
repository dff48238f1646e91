import MessageCatalog.Source.Fault

/-! A lexical step moves over one character or one marker and keeps track of the open contexts. -/

namespace MessageCatalog.Source

/-- Inside a literal only its end, an escape and, in a template, embedded code are recognised. -/
def stepInQuote (state : State) (quote : Context) (c : Char) : State :=
  -- An escape hides the character behind it, whatever that is.
  if c = '\\' then state.advance 2
  else if quote.closing.isPrefixOf state.rest then state.leave quote
  else
    let embedded := if quote = .backtick then
        Interpolation.all.find? fun kind => kind.opening.isPrefixOf state.rest
      else none
    match embedded with
    | some kind => state.enter (.interpolation kind)
    | none => state.advance 1

/-- Inside a comment only its end is recognised. -/
def stepInComment (state : State) (comment : Context) : State :=
  if comment.closing.isPrefixOf state.rest then state.leave comment else state.advance 1

/-- The end of the code in which a state lies, when that code is embedded and ends here. -/
def closingInterpolation? (state : State) : Option Context :=
  match state.top with
  | some (.interpolation kind) =>
    if kind.closing.isPrefixOf state.rest then some (.interpolation kind) else none
  | _ => none

/-- In code, the end of an embedding goes before literals, comments and parentheses. -/
def stepInCode (state : State) (c : Char) : Except ScanError State :=
  match closingInterpolation? state with
  | some context => .ok (state.leave context)
  | none =>
    match (Context.ofQuote? c).or (Context.ofComment? state.rest) with
    | some context => .ok (state.enter context)
    | none =>
      if c = '(' then .ok (state.enter .paren)
      else if c = ')' then
        -- Only the innermost parenthesis can be closed.
        if state.top = some .paren then .ok (state.leave .paren)
        else .error (.malformed ⟨.missingOpeningParen, state.position⟩)
      else .ok (state.advance 1)

/-- A text may end at top level or inside a line comment that lies there. -/
def finish (state : State) : Except ScanError Unit :=
  match state.stack.find? (· != .lineComment) with
  | some context => .error (.unclosed context state.position.line)
  | none => .ok ()

/-- The state after one lexical step, or none at the end of the text. -/
def stepLexical (state : State) : Except ScanError (Option State) :=
  match state.rest with
  | [] => (finish state).map fun _ => none
  | c :: _ =>
    match state.top with
    | some context =>
      if context.isQuote then .ok (some (stepInQuote state context c))
      else if context.isComment then .ok (some (stepInComment state context))
      -- In parentheses and in embeddings stands code, as it does outside of all contexts.
      else (stepInCode state c).map some
    | none => (stepInCode state c).map some

/-- No opening is empty. -/
theorem Context.opening_length (context : Context) : 0 < context.opening.length := by
  cases context with
  | interpolation kind => cases kind <;> decide
  | _ => decide

/-- No closing is empty. -/
theorem Context.closing_length (context : Context) : 0 < context.closing.length := by
  cases context with
  | interpolation kind => cases kind <;> decide
  | _ => decide

/-- Moving over at least one character of a text leaves less of it. -/
theorem State.advance_shorter {n : Nat} {state : State} (positive : 0 < n)
    (more : state.rest ≠ []) : (state.cursor.advance n).rest.length < state.rest.length := by
  have some_left := List.length_pos_iff.2 more
  rw [Cursor.advance_rest, List.length_drop]
  unfold State.rest at *
  omega

/-- A step inside a literal moves forward. -/
theorem stepInQuote_shorter {state : State} {quote : Context} {c : Char}
    (more : state.rest ≠ []) : (stepInQuote state quote c).rest.length < state.rest.length := by
  -- Each branch moves over a marker or over one or two characters.
  unfold stepInQuote
  dsimp only
  repeat' split
  all_goals first
    | exact State.advance_shorter (Context.closing_length _) more
    | exact State.advance_shorter (Context.opening_length _) more
    | exact State.advance_shorter (by decide) more

/-- A step inside a comment moves forward. -/
theorem stepInComment_shorter {state : State} {comment : Context} (more : state.rest ≠ []) :
    (stepInComment state comment).rest.length < state.rest.length := by
  unfold stepInComment
  split
  · exact State.advance_shorter (Context.closing_length _) more
  · exact State.advance_shorter (by decide) more

/-- A step in code moves forward. -/
theorem stepInCode_shorter {state next : State} {c : Char} (more : state.rest ≠ [])
    (stepped : stepInCode state c = .ok next) : next.rest.length < state.rest.length := by
  -- Only the branches without a fault have a next state, and all of them move.
  unfold stepInCode at stepped
  repeat' split at stepped
  all_goals cases stepped
  all_goals first
    | exact State.advance_shorter (Context.closing_length _) more
    | exact State.advance_shorter (Context.opening_length _) more
    | exact State.advance_shorter (by decide) more

/-- Every lexical step moves forward. -/
theorem stepLexical_shorter {state next : State} (stepped : stepLexical state = .ok (some next)) :
    next.rest.length < state.rest.length := by
  unfold stepLexical at stepped
  split at stepped
  · cases ended : finish state <;> simp [ended, Except.map] at stepped
  · -- There is a character left, so the step is one of the three kinds.
    rename_i c tail left
    have more : state.rest ≠ [] := by simp [left]
    have inCode (mapped : (stepInCode state c).map some = .ok (some next)) :
        next.rest.length < state.rest.length := by
      cases code : stepInCode state c with
      | error fault => simp [code, Except.map] at mapped
      | ok reached =>
        simp only [code, Except.map, Except.ok.injEq, Option.some.injEq] at mapped
        exact mapped ▸ stepInCode_shorter more code
    split at stepped
    · split at stepped
      · cases stepped; exact stepInQuote_shorter more
      · split at stepped
        · cases stepped; exact stepInComment_shorter more
        · exact inCode stepped
    · exact inCode stepped

/-- The first state on the way that passes a test, or the last state when the text ends first. -/
inductive Walk where
  | reached (state : State)
  | ended (state : State)
  deriving DecidableEq, Repr, Inhabited

/-- Lexical steps until a state passes a test; the first state is not tested. -/
def stepUntil (stop : State → Bool) (state : State) : Except ScanError Walk :=
  match _stepped : stepLexical state with
  | .error fault => .error fault
  | .ok none => .ok (.ended state)
  | .ok (some next) => if stop next then .ok (.reached next) else stepUntil stop next
termination_by state.rest.length
decreasing_by exact stepLexical_shorter (by assumption)

/-- A state that a walk reaches lies ahead of its start. -/
theorem stepUntil_shorter {stop : State → Bool} {state next : State}
    (walked : stepUntil stop state = .ok (.reached next)) :
    next.rest.length < state.rest.length := by
  -- The walk stops at the first step, or goes on from a state that is ahead already.
  induction state using stepUntil.induct stop with
  | case1 state fault stepped => rw [stepUntil, stepped] at walked; cases walked
  | case2 state stepped => rw [stepUntil, stepped] at walked; simp at walked
  | case3 state next' stepped stops =>
    rw [stepUntil, stepped] at walked
    simp only [stops, if_true, Except.ok.injEq, Walk.reached.injEq] at walked
    exact walked ▸ stepLexical_shorter stepped
  | case4 state next' stepped goesOn ih =>
    rw [stepUntil, stepped] at walked
    simp only [goesOn] at walked
    exact Nat.lt_trans (ih walked) (stepLexical_shorter stepped)

end MessageCatalog.Source
