import MessageCatalog.Proofs.Source.Boundary

/-! Calls are read without looking behind a semicolon on a line of its own, and as they are read in a
text that begins there. -/

namespace MessageCatalog.Source

variable {front behind : List Char}

/-- Steps inside a context carry over, when the text cannot end there. -/
theorem carries_stepInside {state : State} (held : Held behind state)
    (goesOn : stepLexical state ≠ .ok none) :
    Carries front behind (State.amid front behind) (fun _ => True) (stepInside state)
      (stepInside (state.amid front behind)) := by
  -- The step is a lexical one, and the end of the text is not reached well.
  have steps := carries_stepLexical front held.firm (.inr goesOn)
  unfold stepInside
  cases stepped : stepLexical state with
  | error fault =>
    rw [stepped] at steps
    rcases steps with same | unclosed
    · rw [same]
      exact .inl rfl
    · exact .inr unclosed
  | ok next =>
    cases next with
    | none => exact absurd stepped goesOn
    | some next =>
      rw [stepped] at steps
      rw [steps.1]
      exact .of_ok rfl trivial

/-- The end of a walk, seen from the longer text. -/
def Walk.amid (front behind : List Char) : Walk → Walk
  | .reached state => .reached (state.amid front behind)
  | .ended state => .ended (state.amid front behind)

/-- A walk stops before the last line, unless nothing follows the text. -/
def Walk.StopsAhead (behind : List Char) : Walk → Prop
  | .reached state => Ahead behind state
  | .ended state => Ahead behind state

/-- Walks out of some contexts carry over. -/
theorem carries_stepUntil {base : List Context} {stop stop' : State → Bool}
    (same : ∀ state, stop' (state.amid front behind) = stop state)
    (stops : ∀ state, base <:+ state.stack → (stop state = true ↔ state.depth ≤ base.length))
    {state : State} (held : Held behind state) (inside : base <:+ state.stack)
    (deeper : base.length < state.depth) :
    Carries front behind (Walk.amid front behind) (Walk.StopsAhead behind)
      (stepUntil stop state) (stepUntil stop' (state.amid front behind)) := by
  have nonempty : state.stack ≠ [] := by
    intro outside
    simp [State.depth, outside] at deeper
  -- One step carries over, and the walk goes on from states of which one is the other in its text.
  rw [stepUntil_eq, stepUntil_eq]
  refine (carries_stepLexical front held.firm (held.not_ended nonempty)).bind fun next stepped _ => ?_
  -- Only at the end of the text there is no next state, and then nothing stands behind it.
  cases next with
  | none =>
    have last : behind = [] := (held.not_ended nonempty).resolve_right (absurd stepped)
    exact .of_ok rfl (.inl last)
  | some next =>
    have step : LexStep state next := stepped
    have kept := (lexical_of_stepLexical stepped).2.suffix inside deeper
    dsimp only [Option.map_some]
    rw [same]
    by_cases stopped : stop next = true
    · -- The step that stops the walk closes the last context that is not of the base.
      have closed : next.depth < state.depth := Nat.lt_of_le_of_lt ((stops next kept).1 stopped) deeper
      rw [if_pos stopped, if_pos stopped]
      exact .of_ok rfl (held.ahead_of_closed step closed)
    · rw [if_neg stopped, if_neg stopped]
      exact carries_stepUntil same stops (held.of_step step) kept
        (Nat.lt_of_not_le fun short => stopped ((stops next kept).2 short))
termination_by state.rest.length
decreasing_by exact stepLexical_shorter stepped

/-- The walk over a comment carries over. -/
theorem carries_comment {base : List Context} (visible : Visible base) {state : State}
    (stack : state.stack = base) (ahead : Ahead behind state) (unread : state.rest ≠ [])
    (comment : (Context.ofComment? state.rest).isSome = true) :
    Carries front behind (Walk.amid front behind) (Walk.StopsAhead behind)
      (stepUntil (fun next => next.depth == state.depth) state)
      (stepUntil (fun next => next.depth == (state.amid front behind).depth)
        (state.amid front behind)) := by
  -- The first step of the walk opens the comment, and from there it is inside a context.
  have firm := ahead.held.firm unread
  have comment' : (Context.ofComment? (state.amid front behind).rest).isSome = true :=
    (congrArg Option.isSome (ofComment?_of_firm firm)).trans comment
  obtain ⟨context, step, entered⟩ := stepUntil_comment visible stack comment
  have visible' : Visible (state.amid front behind).stack := visible.isHidden stack
  obtain ⟨context', step', entered'⟩ := stepUntil_comment visible' rfl comment'
  have inside : base <:+ (state.enter context).stack := by simp [State.enter, stack]
  have deeper : base.length < (state.enter context).depth := by
    simp [State.depth, State.enter, stack]
  have opened : (state.amid front behind).enter context' =
      (state.enter context).amid front behind := by
    have steps := carries_stepLexical front (fun _ => firm) (.inr (stepLexical_ne_none unread))
    rw [step, step'] at steps
    simpa using steps.1
  have same (next : State) : ((next.amid front behind).depth ==
      (state.amid front behind).depth) = (next.depth == state.depth) := rfl
  rw [entered, entered', opened]
  exact carries_stepUntil same (depth_beq_iff stack) (ahead.held.of_step step) inside deeper

/-- Skipping blanks and comments carries over, and stops at the semicolon at the latest. -/
theorem carries_skipTrivia {base : List Context} (visible : Visible base) {state : State}
    (restored : Restored base state) (ahead : Ahead behind state) :
    Carries front behind (State.amid front behind) (Ahead behind) (skipTrivia state)
      (skipTrivia (state.amid front behind)) := by
  -- The cases are those of the function: the end, a blank, a comment and anything else.
  cases left : state.rest with
  | nil =>
    have left' : (state.amid front behind).rest = [] := by
      rw [amid_rest, left, ahead.eq_nil left, List.append_nil]
    rw [skipTrivia_ended left, skipTrivia_ended left']
    exact .of_ok rfl ahead
  | cons c tail =>
    have left' : (state.amid front behind).rest = c :: (tail ++ behind) := by
      rw [amid_rest, left, List.cons_append]
    have stack := restored.stack_eq (by simp [left])
    by_cases blank : isBlank c = true
    · -- A semicolon is no blank, so the blank stands before it.
      have step := lexStep_plain (visible.isHidden stack) left (isMarker_of_isBlank blank)
      have other : c ≠ ';' := by
        rintro rfl
        exact absurd blank (by decide)
      have single : (state.advance 1).rest = tail := by simp [left]
      rw [skipTrivia_blank left blank, skipTrivia_blank left' blank,
        amid_advance (.inr (by simp [left]))]
      have skipped : Restored base (state.advance 1) := .inl stack
      exact carries_skipTrivia visible skipped (ahead.of_step step left other single)
    · -- What is no blank begins a comment, in both texts or in none.
      have firm := ahead.held.firm (by simp [left])
      have marks : Context.ofComment? (state.amid front behind).rest =
          Context.ofComment? state.rest := ofComment?_of_firm firm
      by_cases comment : (Context.ofComment? state.rest).isSome = true
      · rw [skipTrivia_comment left blank comment,
          skipTrivia_comment left' blank (by rw [marks, comment])]
        -- Behind the comment, skipping goes on.
        refine (carries_comment visible stack ahead (by simp [left]) comment).bind
          fun walk walked stopsAhead => ?_
        cases walk with
        | ended last => exact .of_ok rfl stopsAhead
        | reached next =>
          have again : Restored base next := .inl (leavesFor_of_comment visible stack comment walked)
          exact carries_skipTrivia visible again stopsAhead
      · rw [skipTrivia_other left blank comment,
          skipTrivia_other left' blank (by rw [marks]; exact comment)]
        exact .of_ok rfl ahead
termination_by state.rest.length
decreasing_by
  · exact State.advance_shorter (by decide) (by simp [left])
  · exact stepUntil_shorter walked

/-- The ends of a literal carry over. -/
theorem carries_closeLiteral {quote : Context} {base : List Context}
    (literal : quote.isQuote = true) {state : State} (held : Held behind state)
    (stack : state.stack = quote :: base ∨ base.length + 1 < state.depth) :
    Carries front behind (Option.map (Prod.map (State.amid front behind) (State.amid front behind)))
      (fun found => ∀ ends ∈ found, Ahead behind ends.2) (closeLiteral base.length state)
      (closeLiteral base.length (state.amid front behind)) := by
  rw [closeLiteral_eq, closeLiteral_eq, amid_depth]
  by_cases deeper : base.length + 1 < state.depth
  · rw [if_pos deeper, if_pos deeper]
    exact .of_ok rfl nofun
  · rw [if_neg deeper, if_neg deeper]
    have inside := stack.resolve_right deeper
    have goesOn := stepLexical_ne_none_of_quote literal inside
    -- Each step stays in the literal or closes it, and what closes it stands before the semicolon.
    refine (carries_stepInside held goesOn).bind fun next stepped _ => ?_
    have step := lexStep_of_stepInside stepped
    rw [amid_depth]
    -- The step closes the literal, or the search goes on in it.
    by_cases left : next.depth = base.length
    · rw [if_pos left, if_pos left]
      refine .of_ok rfl fun ends member => ?_
      cases member
      have depth : state.depth = base.length + 1 := by rw [State.depth, inside, List.length_cons]
      have closed : next.depth < state.depth := by omega
      exact held.ahead_of_closed step closed
    · rw [if_neg left, if_neg left]
      exact carries_closeLiteral literal (held.of_step step)
        (stack_of_closeLiteral literal inside stepped left)
termination_by state.rest.length
decreasing_by exact stepInside_shorter stepped

/-- The quote of a literal carries over. -/
theorem carries_openLiteral (argument : Argument) {opening : State}
    (ahead : Ahead behind opening) :
    Carries front behind (State.amid front behind) (fun _ => True) (openLiteral argument opening)
      (openLiteral argument (opening.amid front behind)) := by
  -- Something is left before the semicolon, so both texts begin with the same character.
  unfold openLiteral
  rw [amid_rest, ahead.head?]
  by_cases quoted : opening.rest.head?.any isQuoteChar = true
  · rw [if_pos quoted, if_pos quoted]
    have more : opening.rest ≠ [] := by
      intro ended
      simp [ended] at quoted
    exact carries_stepInside ahead.held (stepLexical_ne_none more)
  · rw [if_neg quoted, if_neg quoted]
    exact .inl rfl

/-- The separator behind a literal carries over. -/
theorem carries_takeSeparator {base : List Context} (visible : Visible base) {after : State}
    (restored : Restored base after) (ahead : Ahead behind after) (construct : Malformed)
    (parenthesized : Bool) :
    Carries front behind (State.amid front behind) (Ahead behind)
      (takeSeparator (.malformed construct) parenthesized after)
      (takeSeparator (.malformed (construct.after front)) parenthesized
        (after.amid front behind)) := by
  unfold takeSeparator
  -- At the end of the text nothing stands behind it, so there is no separator in either text.
  cases left : after.rest with
  | nil =>
    have left' : (after.amid front behind).rest = [] := by
      rw [amid_rest, left, ahead.eq_nil left, List.append_nil]
    rw [left']
    exact .of_ok rfl ahead
  | cons c tail =>
    rw [amid_rest, left, List.cons_append]
    dsimp only
    by_cases comma : c = ','
    · -- Only a comma is moved over.
      rw [if_pos comma, if_pos comma, amid_advance (.inr (by simp [left]))]
      have stack := restored.stack_eq (by simp [left])
      have step := lexStep_plain (visible.isHidden stack) left (comma ▸ by decide)
      have single : (after.advance 1).rest = tail := by simp [left]
      exact .of_ok rfl (ahead.of_step step left (comma ▸ by decide) single)
    · rw [if_neg comma, if_neg comma]
      by_cases closes : c = ')'
      · rw [if_pos closes, if_pos closes]
        exact .of_ok rfl ahead
      · rw [if_neg closes, if_neg closes]
        -- Only in parentheses a separator has to stand here.
        cases parenthesized with
        | true => exact .inl rfl
        | false => exact .of_ok rfl ahead

/-- Literal arguments carry over. -/
theorem carries_readLiteral {base : List Context} (visible : Visible base) {state : State}
    (restored : Restored base state) (ahead : Ahead behind state) (argument : Argument)
    (parenthesized : Bool) :
    Carries front behind (Prod.map id (State.amid front behind)) (fun read => Ahead behind read.2)
      (readLiteral argument parenthesized state)
      (readLiteral argument parenthesized (state.amid front behind)) := by
  -- The literal is read part by part, and each part leaves the semicolon ahead.
  rw [readLiteral_eq, readLiteral_eq]
  refine (carries_skipTrivia visible restored ahead).bind fun opening skipped ahead => ?_
  have restored := ((reads_skipTrivia visible restored).of_ok skipped).2
  refine (carries_openLiteral argument ahead).bind fun content opened _ => ?_
  obtain ⟨step, stack, quote, literal, inside⟩ :=
    (reads_openLiteral visible restored argument).of_ok opened
  have depth : opening.depth = base.length := by rw [State.depth, stack]
  rw [amid_depth, depth]
  have held := ahead.held.of_step step
  refine (carries_closeLiteral literal held (.inl inside)).bind fun ends found before => ?_
  have outside := (reads_closeLiteral literal (.inl inside)).of_ok found
  unfold takeLiteral
  -- A literal that has no ends, or no content, is malformed in both texts.
  rcases ends with - | ⟨last, closed⟩
  · exact .inl rfl
  · dsimp only [Option.map_some, Prod.map]
    have raw : (content.amid front behind).cursor.textTo (last.amid front behind).cursor =
        content.cursor.textTo last.cursor := textTo_amid _ _
    rw [raw]
    by_cases empty : (content.cursor.textTo last.cursor).isEmpty = true
    · rw [if_pos empty, if_pos empty]
      exact .inl rfl
    · rw [if_neg empty, if_neg empty]
      have restored : Restored base closed := .inl (outside _ rfl).2.2.1
      refine (carries_skipTrivia visible restored (before _ rfl)).bind fun after skipped ahead => ?_
      have restored := ((reads_skipTrivia visible restored).of_ok skipped).2
      exact (carries_takeSeparator visible restored ahead _ parenthesized).bind
        fun behind _ ahead => .of_ok rfl ahead

/-- Optional arguments carry over. -/
theorem carries_readOptional {base : List Context} (visible : Visible base) {state : State}
    (restored : Restored base state) (ahead : Ahead behind state) (present : Bool)
    (argument : Argument) (parenthesized : Bool) :
    Carries front behind (Prod.map id (State.amid front behind)) (fun read => Ahead behind read.2)
      (readOptional present argument parenthesized state)
      (readOptional present argument parenthesized (state.amid front behind)) := by
  -- An argument that is not there moves nothing.
  unfold readOptional
  cases present with
  | false => exact .of_ok rfl ahead
  | true =>
    rw [if_pos rfl, if_pos rfl]
    exact (carries_readLiteral visible restored ahead argument parenthesized).bind
      fun read _ ahead => .of_ok rfl ahead

/-- The parenthesis of an argument list carries over. -/
theorem carries_openList {base : List Context} (visible : Visible base) {named : State}
    (restored : Restored base named) (ahead : Ahead behind named) :
    Carries front behind (State.amid front behind) (Ahead behind) (openList named)
      (openList (named.amid front behind)) := by
  -- Both texts begin with the same character, and a parenthesis is moved over by a step.
  unfold openList
  rw [amid_rest, ahead.head?]
  by_cases opens : named.rest.head? = some '('
  · rw [if_pos opens, if_pos opens]
    obtain ⟨tail, left⟩ := List.head?_eq_some_iff.1 opens
    have stack := restored.stack_eq (by simp [left])
    have step := lexStep_paren (visible.isHidden stack) left
    have goesOn : stepLexical named ≠ .ok none := stepLexical_ne_none (by simp [left])
    refine (carries_stepInside ahead.held goesOn).imp fun opened found _ => ?_
    obtain rfl := LexStep.unique step (lexStep_of_stepInside found)
    have single : (named.enter .paren).rest = tail := by simp [left, Context.opening]
    exact ahead.of_step step left (by decide) single
  · rw [if_neg opens, if_neg opens]
    exact .of_ok rfl ahead

/-- Skipping further arguments carries over. -/
theorem carries_skipArguments {base : List Context} {state : State} (ahead : Ahead behind state)
    (inside : base <:+ state.stack) :
    Carries front behind (State.amid front behind) (Ahead behind)
      (skipArguments base.length state)
      (skipArguments base.length (state.amid front behind)) := by
  -- At the depth of the call nothing is skipped, and deeper than that a walk leaves the list.
  unfold skipArguments
  rw [amid_depth]
  by_cases short : state.depth ≤ base.length
  · rw [if_pos short, if_pos short]
    exact .of_ok rfl ahead
  · rw [if_neg short, if_neg short]
    have same (next : State) : decide ((next.amid front behind).depth ≤ base.length) =
        decide (next.depth ≤ base.length) := rfl
    have walks : Carries front behind (Walk.amid front behind) (Walk.StopsAhead behind)
        (stepUntil (fun next => decide (next.depth ≤ base.length)) state)
        (stepUntil (fun next => decide (next.depth ≤ base.length)) (state.amid front behind)) :=
      carries_stepUntil same (fun _ _ => decide_eq_true_iff) ahead.held inside
        (Nat.lt_of_not_le short)
    -- Where the walk ends does not matter, only that both do so at the same point.
    cases walked : stepUntil (fun next => decide (next.depth ≤ base.length)) state with
    | error fault =>
      rw [walked] at walks
      rcases walks with same | unclosed
      · rw [same]
        exact .inl rfl
      · exact .inr unclosed
    | ok walk =>
      rw [walked] at walks
      rw [walks.1]
      cases walk with
      | reached next => exact .of_ok rfl walks.2
      | ended last => exact .of_ok rfl walks.2

/-- Identifiers hold neither line feeds nor semicolons. -/
theorem clear_of_identifier {name : List Char}
    (identifier : ∀ c ∈ name, isIdentifierChar c = true) :
    ∀ c ∈ name, c ≠ '\n' ∧ c ≠ ';' := by
  -- Neither character is a part of an identifier.
  intro c member
  constructor
  · rintro rfl
    exact absurd (identifier _ member) (by decide)
  · rintro rfl
    exact absurd (identifier _ member) (by decide)

/-- Calls carry over. -/
theorem carries_readCall {state : State} {function : Function} {tail : List Char}
    (visible : state.isHidden = false) (nonempty : function.name ≠ [])
    (identifier : ∀ c ∈ function.name, isIdentifierChar c = true)
    (left : state.rest = function.name ++ tail) (held : Held behind state) :
    Carries front behind (Prod.map (State.amid front behind) (Call.after front))
      (fun read => Held behind read.1) (readCall function state)
      (readCall function (state.amid front behind)) := by
  -- The name stands before the semicolon, and so do the arguments, part by part.
  have toName := lexes_identifier visible identifier left
  have rest : (state.advance function.name.length).rest = tail := by simp [left]
  have ahead : Ahead behind (state.advance function.name.length) :=
    held.ahead_of_word toName left nonempty (clear_of_identifier identifier) rest
  have named : Restored state.stack (state.advance function.name.length) := .inl rfl
  rw [readCall_eq, readCall_eq, amid_advance (.inr (by simp [left]))]
  refine (carries_skipTrivia visible named ahead).bind fun list skipped ahead => ?_
  have restored := ((reads_skipTrivia visible named).of_ok skipped).2
  refine (carries_openList visible restored ahead).bind fun opened found ahead => ?_
  have around := ((reads_openList visible restored).of_ok found).2
  obtain ⟨base, inList, restored, inside, -⟩ := argumentList_of_opened visible around
  rw [amid_depth, amid_depth]
  dsimp only
  -- The optional parts and the text follow each other, with the semicolon ahead of each of them.
  refine (carries_readOptional inList restored ahead _ _ _).bind fun context found ahead => ?_
  have restored := ((reads_readOptional inList restored _ _ _).of_ok found).2.1
  refine (carries_readLiteral inList restored ahead _ _).bind fun text found ahead => ?_
  have restored := ((reads_readLiteral inList restored _ _).of_ok found).2
  refine (carries_readOptional inList restored ahead _ _ _).bind fun plural found ahead => ?_
  have restored := ((reads_readOptional inList restored _ _ _).of_ok found).2.1
  refine (carries_skipArguments ahead (restored.suffix inside)).bind fun last _ ahead => ?_
  have raw : (state.amid front behind).cursor.textTo (last.amid front behind).cursor =
      state.cursor.textTo last.cursor := textTo_amid _ _
  refine .of_ok ?_ ahead.held
  rw [raw]
  rfl

end MessageCatalog.Source
