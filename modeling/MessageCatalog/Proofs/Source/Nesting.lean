import MessageCatalog.Proofs.Source.Call

/-! Calls are read inside further parentheses as they are read outside of them. -/

namespace MessageCatalog.Source

/-- The same point of a text inside a number of further parentheses. -/
def State.inParens (n : Nat) (state : State) : State :=
  ⟨state.cursor, state.stack ++ List.replicate n .paren⟩

section

variable (n : Nat) (state : State)

@[simp] theorem inParens_cursor : (state.inParens n).cursor = state.cursor := rfl

@[simp] theorem inParens_rest : (state.inParens n).rest = state.rest := rfl

@[simp] theorem inParens_zero : state.inParens 0 = state := by
  simp [State.inParens]

@[simp] theorem inParens_advance (m : Nat) :
    (state.inParens n).advance m = (state.advance m).inParens n := rfl

@[simp] theorem inParens_depth : (state.inParens n).depth = state.depth + n := by
  simp [State.inParens, State.depth]

variable {state}

/-- Inside a context, further parentheses do not show. -/
theorem inParens_top (inside : state.stack ≠ []) : (state.inParens n).top = state.top := by
  rcases state with ⟨cursor, _ | ⟨context, stack⟩⟩
  · exact absurd rfl inside
  · rfl

theorem inParens_leave (inside : state.stack ≠ []) (context : Context) :
    (state.inParens n).leave context = (state.leave context).inParens n := by
  rcases state with ⟨cursor, _ | ⟨innermost, stack⟩⟩
  · exact absurd rfl inside
  · rfl

/-- At top level, all that shows is that a parenthesis is open. -/
theorem inParens_top_of_outermost (outside : state.stack = []) :
    (state.inParens n).top = none ∨ (state.inParens n).top = some .paren := by
  cases n with
  | zero => exact .inl (by simp [State.inParens, State.top, outside])
  | succ n => exact .inr (by simp [State.inParens, State.top, outside, List.replicate_succ])

@[simp] theorem inParens_isHidden : (state.inParens n).isHidden = state.isHidden := by
  -- Parentheses hide nothing, and any other innermost context is the same.
  by_cases outside : state.stack = []
  · have visible : state.isHidden = false := by simp [State.isHidden, State.top, outside]
    rw [visible, State.isHidden]
    rcases inParens_top_of_outermost n outside with top | top <;> rw [top] <;> rfl
  · rw [State.isHidden, inParens_top n outside, State.isHidden]

end

/-- An embedding ends at the same points inside further parentheses. -/
theorem closingInterpolation?_inParens (n : Nat) (state : State) :
    closingInterpolation? (state.inParens n) = closingInterpolation? state := by
  -- Only an innermost embedding can end.
  unfold closingInterpolation?
  by_cases outside : state.stack = []
  · have top : state.top = none := by simp [State.top, outside]
    rcases inParens_top_of_outermost n outside with other | other <;> rw [top, other]
  · rw [inParens_top n outside, inParens_rest]

/-- A step in code is the same inside further parentheses, unless it closes one of them. -/
theorem stepInCode_inParens (n : Nat) {state : State} {c : Char}
    (inside : state.stack = [] → c ≠ ')') :
    stepInCode (state.inParens n) c = (stepInCode state c).map (State.inParens n) := by
  -- The innermost context is asked for twice: at the end of an embedding and at the end of a
  -- parenthesis.
  unfold stepInCode
  rw [closingInterpolation?_inParens, inParens_rest]
  cases closing : closingInterpolation? state with
  | some context =>
    have nonempty : state.stack ≠ [] := by
      intro outside
      simp [closingInterpolation?, State.top, outside] at closing
    simp only [inParens_leave n nonempty]
    rfl
  | none =>
    dsimp only
    cases opening : (Context.ofQuote? c).or (Context.ofComment? state.rest) with
    | some context => rfl
    | none =>
      dsimp only
      by_cases opens : c = '('
      · rw [if_pos opens, if_pos opens]
        rfl
      · rw [if_neg opens, if_neg opens]
        by_cases closes : c = ')'
        · have nonempty : state.stack ≠ [] := fun outside => inside outside closes
          rw [if_pos closes, if_pos closes, inParens_top n nonempty, inParens_leave n nonempty]
          by_cases matching : state.top = some .paren
          · rw [if_pos matching, if_pos matching]
            rfl
          · rw [if_neg matching, if_neg matching]
            rfl
        · rw [if_neg closes, if_neg closes]
          rfl

/-- A step in a literal is the same inside further parentheses. -/
theorem stepInQuote_inParens (n : Nat) {state : State} (inside : state.stack ≠ [])
    (quote : Context) (c : Char) :
    stepInQuote (state.inParens n) quote c = (stepInQuote state quote c).inParens n := by
  -- Inside a literal only the literal itself can be left.
  unfold stepInQuote
  rw [inParens_leave n inside, inParens_rest]
  by_cases escape : c = '\\'
  · rw [if_pos escape, if_pos escape]
    rfl
  · rw [if_neg escape, if_neg escape]
    by_cases closes : quote.closing.isPrefixOf state.rest
    · rw [if_pos closes, if_pos closes]
    · rw [if_neg closes, if_neg closes]
      dsimp only
      split <;> rfl

/-- A step in a comment is the same inside further parentheses. -/
theorem stepInComment_inParens (n : Nat) {state : State} (inside : state.stack ≠ [])
    (comment : Context) :
    stepInComment (state.inParens n) comment = (stepInComment state comment).inParens n := by
  unfold stepInComment
  rw [inParens_leave n inside, inParens_rest]
  split <;> rfl

/-- A step is the same inside further parentheses, unless it closes one of them. -/
theorem stepLexical_inParens (n : Nat) {state : State} (more : state.rest ≠ [])
    (inside : state.stack = [] → state.rest.head? ≠ some ')') :
    stepLexical (state.inParens n) =
      (stepLexical state).map fun next => next.map (State.inParens n) := by
  -- At top level both steps are steps in code; elsewhere the innermost context is the same.
  obtain ⟨c, tail, left⟩ := List.exists_cons_of_ne_nil more
  have inCode : (stepInCode (state.inParens n) c).map some =
      ((stepInCode state c).map some).map fun next => next.map (State.inParens n) := by
    have framed : state.stack = [] → c ≠ ')' := by simpa [left] using inside
    rw [stepInCode_inParens n framed]
    cases stepInCode state c <;> rfl
  unfold stepLexical
  simp only [inParens_rest, left]
  -- A state without a context has a further parenthesis innermost, or none at all.
  by_cases outside : state.stack = []
  · have top : state.top = none := by simp [State.top, outside]
    rcases inParens_top_of_outermost n outside with other | other
    · simpa only [top, other] using inCode
    · simpa [top, other, Context.isQuote, Context.isComment] using inCode
  · rw [inParens_top n outside]
    cases top : state.top with
    | none => exact inCode
    | some context =>
      dsimp only
      by_cases quote : context.isQuote
      · rw [if_pos quote, if_pos quote, stepInQuote_inParens n outside]
        rfl
      · rw [if_neg quote, if_neg quote]
        by_cases comment : context.isComment
        · rw [if_pos comment, if_pos comment, stepInComment_inParens n outside]
          rfl
        · rw [if_neg comment, if_neg comment]
          exact inCode

/-- A step that is possible outside of further parentheses is possible inside. -/
theorem LexStep.inParens (n : Nat) {state next : State} (step : LexStep state next) :
    LexStep (state.inParens n) (next.inParens n) := by
  obtain ⟨more, -⟩ := lexical_of_stepLexical step
  have inside : state.stack = [] → state.rest.head? ≠ some ')' := by
    -- A parenthesis that closes none has no next state.
    intro outside closes
    obtain ⟨tail, left⟩ := List.head?_eq_some_iff.1 closes
    rw [LexStep, stepLexical_unopened outside left] at step
    cases step
  rw [LexStep, stepLexical_inParens n more inside, show stepLexical state = _ from step]
  rfl

/-- A reading inside further parentheses is the one outside of them, seen from inside, unless it comes
to the end of the text where a context is open. -/
def Agrees {α β : Type} (lift : α → β) (inner : Except ScanError β) (outer : Except ScanError α) :
    Prop :=
  inner = outer.map lift ∨ ∃ context line, inner = .error (.unclosed context line)

section

variable {α β γ δ : Type} {lift : α → β} {lift' : γ → δ}

/-- Readings with the same result agree. -/
theorem Agrees.of_ok {value : α} {inner : Except ScanError β} (same : inner = .ok (lift value)) :
    Agrees lift inner (.ok value) :=
  .inl same

/-- Readings with the same fault agree. -/
theorem agrees_error (fault : ScanError) :
    Agrees lift (throw fault : Except ScanError β) (throw fault : Except ScanError α) :=
  .inl rfl

/-- A reading that comes to the end of the text inside an open context agrees with all. -/
theorem agrees_unclosed (context : Context) (line : Nat) (outer : Except ScanError α) :
    Agrees lift (.error (.unclosed context line)) outer :=
  .inr ⟨context, line, rfl⟩

/-- Readings that agree go on to readings that agree. -/
theorem Agrees.bind {inner : Except ScanError β} {outer : Except ScanError α}
    {inner' : β → Except ScanError δ} {outer' : α → Except ScanError γ}
    (agrees : Agrees lift inner outer)
    (goesOn : ∀ value, outer = .ok value → Agrees lift' (inner' (lift value)) (outer' value)) :
    Agrees lift' (inner >>= inner') (outer >>= outer') := by
  rcases agrees with rfl | ⟨context, line, rfl⟩
  · cases outer with
    | error fault => exact agrees_error fault
    | ok value => exact goesOn value rfl
  · exact agrees_unclosed context line _

end

/-- A text that does not end well ends no better inside further parentheses. -/
theorem agrees_finish (n : Nat) (state : State) :
    Agrees id (finish (state.inParens n)) (finish state) := by
  -- A context that is told outside is told inside as well, and else the first of the further
  -- parentheses is.
  unfold finish
  simp only [State.inParens, List.find?_append]
  cases state.stack.find? (· != .lineComment) with
  | some context => exact .inl rfl
  | none =>
    cases n with
    | zero => exact .inl rfl
    | succ n =>
      rw [List.replicate_succ, List.find?_cons_of_pos (by decide)]
      exact agrees_unclosed _ _ _

/-- At the end of the text there is no step. -/
theorem stepLexical_ended {state : State} (ended : state.rest = []) :
    stepLexical state = (finish state).map fun _ => none := by
  rw [stepLexical, ended]

/-- Steps agree, unless a further parenthesis is closed. -/
theorem agrees_stepLexical (n : Nat) {state : State}
    (inside : state.stack = [] → state.rest.head? ≠ some ')') :
    Agrees (Option.map (State.inParens n)) (stepLexical (state.inParens n)) (stepLexical state) := by
  -- Before the end of the text the steps are the same, and at the end the texts end alike or one of
  -- them is unclosed.
  by_cases ended : state.rest = []
  · rw [stepLexical_ended ended, stepLexical_ended (by rw [inParens_rest, ended])]
    rcases agrees_finish n state with same | ⟨context, line, unclosed⟩
    · rw [same]
      cases finish state <;> exact .inl rfl
    · rw [unclosed]
      exact agrees_unclosed context line _
  · exact .inl (stepLexical_inParens n ended inside)

/-- Steps inside a context agree, unless a further parenthesis is closed. -/
theorem agrees_stepInside (n : Nat) {state : State}
    (inside : state.stack = [] → state.rest.head? ≠ some ')') :
    Agrees (State.inParens n) (stepInside (state.inParens n)) (stepInside state) := by
  -- The step is the lexical one, and its end is a fault on both sides.
  unfold stepInside
  rcases agrees_stepLexical n inside with same | ⟨context, line, unclosed⟩
  · rw [same]
    rcases stepLexical state with fault | - | next
    · exact agrees_error fault
    · exact agrees_unclosed _ _ _
    · exact .of_ok rfl
  · rw [unclosed]
    exact agrees_unclosed context line _

/-- The end of a walk inside further parentheses. -/
def Walk.inParens (n : Nat) : Walk → Walk
  | .reached state => .reached (state.inParens n)
  | .ended state => .ended (state.inParens n)

/-- A walk takes a step and tests the state behind it. -/
theorem stepUntil_eq (stop : State → Bool) (state : State) :
    stepUntil stop state = stepLexical state >>= fun next =>
      match next with
      | none => .ok (.ended state)
      | some next => if stop next then .ok (.reached next) else stepUntil stop next := by
  rw [stepUntil]
  split <;> rename_i stepped <;> rw [stepped] <;> rfl

/-- Walks out of some contexts agree when their tests do. -/
theorem agrees_stepUntil (n : Nat) {base : List Context} {stop stop' : State → Bool}
    (same : ∀ state, stop' (state.inParens n) = stop state)
    (stops : ∀ state, base <:+ state.stack → (stop state = true ↔ state.depth ≤ base.length))
    {state : State} (inside : base <:+ state.stack) (deeper : base.length < state.depth) :
    Agrees (Walk.inParens n) (stepUntil stop' (state.inParens n)) (stepUntil stop state) := by
  -- A walk is inside a context until it stops, so no further parenthesis is closed on it.
  have nonempty : state.stack ≠ [] := by
    intro outside
    simp [State.depth, outside] at deeper
  rw [stepUntil_eq, stepUntil_eq]
  refine (agrees_stepLexical n fun outside => absurd outside nonempty).bind fun next stepped => ?_
  cases next with
  | none => exact .of_ok rfl
  | some next =>
    dsimp only [Option.map_some]
    rw [same]
    by_cases stopped : stop next = true
    · rw [if_pos stopped, if_pos stopped]
      exact .of_ok rfl
    · rw [if_neg stopped, if_neg stopped]
      have kept := (lexical_of_stepLexical stepped).2.suffix inside deeper
      exact agrees_stepUntil n same stops kept
        (Nat.lt_of_not_le fun short => stopped ((stops next kept).2 short))
termination_by state.rest.length
decreasing_by exact stepLexical_shorter stepped

/-- Walks over a comment agree. -/
theorem agrees_comment (n : Nat) {base : List Context} (visible : Visible base) {state : State}
    (stack : state.stack = base) (comment : (Context.ofComment? state.rest).isSome = true) :
    Agrees (Walk.inParens n)
      (stepUntil (fun next => next.depth == (state.inParens n).depth) (state.inParens n))
      (stepUntil (fun next => next.depth == state.depth) state) := by
  -- The first step of the walk opens the comment, and from there it is inside a context.
  obtain ⟨context, step, entered⟩ := stepUntil_comment visible stack comment
  have inside : base <:+ (state.enter context).stack := by simp [State.enter, stack]
  have deeper : base.length < (state.enter context).depth := by
    simp [State.depth, State.enter, stack]
  have same (next : State) : ((next.inParens n).depth == (state.inParens n).depth) =
      (next.depth == state.depth) := by
    rw [Bool.eq_iff_iff, beq_iff_eq, beq_iff_eq, inParens_depth, inParens_depth]
    omega
  have goesOn : ((state.enter context).inParens n).depth ≠ (state.inParens n).depth := by
    simp [State.depth, State.enter, State.inParens]
  rw [entered, stepUntil_of_step (step.inParens n) (by simpa using goesOn)]
  exact agrees_stepUntil n same (depth_beq_iff stack) inside deeper

/-- Skipping blanks and comments agrees. -/
theorem agrees_skipTrivia (n : Nat) {base : List Context} (visible : Visible base) {state : State}
    (restored : Restored base state) :
    Agrees (State.inParens n) (skipTrivia (state.inParens n)) (skipTrivia state) := by
  -- The cases are those of the function: the end, a blank, a comment and anything else.
  cases left : state.rest with
  | nil =>
    rw [skipTrivia_ended left, skipTrivia_ended (by rw [inParens_rest, left])]
    exact .of_ok rfl
  | cons c tail =>
    have left' : (state.inParens n).rest = c :: tail := left
    have stack := restored.stack_eq (by simp [left])
    by_cases blank : isBlank c = true
    · rw [skipTrivia_blank left blank, skipTrivia_blank left' blank]
      have skipped : Restored base (state.advance 1) := .inl stack
      exact agrees_skipTrivia n visible skipped
    · by_cases comment : (Context.ofComment? state.rest).isSome = true
      · rw [skipTrivia_comment left blank comment, skipTrivia_comment left' blank comment]
        -- Behind the comment, skipping goes on.
        refine (agrees_comment n visible stack comment).bind fun walk walked => ?_
        cases walk with
        | ended last => exact .of_ok rfl
        | reached next =>
          have again : Restored base next := .inl (leavesFor_of_comment visible stack comment walked)
          exact agrees_skipTrivia n visible again
      · rw [skipTrivia_other left blank comment, skipTrivia_other left' blank comment]
        exact .of_ok rfl
termination_by state.rest.length
decreasing_by
  · exact State.advance_shorter (by decide) (by simp [left])
  · exact stepUntil_shorter walked

/-- A literal ends where a step leaves it, unless code is embedded in it. -/
theorem closeLiteral_eq (outer : Nat) (state : State) :
    closeLiteral outer state =
      if outer + 1 < state.depth then .ok none
      else stepInside state >>= fun next =>
        if next.depth = outer then .ok (some (state, next)) else closeLiteral outer next := by
  rw [closeLiteral]
  split
  · rfl
  · split <;> rename_i stepped <;> rw [stepped] <;> rfl

/-- The ends of a literal agree. -/
theorem agrees_closeLiteral (n : Nat) {quote : Context} {base : List Context}
    (literal : quote.isQuote = true) {state : State}
    (stack : state.stack = quote :: base ∨ base.length + 1 < state.depth) :
    Agrees (Option.map (Prod.map (State.inParens n) (State.inParens n)))
      (closeLiteral (base.length + n) (state.inParens n)) (closeLiteral base.length state) := by
  -- The depth is counted from the literal on, so the further parentheses cancel out.
  rw [closeLiteral_eq, closeLiteral_eq, inParens_depth]
  by_cases deeper : base.length + 1 < state.depth
  · rw [if_pos deeper, if_pos (by omega)]
    exact .of_ok rfl
  · rw [if_neg deeper, if_neg (by omega)]
    have inside := stack.resolve_right deeper
    have nonempty : state.stack ≠ [] := by simp [inside]
    refine (agrees_stepInside n fun outside => absurd outside nonempty).bind
      fun next stepped => ?_
    rw [inParens_depth]
    by_cases left : next.depth = base.length
    · rw [if_pos left, if_pos (by omega)]
      exact .of_ok rfl
    · rw [if_neg left, if_neg (by omega)]
      exact agrees_closeLiteral n literal (stack_of_closeLiteral literal inside stepped left)
termination_by state.rest.length
decreasing_by exact stepInside_shorter stepped

/-- The quote of a literal agrees. -/
theorem agrees_openLiteral (n : Nat) (argument : Argument) (opening : State) :
    Agrees (State.inParens n) (openLiteral argument (opening.inParens n))
      (openLiteral argument opening) := by
  unfold openLiteral
  rw [inParens_rest]
  -- A quote is no closing parenthesis, so the step agrees.
  by_cases quoted : opening.rest.head?.any isQuoteChar = true
  · rw [if_pos quoted, if_pos quoted]
    refine agrees_stepInside n fun _ closes => ?_
    rw [closes] at quoted
    exact absurd quoted (by decide)
  · rw [if_neg quoted, if_neg quoted]
    exact agrees_error _

/-- The separator behind a literal agrees. -/
theorem agrees_takeSeparator (n : Nat) (fault : ScanError) (parenthesized : Bool) (after : State) :
    Agrees (State.inParens n) (takeSeparator fault parenthesized (after.inParens n))
      (takeSeparator fault parenthesized after) := by
  unfold takeSeparator
  rw [inParens_rest]
  repeat' split
  all_goals first | exact .of_ok rfl | exact agrees_error _

/-- Literal arguments agree. -/
theorem agrees_readLiteral (n : Nat) {base : List Context} (visible : Visible base) {state : State}
    (restored : Restored base state) (argument : Argument) (parenthesized : Bool) :
    Agrees (Prod.map id (State.inParens n))
      (readLiteral argument parenthesized (state.inParens n))
      (readLiteral argument parenthesized state) := by
  -- Part by part; the contexts at each part are known from how it is read.
  rw [readLiteral_eq, readLiteral_eq]
  refine (agrees_skipTrivia n visible restored).bind fun opening skipped => ?_
  have restored := ((reads_skipTrivia visible restored).of_ok skipped).2
  refine (agrees_openLiteral n argument opening).bind fun content opened => ?_
  obtain ⟨-, stack, quote, literal, inside⟩ :=
    (reads_openLiteral visible restored argument).of_ok opened
  have depth : opening.depth = base.length := by rw [State.depth, stack]
  rw [inParens_depth, depth]
  refine (agrees_closeLiteral n literal (.inl inside)).bind fun ends closed => ?_
  have outside := (reads_closeLiteral literal (.inl inside)).of_ok closed
  unfold takeLiteral
  -- The literal has no end or no content in both readings, or in none.
  rcases ends with - | ⟨last, closed⟩
  · exact agrees_error _
  · dsimp only [Option.map_some, Prod.map]
    have raw : (content.inParens n).cursor.textTo (last.inParens n).cursor =
        content.cursor.textTo last.cursor := rfl
    by_cases empty : (content.cursor.textTo last.cursor).isEmpty = true
    · rw [if_pos empty, if_pos (raw ▸ empty)]
      exact agrees_error _
    · rw [if_neg empty, if_neg (raw ▸ empty)]
      refine (agrees_skipTrivia n visible (.inl (outside _ rfl).2.2.1)).bind fun after _ => ?_
      exact (agrees_takeSeparator n _ parenthesized after).bind fun behind _ => .of_ok rfl

/-- Optional arguments agree. -/
theorem agrees_readOptional (n : Nat) {base : List Context} (visible : Visible base) {state : State}
    (restored : Restored base state) (present : Bool) (argument : Argument)
    (parenthesized : Bool) :
    Agrees (Prod.map id (State.inParens n))
      (readOptional present argument parenthesized (state.inParens n))
      (readOptional present argument parenthesized state) := by
  -- An argument that is not there is the same on both sides.
  unfold readOptional
  cases present with
  | false => exact .of_ok rfl
  | true =>
    rcases agrees_readLiteral n visible restored argument parenthesized with same | ⟨_, _, unclosed⟩
    · rw [if_pos rfl, if_pos rfl, same]
      cases readLiteral argument parenthesized state <;> exact .inl rfl
    · rw [if_pos rfl, if_pos rfl, unclosed]
      exact agrees_unclosed _ _ _

/-- The parentheses of argument lists agree. -/
theorem agrees_openList (n : Nat) (named : State) :
    Agrees (State.inParens n) (openList (named.inParens n)) (openList named) := by
  unfold openList
  rw [inParens_rest]
  -- An opening parenthesis is no closing one, so the step agrees.
  by_cases opens : named.rest.head? = some '('
  · rw [if_pos opens, if_pos opens]
    refine agrees_stepInside n fun _ closes => ?_
    rw [closes] at opens
    cases opens
  · rw [if_neg opens, if_neg opens]
    exact .of_ok rfl

/-- Skipping further arguments agrees. -/
theorem agrees_skipArguments (n : Nat) {base : List Context} {state : State}
    (inside : base <:+ state.stack) :
    Agrees (State.inParens n) (skipArguments (base.length + n) (state.inParens n))
      (skipArguments base.length state) := by
  unfold skipArguments
  rw [inParens_depth]
  by_cases short : state.depth ≤ base.length
  · rw [if_pos short, if_pos (by omega)]
    exact .of_ok rfl
  · rw [if_neg short, if_neg (by omega)]
    -- The arguments end at the same parenthesis, counted with the further ones or without.
    have same (next : State) : decide ((next.inParens n).depth ≤ base.length + n) =
        decide (next.depth ≤ base.length) := by
      rw [inParens_depth, decide_eq_decide]
      omega
    have walks : Agrees (Walk.inParens n)
        (stepUntil (fun next => decide (next.depth ≤ base.length + n)) (state.inParens n))
        (stepUntil (fun next => decide (next.depth ≤ base.length)) state) :=
      agrees_stepUntil n same (fun _ _ => decide_eq_true_iff) inside (Nat.lt_of_not_le short)
    -- Both walks come to the same point, or the one with further parentheses ends in an open context.
    rcases walks with walked | ⟨context, line, unclosed⟩
    · rw [walked]
      rcases stepUntil (fun next => decide (next.depth ≤ base.length)) state with
        fault | next | last
      · exact agrees_error fault
      · exact .of_ok rfl
      · exact .of_ok rfl
    · rw [unclosed]
      exact agrees_unclosed context line _

/-- Calls agree. -/
theorem agrees_readCall (n : Nat) {state : State} {function : Function}
    (visible : state.isHidden = false) :
    Agrees (Prod.map (State.inParens n) id) (readCall function (state.inParens n))
      (readCall function state) := by
  -- Part by part; that the list has a parenthesis is told from depths, which differ by the same
  -- number.
  rw [readCall_eq, readCall_eq]
  have named : Restored state.stack (state.advance function.name.length) := .inl rfl
  rw [inParens_advance]
  refine (agrees_skipTrivia n visible named).bind fun list skipped => ?_
  have restored := ((reads_skipTrivia visible named).of_ok skipped).2
  refine (agrees_openList n list).bind fun opened found => ?_
  have around := ((reads_openList visible restored).of_ok found).2
  obtain ⟨base, inList, restored, inside, -⟩ := argumentList_of_opened visible around
  have parenthesized : decide ((state.inParens n).depth < (opened.inParens n).depth) =
      decide (state.depth < opened.depth) := by
    rw [inParens_depth, inParens_depth, decide_eq_decide]
    omega
  dsimp only
  rw [parenthesized]
  refine (agrees_readOptional n inList restored _ _ _).bind fun context found => ?_
  have restored := ((reads_readOptional inList restored _ _ _).of_ok found).2.1
  refine (agrees_readLiteral n inList restored _ _).bind fun text found => ?_
  have restored := ((reads_readLiteral inList restored _ _).of_ok found).2
  refine (agrees_readOptional n inList restored _ _ _).bind fun plural found => ?_
  have restored := ((reads_readOptional inList restored _ _ _).of_ok found).2.1
  rw [inParens_depth]
  exact (agrees_skipArguments n (restored.suffix inside)).bind fun behind _ => .of_ok rfl

end MessageCatalog.Source
