import Mathlib.Tactic.ByContra
import MessageCatalog.Proofs.Source.Lexer
import MessageCatalog.Source.Call

/-! A call is read by lexical steps alone, and the contexts behind it are those before it. -/

namespace MessageCatalog.Source

/-- Why a reading from a state can stop: at a malformed construct, or at the end of the text inside a
context that has to be closed. -/
def Stops (state : State) (fault : ScanError) : Prop :=
  (∃ construct, fault = .malformed construct) ∨
    ∃ last, Lexes state last ∧ last.rest = [] ∧ finish last = .error fault

/-- A reading from a state has a result with a property, or stops. -/
def Reads {α : Type} (state : State) (result : Except ScanError α) (property : α → Prop) : Prop :=
  match result with
  | .ok value => property value
  | .error fault => Stops state fault

/-- What stops a reading further on stops it. -/
theorem Stops.of_lexes {state next : State} {fault : ScanError} (lexes : Lexes state next)
    (stops : Stops next fault) : Stops state fault := by
  rcases stops with malformed | ⟨last, further, ended, unfinished⟩
  · exact .inl malformed
  · exact .inr ⟨last, lexes.trans further, ended, unfinished⟩

section

variable {α β : Type} {state next : State}

/-- A reading from further on is a reading. -/
theorem Reads.of_lexes {result : Except ScanError α} {property : α → Prop}
    (lexes : Lexes state next) (reads : Reads next result property) :
    Reads state result property := by
  cases result with
  | ok value => exact reads
  | error fault => exact Stops.of_lexes lexes reads

/-- A reading has every weaker property. -/
theorem Reads.imp {result : Except ScanError α} {property weaker : α → Prop}
    (reads : Reads state result property) (implies : ∀ value, property value → weaker value) :
    Reads state result weaker := by
  cases result with
  | ok value => exact implies value reads
  | error fault => exact reads

/-- A reading goes on from what it has read. -/
theorem Reads.bind {result : Except ScanError α} {further : α → Except ScanError β}
    {property : α → Prop} {last : β → Prop} (reads : Reads state result property)
    (goesOn : ∀ value, property value → Reads state (further value) last) :
    Reads state (result >>= further) last := by
  cases result with
  | ok value => exact goesOn value reads
  | error fault => exact reads

/-- What has been read has the property. -/
theorem Reads.of_ok {result : Except ScanError α} {property : α → Prop} {value : α}
    (reads : Reads state result property) (found : result = .ok value) : property value := by
  rw [found] at reads
  exact reads

/-- What is malformed stops a reading. -/
theorem reads_malformed (construct : Malformed) (property : α → Prop) :
    Reads state (throw (.malformed construct) : Except ScanError α) property :=
  .inl ⟨construct, rfl⟩

end

/-- A step that fails stops a reading. -/
theorem stops_of_stepLexical {state : State} {fault : ScanError}
    (failed : stepLexical state = .error fault) : Stops state fault := by
  -- At the end of the text a context is open, and before it only code can fail.
  have inCode {c : Char} (mapped : (stepInCode state c).map some = .error fault) :
      Stops state fault := by
    unfold stepInCode at mapped
    repeat' split at mapped
    all_goals
      first
        | cases mapped
          exact .inl ⟨_, rfl⟩
        | cases mapped
  -- Where no text is left, the fault is that of the open context.
  cases left : state.rest with
  | nil =>
    rw [stepLexical, left] at failed
    cases ended : finish state with
    | ok => simp [ended, Except.map] at failed
    | error other =>
      simp only [ended, Except.map, Except.error.injEq] at failed
      exact .inr ⟨state, .refl, left, failed ▸ ended⟩
  | cons c tail =>
    rw [stepLexical, left] at failed
    dsimp only at failed
    split at failed
    · split at failed
      · cases failed
      · split at failed
        · cases failed
        · exact inCode failed
    · exact inCode failed

/-- Without a next state, and without a fault, the text has ended well. -/
theorem finish_of_stepLexical {state : State} (ended : stepLexical state = .ok none) :
    state.rest = [] ∧ finish state = .ok () := by
  -- Where a character is left every branch has a next state or a fault.
  cases left : state.rest with
  | nil =>
    rw [stepLexical, left] at ended
    cases finished : finish state with
    | ok => exact ⟨rfl, rfl⟩
    | error fault => simp [finished, Except.map] at ended
  | cons c tail =>
    have map_ne {result : Except ScanError State} : result.map some ≠ .ok none := by
      cases result <;> simp [Except.map]
    rw [stepLexical, left] at ended
    dsimp only at ended
    split at ended
    · split at ended
      · cases ended
      · split at ended
        · cases ended
        · exact absurd ended map_ne
    · exact absurd ended map_ne

/-- Steps up to a state that passes a test, or to the end of the text. -/
theorem reads_stepUntil (stop : State → Bool) (state : State) :
    Reads state (stepUntil stop state) fun
      | .reached next => Lexes state next
      | .ended last => Lexes state last ∧ stepLexical last = .ok none := by
  -- The cases are those of the walk: a fault, the end of the text, a state that passes, and one
  -- from which it goes on.
  induction state using stepUntil.induct stop with
  | case1 state fault stepped =>
    rw [stepUntil, stepped]
    exact stops_of_stepLexical stepped
  | case2 state stepped =>
    rw [stepUntil, stepped]
    exact ⟨.refl, stepped⟩
  | case3 state next stepped stops =>
    rw [stepUntil, stepped]
    simp only [stops, if_true]
    exact .single stepped
  | case4 state next stepped goesOn ih =>
    rw [stepUntil, stepped]
    simp only [goesOn]
    refine (ih.of_lexes (.single stepped)).imp ?_
    rintro (last | last)
    · exact fun lexes => .head stepped lexes
    · exact fun ends => ⟨.head stepped ends.1, ends.2⟩

/-- A step from inside some contexts keeps them. -/
theorem Lexical.suffix {base : List Context} {state next : State} (lexical : Lexical state next)
    (inside : base <:+ state.stack) (deeper : base.length < state.depth) : base <:+ next.stack := by
  -- Only leaving removes a context, and that is not one of the base as long as there are further
  -- ones.
  cases lexical with
  | move n => exact inside
  | embed kind => exact inside.trans (List.suffix_cons _ _)
  | enter context => exact inside.trans (List.suffix_cons _ _)
  | leave context =>
    obtain ⟨above, equal⟩ := inside
    cases above with
    | nil => simp [State.depth, ← equal] at deeper
    | cons context above => exact ⟨above, by simp [State.leave, ← equal]⟩

/-- What a walk out of some contexts comes to: a state in which they are the only ones, or the end of
the text inside further ones. -/
def Walk.LeavesFor (base : List Context) : Walk → Prop
  | .reached next => next.stack = base
  | .ended last => base <:+ last.stack ∧ base.length < last.depth

/-- A walk out of some contexts ends where they are the only ones, or with the text. -/
theorem leavesFor_of_stepUntil {base : List Context} {stop : State → Bool}
    (stops : ∀ state, base <:+ state.stack → (stop state = true ↔ state.depth ≤ base.length))
    {state : State} {walk : Walk} (inside : base <:+ state.stack)
    (deeper : base.length < state.depth) (walked : stepUntil stop state = .ok walk) :
    walk.LeavesFor base := by
  -- Each step keeps the base below, so the first state that is no deeper has no other contexts.
  induction state using stepUntil.induct stop with
  | case1 state fault stepped =>
    rw [stepUntil, stepped] at walked
    cases walked
  | case2 state stepped =>
    rw [stepUntil, stepped] at walked
    cases walked
    exact ⟨inside, deeper⟩
  | case3 state next stepped stopped =>
    rw [stepUntil, stepped] at walked
    simp only [stopped, if_true, Except.ok.injEq] at walked
    cases walked
    -- Contexts that hold the base and are no more are the base.
    have kept := (lexical_of_stepLexical stepped).2.suffix inside deeper
    have short : next.stack.length ≤ base.length := (stops next kept).1 stopped
    exact (kept.eq_of_length (Nat.le_antisymm kept.length_le short)).symm
  | case4 state next stepped goesOn ih =>
    rw [stepUntil, stepped] at walked
    simp only [goesOn] at walked
    have kept := (lexical_of_stepLexical stepped).2.suffix inside deeper
    refine ih kept ?_ walked
    exact Nat.lt_of_not_le fun short => goesOn ((stops next kept).2 short)

/-- The contexts of a state are some given ones, but for a line comment in which the text ends. -/
def Restored (base : List Context) (state : State) : Prop :=
  state.stack = base ∨ (state.rest = [] ∧ state.stack = .lineComment :: base)

/-- Where text is left, the contexts are the given ones. -/
theorem Restored.stack_eq {base : List Context} {state : State} (restored : Restored base state)
    (more : state.rest ≠ []) : state.stack = base :=
  restored.resolve_right fun ended => more ended.1

/-- Contexts that hold some others hold them after a reading. -/
theorem Restored.suffix {outer base : List Context} {state : State} (restored : Restored base state)
    (inside : outer <:+ base) : outer <:+ state.stack := by
  rcases restored with same | ⟨-, comment⟩
  · exact same ▸ inside
  · exact comment ▸ inside.trans (List.suffix_cons _ _)

/-- After a reading in code, literals and comments are innermost. -/
theorem Restored.nested {base : List Context} {state : State} (restored : Restored base state)
    (code : CodeStack base) : Nested state.stack := by
  rcases restored with same | ⟨-, comment⟩
  · exact same ▸ .code code
  · exact comment ▸ .hidden rfl code

/-- The innermost of some contexts, if there is one, hides nothing. -/
def Visible (base : List Context) : Prop := base.head?.any Context.hidesCode = false

/-- In code nothing is hidden. -/
theorem CodeStack.visible {base : List Context} (code : CodeStack base) : Visible base := by
  cases code <;> rfl

/-- In visible contexts nothing is hidden. -/
theorem Visible.isHidden {base : List Context} (visible : Visible base) {state : State}
    (stack : state.stack = base) : state.isHidden = false := by
  subst stack
  exact visible

/-- Where the text ends well there is no visible context. -/
theorem Visible.eq_nil {base : List Context} (visible : Visible base) {last : State}
    (inside : base <:+ last.stack) (finished : finish last = .ok ()) : base = [] := by
  -- All contexts are line comments there, which hide what is in them.
  cases base with
  | nil => rfl
  | cons context base =>
    obtain rfl : context = .lineComment :=
      lineComment_of_finish finished (inside.subset (List.mem_cons_self ..))
    cases visible

/-- A text that ends well, deeper than some visible contexts, ends in a line comment. -/
theorem restored_of_ended {base : List Context} (visible : Visible base) {state last : State}
    (nested : base = [] → Nested state.stack) (lexes : Lexes state last)
    (inside : base <:+ last.stack) (deeper : base.length < last.depth)
    (ended : stepLexical last = .ok none) : Restored base last := by
  -- A text ends well at top level or in a line comment there, and top level is not deeper than
  -- anything.
  obtain ⟨noMore, finished⟩ := finish_of_stepLexical ended
  obtain rfl := visible.eq_nil inside finished
  rcases (lexes.nested (nested rfl)).of_finish finished with outermost | comment
  · simp [State.depth, outermost] at deeper
  · exact .inr ⟨noMore, comment⟩

/-- Blank characters are no markers. -/
theorem isMarker_of_isBlank {c : Char} (blank : isBlank c = true) : isMarker c = false := by
  -- None of the nine markers is a blank.
  by_contra marker
  simp only [isMarker, List.contains_cons, List.contains_nil, Bool.or_false, Bool.not_eq_false,
    Bool.or_eq_true, beq_iff_eq] at marker
  rcases marker with rfl | rfl | rfl | rfl | rfl | rfl | rfl | rfl | rfl <;>
    exact absurd blank (by decide)

/-- Identifier characters are no markers. -/
theorem isMarker_of_isIdentifierChar {c : Char} (identifier : isIdentifierChar c = true) :
    isMarker c = false := by
  -- None of the nine markers is a part of an identifier.
  by_contra marker
  simp only [isMarker, List.contains_cons, List.contains_nil, Bool.or_false, Bool.not_eq_false,
    Bool.or_eq_true, beq_iff_eq] at marker
  rcases marker with rfl | rfl | rfl | rfl | rfl | rfl | rfl | rfl | rfl <;>
    exact absurd identifier (by decide)

/-- The first step of a walk, when it does not end there. -/
theorem stepUntil_of_step {stop : State → Bool} {state next : State} (step : LexStep state next)
    (goesOn : stop next = false) : stepUntil stop state = stepUntil stop next := by
  rw [stepUntil, show stepLexical state = _ from step]
  simp only [goesOn, Bool.false_eq_true, if_false]

section

variable {state : State}

/-- At the end of the text nothing is skipped. -/
theorem skipTrivia_ended (left : state.rest = []) : skipTrivia state = .ok state := by
  unfold skipTrivia
  split
  · rfl
  · simp_all

variable {c : Char} {tail : List Char}

/-- A blank is skipped. -/
theorem skipTrivia_blank (left : state.rest = c :: tail) (blank : isBlank c = true) :
    skipTrivia state = skipTrivia (state.advance 1) := by
  rw [skipTrivia]
  split
  · simp_all
  · simp_all

/-- The state behind a comment from which skipping goes on, unless the text ended with it. -/
def skipBehind : Walk → Except ScanError State
  | .ended last => .ok last
  | .reached next => skipTrivia next

/-- A comment is skipped as a whole. -/
theorem skipTrivia_comment (left : state.rest = c :: tail) (notBlank : ¬ isBlank c = true)
    (comment : (Context.ofComment? state.rest).isSome = true) :
    skipTrivia state =
      stepUntil (fun next => next.depth == state.depth) state >>= skipBehind := by
  rw [skipTrivia]
  -- Text is left, so only the other case applies.
  split
  · simp_all
  · rename_i first rest left'
    obtain ⟨rfl, rfl⟩ : c = first ∧ tail = rest := by simpa [left] using left'
    rw [if_neg notBlank, if_pos comment]
    split <;> rename_i walked <;> rw [walked] <;> rfl

/-- Skipping ends at anything else. -/
theorem skipTrivia_other (left : state.rest = c :: tail) (notBlank : ¬ isBlank c = true)
    (noComment : ¬ (Context.ofComment? state.rest).isSome = true) :
    skipTrivia state = .ok state := by
  rw [skipTrivia]
  split
  · rfl
  · simp_all

end

/-- The comment at a state is opened by one step, and from there a walk leaves it. -/
theorem stepUntil_comment {base : List Context} (visible : Visible base) {state : State}
    (stack : state.stack = base) (comment : (Context.ofComment? state.rest).isSome = true) :
    ∃ context, LexStep state (state.enter context) ∧
      stepUntil (fun next => next.depth == state.depth) state =
        stepUntil (fun next => next.depth == state.depth) (state.enter context) := by
  -- The mark of the comment is moved over, which opens one context.
  obtain ⟨context, found⟩ := Option.isSome_iff_exists.1 comment
  have step := lexStep_comment (visible.isHidden stack) found
  refine ⟨context, step, stepUntil_of_step step ?_⟩
  simp [State.depth, State.enter]

/-- At the depth of some contexts a walk that holds them has left all further ones. -/
theorem depth_beq_iff {base : List Context} {state : State} (stack : state.stack = base)
    (next : State) (inside : base <:+ next.stack) :
    (next.depth == state.depth) = true ↔ next.depth ≤ base.length := by
  -- Contexts that hold the base are no fewer than it.
  have atLeast := inside.length_le
  rw [beq_iff_eq, State.depth, State.depth, stack]
  omega

/-- Of a comment a walk leaves nothing, unless the text ends inside it. -/
theorem leavesFor_of_comment {base : List Context} (visible : Visible base) {state : State}
    (stack : state.stack = base) (comment : (Context.ofComment? state.rest).isSome = true)
    {walk : Walk} (walked : stepUntil (fun next => next.depth == state.depth) state = .ok walk) :
    walk.LeavesFor base := by
  -- From inside the comment the walk stops at the depth of the state before it.
  obtain ⟨context, -, entered⟩ := stepUntil_comment visible stack comment
  have inside : base <:+ (state.enter context).stack := by simp [State.enter, stack]
  have deeper : base.length < (state.enter context).depth := by
    simp [State.depth, State.enter, stack]
  exact leavesFor_of_stepUntil (depth_beq_iff stack) inside deeper (entered ▸ walked)

/-- Blanks and comments are skipped by lexical steps. -/
theorem reads_skipTrivia {base : List Context} (visible : Visible base) {state : State}
    (restored : Restored base state) :
    Reads state (skipTrivia state) fun next => Lexes state next ∧ Restored base next := by
  -- The cases are the end, a blank, the three ways in which a comment can end, and anything else.
  induction state using skipTrivia.induct with
  | case1 state left =>
    rw [skipTrivia_ended left]
    exact ⟨.refl, restored⟩
  | case2 state c tail left blank ih =>
    have stack := restored.stack_eq (by simp [left])
    have step := lexStep_plain (visible.isHidden stack) left (isMarker_of_isBlank blank)
    rw [skipTrivia_blank left blank]
    refine ((ih (.inl stack)).of_lexes (.single step)).imp ?_
    exact fun next ⟨lexes, again⟩ => ⟨.head step lexes, again⟩
  | case3 state c tail left notBlank comment fault walked =>
    rw [skipTrivia_comment left notBlank comment, walked]
    have reads := reads_stepUntil (fun next => next.depth == state.depth) state
    rw [walked] at reads
    exact reads
  -- Only a line comment may still be open where the text ends.
  | case4 state c tail left notBlank comment last walked =>
    have stack := restored.stack_eq (by simp [left])
    rw [skipTrivia_comment left notBlank comment, walked]
    have reads := reads_stepUntil (fun next => next.depth == state.depth) state
    rw [walked] at reads
    obtain ⟨lexes, ended⟩ := reads
    have leaves : base <:+ last.stack ∧ base.length < last.depth :=
      leavesFor_of_comment visible stack comment walked
    have nested : base = [] → Nested state.stack := fun empty =>
      .code (by rw [stack, empty]; exact .outermost)
    exact ⟨lexes, restored_of_ended visible nested lexes leaves.1 leaves.2 ended⟩
  -- The comment ended, and skipping goes on from the contexts it began in.
  | case5 state c tail left notBlank comment next walked ih =>
    have stack := restored.stack_eq (by simp [left])
    rw [skipTrivia_comment left notBlank comment, walked]
    have reads := reads_stepUntil (fun next => next.depth == state.depth) state
    rw [walked] at reads
    have again : next.stack = base := leavesFor_of_comment visible stack comment walked
    refine ((ih (.inl again)).of_lexes reads).imp ?_
    exact fun last ⟨lexes, restored⟩ => ⟨.trans reads lexes, restored⟩
  | case6 state c tail left notBlank noComment =>
    rw [skipTrivia_other left notBlank noComment]
    exact ⟨.refl, restored⟩

/-- A step inside a context is a step. -/
theorem lexStep_of_stepInside {state next : State} (stepped : stepInside state = .ok next) :
    LexStep state next := by
  unfold stepInside at stepped
  split at stepped
  · cases stepped
  · rename_i reached lexical
    cases stepped
    exact lexical
  · cases stepped

/-- A step inside a context is possible or stops, when the text cannot end there. -/
theorem reads_stepInside {state : State} (goesOn : stepLexical state ≠ .ok none) :
    Reads state (stepInside state) (LexStep state) := by
  -- The only other result would be the end of the text.
  unfold stepInside
  cases stepped : stepLexical state with
  | error fault => exact stops_of_stepLexical stepped
  | ok next =>
    cases next with
    | none => exact absurd stepped goesOn
    | some next => exact stepped

/-- Where text is left, there is a step or a fault. -/
theorem stepLexical_ne_none {state : State} (more : state.rest ≠ []) :
    stepLexical state ≠ .ok none :=
  fun ended => more (finish_of_stepLexical ended).1

/-- A text does not end well inside a literal. -/
theorem stepLexical_ne_none_of_quote {state : State} {quote : Context} {base : List Context}
    (literal : quote.isQuote = true) (stack : state.stack = quote :: base) :
    stepLexical state ≠ .ok none := by
  -- A quote is the first context that would be told as unclosed.
  intro ended
  have finished := (finish_of_stepLexical ended).2
  have noComment : quote ≠ .lineComment := by
    rintro rfl
    cases literal
  rw [finish, stack, List.find?_cons_of_pos (by simpa using noComment)] at finished
  cases finished

/-- A step inside a literal stays there, enters embedded code or leaves the literal. -/
theorem Lexical.stack_of_quote {state next : State} {quote : Context} {base : List Context}
    (literal : quote.isQuote = true) (stack : state.stack = quote :: base)
    (lexical : Lexical state next) :
    next.stack = quote :: base ∨ base.length + 1 < next.depth ∨ next.stack = base := by
  -- Nothing is opened in a literal but embedded code.
  cases lexical with
  | move n => exact .inl stack
  | embed kind => exact .inr (.inl (by simp [State.depth, State.enter, stack]))
  | enter context code =>
    have hidden : state.isHidden = true := by
      simp [State.isHidden, State.top, stack, Context.hidesCode, literal]
    rw [hidden] at code
    cases code
  | leave context => exact .inr (.inr (by simp [State.leave, stack]))

/-- A step from which a literal goes on stays in it or enters embedded code. -/
theorem stack_of_closeLiteral {state next : State} {quote : Context} {base : List Context}
    (literal : quote.isQuote = true) (stack : state.stack = quote :: base)
    (stepped : stepInside state = .ok next) (goesOn : next.depth ≠ base.length) :
    next.stack = quote :: base ∨ base.length + 1 < next.depth := by
  have lexical := (lexical_of_stepLexical (lexStep_of_stepInside stepped)).2
  rcases lexical.stack_of_quote literal stack with same | more | outside
  · exact .inl same
  · exact .inr more
  · exact absurd (by rw [State.depth, outside]) goesOn

/-- A literal without embedded code is read by lexical steps. -/
theorem reads_closeLiteral {quote : Context} {base : List Context}
    (literal : quote.isQuote = true) {state : State}
    (stack : state.stack = quote :: base ∨ base.length + 1 < state.depth) :
    Reads state (closeLiteral base.length state) fun found =>
      ∀ ends ∈ found, Lexes state ends.1 ∧ LexStep ends.1 ends.2 ∧ ends.2.stack = base ∧
        ends.1.stack = quote :: base := by
  -- Along the search the literal stays innermost, or code is embedded and the search ends.
  induction state using closeLiteral.induct base.length with
  | case1 state deeper =>
    rw [closeLiteral, if_pos deeper]
    exact nofun
  -- Each step of the search is one of the lexer, whose fault is that of the reading.
  | case2 state notDeeper fault stepped =>
    have inside := stack.resolve_right notDeeper
    have reads := reads_stepInside (stepLexical_ne_none_of_quote literal inside)
    rw [stepped] at reads
    rw [closeLiteral, if_neg notDeeper, stepped]
    exact reads
  | case3 state notDeeper next stepped left =>
    have inside := stack.resolve_right notDeeper
    have step := lexStep_of_stepInside stepped
    rw [closeLiteral, if_neg notDeeper, stepped]
    simp only [left, if_true]
    rintro ends ⟨⟩
    refine ⟨.refl, step, ?_, inside⟩
    -- Of the contexts that a step can come to, only those outside have their depth.
    rcases (lexical_of_stepLexical step).2.stack_of_quote literal inside with same | more | outside
    · simp [State.depth, same] at left
    · omega
    · exact outside
  | case4 state notDeeper next stepped notLeft ih =>
    have inside := stack.resolve_right notDeeper
    have step := lexStep_of_stepInside stepped
    rw [closeLiteral, if_neg notDeeper, stepped]
    simp only [notLeft, if_false]
    -- The literal is still innermost, or there is embedded code, at which the search ends.
    have stays := stack_of_closeLiteral literal inside stepped notLeft
    refine ((ih stays).of_lexes (.single step)).imp ?_
    intro found property ends member
    obtain ⟨lexes, last⟩ := property ends member
    exact ⟨.head step lexes, last⟩

/-- The state behind the quote with which a literal argument begins. -/
def openLiteral (argument : Argument) (opening : State) : Except ScanError State :=
  if opening.rest.head?.any isQuoteChar then stepInside opening
  else throw (.malformed ⟨.notALiteral argument, opening.position⟩)

/-- The state behind the separator after a literal. -/
def takeSeparator (fault : ScanError) (parenthesized : Bool) (after : State) :
    Except ScanError State :=
  match after.rest with
  | [] => pure after
  | c :: _ =>
    if c = ',' then pure (after.advance 1)
    else if c = ')' then pure after
    else if parenthesized then throw fault
    else pure after

/-- The value between the ends of a literal, and the state behind its separator. -/
def takeLiteral (argument : Argument) (parenthesized : Bool) (opening content : State) :
    Option (State × State) → Except ScanError (String × State)
  | none => throw (.malformed ⟨.notALiteral argument, opening.position⟩)
  | some (last, closed) =>
    let raw := content.cursor.textTo last.cursor
    if raw.isEmpty then throw (.malformed ⟨.emptyLiteral argument, opening.position⟩)
    else do
      let after ← skipTrivia closed
      let behind ← takeSeparator (.malformed ⟨.notALiteral argument, opening.position⟩)
        parenthesized after
      return (String.ofList (composedForm (decodeEscapes raw)), behind)

/-- A literal argument is read from its quote, over its content, to the separator. -/
theorem readLiteral_eq (argument : Argument) (parenthesized : Bool) (state : State) :
    readLiteral argument parenthesized state = (do
      let opening ← skipTrivia state
      let content ← openLiteral argument opening
      let ends ← closeLiteral opening.depth content
      takeLiteral argument parenthesized opening content ends) := by
  -- Both sides take the same steps in the same order, so they are compared step by step.
  unfold readLiteral openLiteral
  refine congrArg (skipTrivia state >>= ·) (funext fun opening => ?_)
  by_cases quoted : opening.rest.head?.any isQuoteChar = true
  · rw [if_pos quoted, if_pos quoted]
    refine congrArg (stepInside opening >>= ·) (funext fun content => ?_)
    refine congrArg (closeLiteral opening.depth content >>= ·) (funext fun ends => ?_)
    -- A literal with embedded code has no ends to take.
    rcases ends with - | ⟨last, closed⟩
    · rfl
    · dsimp only [takeLiteral]
      split
      · rfl
      · refine congrArg (skipTrivia closed >>= ·) (funext fun after => ?_)
        unfold takeSeparator
        cases after.rest with
        | nil => rfl
        | cons c tail =>
          dsimp only
          by_cases comma : c = ','
          · rw [if_pos comma, if_pos comma]
            rfl
          · by_cases closes : c = ')'
            · rw [if_neg comma, if_neg comma, if_pos closes, if_pos closes]
              rfl
            · rw [if_neg comma, if_neg comma, if_neg closes, if_neg closes]
              cases parenthesized <;> rfl
  · rw [if_neg quoted, if_neg quoted]
    rfl

/-- The quote of a literal is moved over by a step, behind which the literal is open. -/
theorem reads_openLiteral {base : List Context} (visible : Visible base) {opening : State}
    (restored : Restored base opening) (argument : Argument) :
    Reads opening (openLiteral argument opening) fun content =>
      LexStep opening content ∧ opening.stack = base ∧
        ∃ quote, quote.isQuote = true ∧ content.stack = quote :: base := by
  unfold openLiteral
  by_cases quoted : opening.rest.head?.any isQuoteChar = true
  · rw [if_pos quoted]
    obtain ⟨c, first, isQuote⟩ := (Option.any_eq_true _ _).1 quoted
    obtain ⟨tail, left⟩ := List.head?_eq_some_iff.1 first
    have stack := restored.stack_eq (by simp [left])
    obtain ⟨quote, found⟩ := Option.isSome_iff_exists.1 isQuote
    have step := lexStep_quote (visible.isHidden stack) left found
    refine (reads_stepInside (stepLexical_ne_none (by simp [left]))).imp ?_
    intro content other
    obtain rfl := LexStep.unique step other
    -- Only quotes open literals, whichever of the three it is.
    have literal : quote.isQuote = true := by
      unfold Context.ofQuote? at found
      repeat' split at found
      all_goals cases found
      all_goals rfl
    exact ⟨step, stack, quote, literal, by simp [State.enter, stack]⟩
  · rw [if_neg quoted]
    exact reads_malformed _ _

/-- A separator is moved over by a step. -/
theorem reads_takeSeparator {base : List Context} (visible : Visible base) {after : State}
    (restored : Restored base after) (construct : Malformed) (parenthesized : Bool) :
    Reads after (takeSeparator (.malformed construct) parenthesized after) fun behind =>
      Lexes after behind ∧ Restored base behind := by
  -- Only a comma is moved over, and it is no marker.
  unfold takeSeparator
  cases left : after.rest with
  | nil => exact ⟨.refl, restored⟩
  | cons c tail =>
    have stack := restored.stack_eq (by simp [left])
    dsimp only
    split
    · rename_i comma
      have step := lexStep_plain (visible.isHidden stack) left (comma ▸ by decide)
      exact ⟨.single step, .inl stack⟩
    · split
      · exact ⟨.refl, restored⟩
      · split
        · exact reads_malformed _ _
        · exact ⟨.refl, restored⟩

/-- A literal argument is read by lexical steps, behind which the contexts are those before it. -/
theorem reads_readLiteral {base : List Context} (visible : Visible base) {state : State}
    (restored : Restored base state) (argument : Argument) (parenthesized : Bool) :
    Reads state (readLiteral argument parenthesized state) fun read =>
      Lexes state read.2 ∧ Restored base read.2 := by
  -- The argument is read from what comes before the quote, over the literal, to what comes behind
  -- the separator.
  rw [readLiteral_eq]
  refine (reads_skipTrivia visible restored).bind fun opening ⟨toOpening, restored⟩ => ?_
  refine .of_lexes toOpening ?_
  refine (reads_openLiteral visible restored argument).bind
    fun content ⟨step, stack, quote, literal, inside⟩ => ?_
  refine .of_lexes (.single step) ?_
  have depth : opening.depth = base.length := by rw [State.depth, stack]
  rw [depth]
  refine (reads_closeLiteral literal (.inl inside)).bind fun ends property => ?_
  unfold takeLiteral
  rcases ends with - | ⟨last, closed⟩
  · exact reads_malformed _ _
  · obtain ⟨toLast, close, outside, -⟩ := property (last, closed) rfl
    dsimp only at close outside ⊢
    have toClosed : Lexes content closed := toLast.tail close
    split
    · exact reads_malformed _ _
    · refine .of_lexes toClosed ?_
      refine (reads_skipTrivia visible (.inl outside)).bind fun after ⟨toAfter, restored⟩ => ?_
      refine .of_lexes toAfter ?_
      refine (reads_takeSeparator visible restored _ parenthesized).bind
        fun behind ⟨toBehind, restored⟩ => ⟨?_, restored⟩
      exact toOpening.trans (.head step (toClosed.trans (toAfter.trans toBehind)))

/-- An argument that only some functions have. -/
def readOptional (present : Bool) (argument : Argument) (parenthesized : Bool) (state : State) :
    Except ScanError (Option String × State) :=
  if present then
    (fun read => (some read.1, read.2)) <$> readLiteral argument parenthesized state
  else pure (none, state)

/-- The state behind the parenthesis of an argument list that has one. -/
def openList (named : State) : Except ScanError State :=
  if named.rest.head? = some '(' then stepInside named else pure named

/-- A call is read from its name, over its arguments, to the end of its list. -/
theorem readCall_eq (function : Function) (state : State) :
    readCall function state = (do
      let named ← skipTrivia (state.advance function.name.length)
      let opened ← openList named
      let parenthesized := decide (state.depth < opened.depth)
      let context ← readOptional function.contextual .context parenthesized opened
      let text ← readLiteral .text parenthesized context.2
      let plural ← readOptional function.plural .plural parenthesized text.2
      let behind ← skipArguments state.depth plural.2
      return (behind, {
        raw := state.cursor.textTo behind.cursor
        message := ⟨context.1, text.1, plural.1⟩
        start := state.position
        stop := behind.position })) := by
  -- The two sides differ in how they are written only.
  unfold readCall openList readOptional
  refine congrArg (skipTrivia (state.advance function.name.length) >>= ·)
    (funext fun named => ?_)
  by_cases opens : named.rest.head? = some '('
  · rw [if_pos opens, if_pos opens]
    cases function.contextual <;> cases function.plural <;> rfl
  · rw [if_neg opens, if_neg opens]
    cases function.contextual <;> cases function.plural <;> rfl

/-- An optional argument is read by lexical steps where there is one, behind which the contexts are
those before it. -/
theorem reads_readOptional {base : List Context} (visible : Visible base) {state : State}
    (restored : Restored base state) (present : Bool) (argument : Argument)
    (parenthesized : Bool) :
    Reads state (readOptional present argument parenthesized state) fun read =>
      Lexes state read.2 ∧ Restored base read.2 ∧ read.1.isSome = present := by
  unfold readOptional
  -- Without the argument nothing is read.
  cases present with
  | false => exact ⟨.refl, restored, rfl⟩
  | true =>
    have reads := reads_readLiteral visible restored argument parenthesized
    cases result : readLiteral argument parenthesized state with
    | error fault =>
      rw [result] at reads
      exact reads
    | ok read =>
      rw [result] at reads
      exact ⟨reads.1, reads.2, rfl⟩

/-- In code, identifier characters are moved over by steps. -/
theorem lexes_identifier {state : State} (visible : state.isHidden = false) {name tail : List Char}
    (identifier : ∀ c ∈ name, isIdentifierChar c = true) (left : state.rest = name ++ tail) :
    Lexes state (state.advance name.length) := by
  -- Character by character, as an identifier holds no marker.
  induction name generalizing state with
  | nil => exact .refl
  | cons c name ih =>
    have step : LexStep state (state.advance 1) :=
      lexStep_plain visible left (isMarker_of_isIdentifierChar (identifier c (.head _)))
    have rest : (state.advance 1).rest = name ++ tail := by simp [left]
    have further : Lexes (state.advance 1) ((state.advance 1).advance name.length) :=
      ih visible (fun c member => identifier c (.tail _ member)) rest
    rw [State.advance, State.advance, Cursor.advance_advance, Nat.add_comm] at further
    exact .head step further

/-- An argument list is opened by a step, when it has a parenthesis. -/
theorem reads_openList {base : List Context} (visible : Visible base) {named : State}
    (restored : Restored base named) :
    Reads named (openList named) fun opened =>
      Lexes named opened ∧ (Restored base opened ∨ opened.stack = .paren :: base) := by
  unfold openList
  by_cases opens : named.rest.head? = some '('
  · rw [if_pos opens]
    obtain ⟨tail, left⟩ := List.head?_eq_some_iff.1 opens
    have stack := restored.stack_eq (by simp [left])
    -- The parenthesis itself is the step, as nothing hides it here.
    have step := lexStep_paren (visible.isHidden stack) left
    refine (reads_stepInside (stepLexical_ne_none (by simp [left]))).imp ?_
    intro opened other
    obtain rfl := LexStep.unique step other
    exact ⟨.single step, .inr (by simp [State.enter, stack])⟩
  · rw [if_neg opens]
    exact ⟨.refl, .inl restored⟩

/-- Skipping further arguments leaves the list, unless the text ends first. -/
theorem reads_skipArguments {base : List Context} (visible : Visible base) {state : State}
    (nested : base = [] → Nested state.stack) (inside : base <:+ state.stack) :
    Reads state (skipArguments base.length state) fun behind =>
      Lexes state behind ∧ Restored base behind := by
  -- At the depth of the call nothing has to be skipped; deeper than that the walk leaves the list.
  unfold skipArguments
  by_cases short : state.depth ≤ base.length
  · rw [if_pos short]
    exact ⟨.refl, .inl (inside.eq_of_length (Nat.le_antisymm inside.length_le short)).symm⟩
  · rw [if_neg short]
    have reads := reads_stepUntil (fun next => decide (next.depth ≤ base.length)) state
    have leaves (walk : Walk)
        (walked : stepUntil (fun next => decide (next.depth ≤ base.length)) state = .ok walk) :
        walk.LeavesFor base :=
      leavesFor_of_stepUntil (fun _ _ => decide_eq_true_iff) inside (Nat.lt_of_not_le short) walked
    -- The walk stops outside of the list, or at the end of the text.
    cases walked : stepUntil (fun next => decide (next.depth ≤ base.length)) state with
    | error fault =>
      rw [walked] at reads
      exact reads
    | ok walk =>
      rw [walked] at reads
      cases walk with
      | reached next => exact ⟨reads, .inl (leaves _ walked)⟩
      | ended last =>
        obtain ⟨lexes, ended⟩ := reads
        obtain ⟨kept, deeper⟩ := leaves _ walked
        exact ⟨lexes, restored_of_ended visible nested lexes kept deeper ended⟩

/-- The arguments stand in the contexts of the call or inside one parenthesis there. -/
theorem argumentList_of_opened {base : List Context} (visible : Visible base) {opened : State}
    (around : Restored base opened ∨ opened.stack = .paren :: base) :
    ∃ list, Visible list ∧ Restored list opened ∧ base <:+ list ∧
      (CodeStack base → CodeStack list) := by
  -- A parenthesis hides nothing, and in code it is code again.
  rcases around with bare | paren
  · exact ⟨base, visible, bare, List.suffix_refl _, id⟩
  · exact ⟨.paren :: base, rfl, .inl paren, List.suffix_cons _ _, .paren⟩

/-- What is known of a call of a function that was read at a state, whatever its name is. -/
structure CallEnds (function : Function) (state : State) (read : State × Call) : Prop where
  /-- The arguments are read by lexical steps from behind the name. -/
  lexes : Lexes (state.advance function.name.length) read.1
  /-- The call leaves the contexts as it found them. -/
  restored : Restored state.stack read.1
  /-- It begins at the state before it. -/
  start : read.2.start = state.position
  /-- It ends at the state behind it. -/
  stop : read.2.stop = read.1.position
  /-- Its text is the one between both. -/
  raw : read.2.raw = state.cursor.textTo read.1.cursor
  /-- It has a context when the function takes one. -/
  context : read.2.message.context.isSome = function.contextual
  /-- It has a plural when the function takes one. -/
  plural : read.2.message.plural.isSome = function.plural

/-- The arguments of a call are read by lexical steps, behind which the contexts are those before it. -/
theorem reads_arguments {state : State} (function : Function) (visible : state.isHidden = false) :
    Reads (state.advance function.name.length) (readCall function state)
      (CallEnds function state) := by
  rw [readCall_eq]
  -- Each part of the call is read from where the part before it ended.
  have named : Restored state.stack (state.advance function.name.length) := .inl rfl
  refine (reads_skipTrivia visible named).bind fun list ⟨toList, restored⟩ => ?_
  refine .of_lexes toList ?_
  refine (reads_openList visible restored).bind fun opened ⟨toOpened, around⟩ => ?_
  refine .of_lexes toOpened ?_
  obtain ⟨base, inList, restored, inside, inCode⟩ := argumentList_of_opened visible around
  refine (reads_readOptional inList restored _ _ _).bind
    fun context ⟨toContext, restored, hasContext⟩ => ?_
  refine .of_lexes toContext ?_
  refine (reads_readLiteral inList restored _ _).bind fun text ⟨toText, restored⟩ => ?_
  refine .of_lexes toText ?_
  refine (reads_readOptional inList restored _ _ _).bind
    fun plural ⟨toPlural, restored, hasPlural⟩ => ?_
  refine .of_lexes toPlural ?_
  -- Where the name stands outside of every context, what the arguments left open are contexts of code.
  have nested : state.stack = [] → Nested plural.2.stack := fun outermost =>
    restored.nested (inCode (outermost ▸ .outermost))
  refine (reads_skipArguments visible nested (restored.suffix inside)).bind
    fun behind ⟨toBehind, restored⟩ => ?_
  exact {
    lexes := toList.trans (toOpened.trans (toContext.trans (toText.trans (toPlural.trans toBehind))))
    restored := restored
    start := rfl
    stop := rfl
    raw := rfl
    context := hasContext
    plural := hasPlural }

/-- What is known of a call whose function has an identifier for a name. -/
structure CallSpan (state : State) (read : State × Call) : Prop where
  /-- The state behind the call is come to by lexical steps. -/
  lexes : Lexes state read.1
  /-- The call leaves the contexts as it found them. -/
  restored : Restored state.stack read.1
  /-- The call is not empty. -/
  forward : state.position.offset < read.1.position.offset
  /-- It begins at the state before it. -/
  start : read.2.start = state.position
  /-- It ends at the state behind it. -/
  stop : read.2.stop = read.1.position
  /-- Its text is the one between both. -/
  raw : read.2.raw = state.cursor.textTo read.1.cursor

/-- A call is read by lexical steps, behind which the contexts are those before it. -/
theorem reads_readCall {state : State} {function : Function} {tail : List Char}
    (visible : state.isHidden = false) (nonempty : function.name ≠ [])
    (identifier : ∀ c ∈ function.name, isIdentifierChar c = true)
    (left : state.rest = function.name ++ tail) :
    Reads state (readCall function state) (CallSpan state) := by
  -- An identifier opens and closes nothing, so its characters are steps too.
  have toName := lexes_identifier visible identifier left
  have more : state.rest ≠ [] := by simp [left, nonempty]
  have forward : state.position.offset < (state.advance function.name.length).position.offset :=
    Cursor.offset_lt_advance (List.length_pos_iff.2 nonempty) more
  refine ((reads_arguments function visible).of_lexes toName).imp fun read ends => ?_
  exact {
    lexes := toName.trans ends.lexes
    restored := ends.restored
    forward := Nat.lt_of_lt_of_le forward ends.lexes.offset_le
    start := ends.start
    stop := ends.stop
    raw := ends.raw }

end MessageCatalog.Source
