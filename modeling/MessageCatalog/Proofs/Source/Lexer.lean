import Mathlib.Logic.Relation
import MessageCatalog.Source.Lexer

/-! A lexical step moves over some characters and opens or closes at most one context, and literals
and comments stay innermost. -/

namespace MessageCatalog.Source

/-- What a step can do: move on in the same context, enter code embedded in a template, open a context
in code, or close the innermost one. A line comment is left at the first line feed. -/
inductive Lexical (state : State) : State → Prop
  | move (n : Nat) (positive : 0 < n)
    (inLine : state.top = some .lineComment → n = 1 ∧ ¬ ['\n'] <+: state.rest) :
    Lexical state (state.advance n)
  | embed (kind : Interpolation) (template : state.top = some .backtick) :
    Lexical state (state.enter (.interpolation kind))
  | enter (context : Context) (code : state.isHidden = false)
    (plain : ∀ kind, context ≠ .interpolation kind) (stands : context.opening <+: state.rest) :
    Lexical state (state.enter context)
  | leave (context : Context) (innermost : state.top = some context)
    (stands : context.closing <+: state.rest) : Lexical state (state.leave context)

/-- A step inside a literal is one of those. -/
theorem lexical_stepInQuote {state : State} {quote : Context} (literal : quote.isQuote = true)
    (innermost : state.top = some quote) (c : Char) : Lexical state (stepInQuote state quote c) := by
  -- No literal is a line comment, so its steps need no care for the line's end.
  have noComment (inLine : state.top = some .lineComment) : quote = .lineComment := by
    rw [innermost] at inLine
    exact Option.some.inj inLine
  have moves (n : Nat) (positive : 0 < n) : Lexical state (state.advance n) := by
    refine .move n positive fun inLine => ?_
    rw [noComment inLine] at literal
    cases literal
  -- An escape and plain text move on, and the two kinds of markers change the context.
  unfold stepInQuote
  split
  · exact moves 2 (by decide)
  · split
    · rename_i closes
      exact .leave quote innermost (List.isPrefixOf_iff_prefix.1 closes)
    · dsimp only
      split
      · rename_i kind found
        refine .embed kind ?_
        by_cases template : quote = .backtick
        · rw [innermost, template]
        · simp [template] at found
      · exact moves 1 (by decide)

/-- A step inside a comment is one of those. -/
theorem lexical_stepInComment {state : State} {comment : Context}
    (innermost : state.top = some comment) : Lexical state (stepInComment state comment) := by
  unfold stepInComment
  split
  · rename_i closes
    exact .leave comment innermost (List.isPrefixOf_iff_prefix.1 closes)
  · rename_i goesOn
    refine .move 1 (by decide) fun inLine => ⟨rfl, ?_⟩
    -- A line feed is what closes a line comment.
    obtain rfl : comment = .lineComment := Option.some.inj (innermost.symm.trans inLine)
    exact fun stands => goesOn (List.isPrefixOf_iff_prefix.2 stands)

/-- The contexts that characters open in code are no embeddings. -/
theorem ofMarker_ne_interpolation {c : Char} {rest : List Char} {context : Context}
    (found : (Context.ofQuote? c).or (Context.ofComment? rest) = some context)
    (kind : Interpolation) : context ≠ .interpolation kind := by
  -- Quotes and comment marks open quotes and comments.
  rintro rfl
  rcases Option.or_eq_some_iff.1 found with quote | ⟨-, comment⟩
  · unfold Context.ofQuote? at quote
    repeat' split at quote
    all_goals simp at quote
  · unfold Context.ofComment? at comment
    split at comment <;> simp at comment

/-- A context that characters open in code begins with them. -/
theorem opening_ofMarker {c : Char} {rest tail : List Char} {context : Context}
    (left : rest = c :: tail)
    (found : (Context.ofQuote? c).or (Context.ofComment? rest) = some context) :
    context.opening <+: rest := by
  -- The mark was found by looking at the same characters.
  rcases Option.or_eq_some_iff.1 found with quote | ⟨-, comment⟩
  · unfold Context.ofQuote? at quote
    repeat' split at quote
    all_goals cases quote
    all_goals simp_all [Context.opening]
  · unfold Context.ofComment? at comment
    split at comment <;> cases comment <;> simp [Context.opening]

/-- Only the innermost embedding ends in code, and it ends at its own mark. -/
theorem stands_of_closingInterpolation? {state : State} {context : Context}
    (found : closingInterpolation? state = some context) :
    state.top = some context ∧ context.closing <+: state.rest := by
  unfold closingInterpolation? at found
  split at found
  · rename_i kind innermost
    split at found
    · rename_i closes
      cases found
      exact ⟨innermost, List.isPrefixOf_iff_prefix.1 closes⟩
    · cases found
  · cases found

/-- A step in code is one of those. -/
theorem lexical_stepInCode {state next : State} {c : Char} {tail : List Char}
    (code : state.isHidden = false) (left : state.rest = c :: tail)
    (stepped : stepInCode state c = .ok next) : Lexical state next := by
  -- The branches are tried in the order of the code: an embedding that ends, a literal or a
  -- comment, and the parentheses.
  unfold stepInCode at stepped
  split at stepped
  · rename_i context found
    cases stepped
    obtain ⟨innermost, closes⟩ := stands_of_closingInterpolation? found
    exact .leave _ innermost closes
  · split at stepped
    · rename_i context found
      cases stepped
      exact .enter context code (ofMarker_ne_interpolation found) (opening_ofMarker left found)
    · split at stepped
      · rename_i opens
        cases stepped
        exact .enter .paren code nofun (by simp [left, opens, Context.opening])
      · split at stepped
        · rename_i closes
          split at stepped
          · rename_i innermost
            cases stepped
            exact .leave .paren innermost (by simp [left, closes, Context.closing])
          · cases stepped
        · cases stepped
          refine .move 1 (by decide) fun inLine => ?_
          rw [State.isHidden, inLine] at code
          cases code

/-- A step is taken where text is left, and is one of those. -/
theorem lexical_of_stepLexical {state next : State}
    (stepped : stepLexical state = .ok (some next)) : state.rest ≠ [] ∧ Lexical state next := by
  -- Without text there is no next state, so the step is the one of the innermost context.
  unfold stepLexical at stepped
  split at stepped
  · cases ended : finish state <;> simp [ended, Except.map] at stepped
  · rename_i c tail left
    refine ⟨by simp [left], ?_⟩
    have inCode (code : state.isHidden = false)
        (mapped : (stepInCode state c).map some = .ok (some next)) : Lexical state next := by
      cases step : stepInCode state c with
      | error fault => simp [step, Except.map] at mapped
      | ok reached =>
        simp only [step, Except.map, Except.ok.injEq, Option.some.injEq] at mapped
        exact mapped ▸ lexical_stepInCode code left step
    -- Literals and comments have steps of their own, and all other contexts are code.
    split at stepped
    · rename_i context innermost
      split at stepped
      · rename_i literal
        cases stepped
        exact lexical_stepInQuote literal innermost c
      · split at stepped
        · cases stepped
          exact lexical_stepInComment innermost
        · rename_i quote comment
          exact inCode (by simp [State.isHidden, innermost, Context.hidesCode, quote, comment])
            stepped
    · rename_i outermost
      exact inCode (by simp [State.isHidden, outermost]) stepped

/-- Moving over two numbers of characters, one after the other. -/
theorem Cursor.advance_advance (m n : Nat) (cursor : Cursor) :
    (cursor.advance m).advance n = cursor.advance (m + n) := by
  induction m generalizing cursor with
  | zero => rw [Cursor.advance, Nat.zero_add]
  | succ m ih => rw [Cursor.advance, ih, Nat.succ_add, Cursor.advance]

/-- Moving over characters drops them from what is left. -/
@[simp] theorem State.advance_rest (n : Nat) (state : State) :
    (state.advance n).rest = state.rest.drop n :=
  Cursor.advance_rest n state.cursor

/-- Entering a context drops its opening from what is left. -/
@[simp] theorem State.enter_rest (state : State) (context : Context) :
    (state.enter context).rest = state.rest.drop context.opening.length :=
  Cursor.advance_rest context.opening.length state.cursor

/-- Leaving a context drops its closing from what is left. -/
@[simp] theorem State.leave_rest (state : State) (context : Context) :
    (state.leave context).rest = state.rest.drop context.closing.length :=
  Cursor.advance_rest context.closing.length state.cursor

/-- Moving over a character goes forward. -/
theorem Cursor.offset_lt_next {cursor : Cursor} (more : cursor.rest ≠ []) :
    cursor.position.offset < cursor.next.position.offset := by
  -- Every character takes at least one byte.
  obtain ⟨before, rest, position⟩ := cursor
  cases rest with
  | nil => exact absurd rfl more
  | cons c rest =>
    have positive := c.utf8Size_pos
    simp only [next, Position.past]
    omega

/-- Moving never goes back. -/
theorem Cursor.offset_le_advance (n : Nat) (cursor : Cursor) :
    cursor.position.offset ≤ (cursor.advance n).position.offset := by
  -- Only at the end does a move stay where it is.
  induction n generalizing cursor with
  | zero => exact Nat.le_refl _
  | succ n ih =>
    refine Nat.le_trans ?_ (ih cursor.next)
    by_cases more : cursor.rest = []
    · simp [next, more]
    · exact Nat.le_of_lt (offset_lt_next more)

/-- Moving over some characters goes forward. -/
theorem Cursor.offset_lt_advance {n : Nat} {cursor : Cursor} (positive : 0 < n)
    (more : cursor.rest ≠ []) :
    cursor.position.offset < (cursor.advance n).position.offset := by
  -- The first move goes forward, and the others do not go back.
  obtain ⟨n, rfl⟩ := Nat.exists_eq_add_of_lt positive
  rw [Nat.zero_add, Cursor.advance]
  exact Nat.lt_of_lt_of_le (offset_lt_next more) (offset_le_advance n _)

/-- A step moves over a number of characters. -/
theorem Lexical.cursor_eq {state next : State} (lexical : Lexical state next) :
    ∃ n, 0 < n ∧ next.cursor = state.cursor.advance n := by
  -- Markers are not empty, so the steps over them move as well.
  cases lexical with
  | move n positive => exact ⟨n, positive, rfl⟩
  | embed kind => exact ⟨_, Context.opening_length (.interpolation kind), rfl⟩
  | enter context => exact ⟨_, context.opening_length, rfl⟩
  | leave context => exact ⟨_, context.closing_length, rfl⟩

/-- One lexical step. -/
def LexStep (state next : State) : Prop := stepLexical state = .ok (some next)

/-- Any number of lexical steps. -/
abbrev Lexes : State → State → Prop := Relation.ReflTransGen LexStep

/-- A step goes forward. -/
theorem LexStep.offset_lt {state next : State} (step : LexStep state next) :
    state.position.offset < next.position.offset := by
  obtain ⟨more, lexical⟩ := lexical_of_stepLexical step
  obtain ⟨n, positive, moved⟩ := lexical.cursor_eq
  rw [State.position, State.position, moved]
  exact Cursor.offset_lt_advance positive more

/-- Steps never go back. -/
theorem Lexes.offset_le {state next : State} (lexes : Lexes state next) :
    state.position.offset ≤ next.position.offset := by
  induction lexes with
  | refl => exact Nat.le_refl _
  | tail _ step ih => exact Nat.le_trans ih (Nat.le_of_lt step.offset_lt)

/-- Steps never leave more text. -/
theorem Lexes.length_le {state next : State} (lexes : Lexes state next) :
    next.rest.length ≤ state.rest.length := by
  induction lexes with
  | refl => exact Nat.le_refl _
  | tail _ step ih => exact Nat.le_trans (Nat.le_of_lt (stepLexical_shorter step)) ih

/-- A state has one next state only. -/
theorem LexStep.unique : Relator.RightUnique LexStep := by
  -- A step is the result of a function.
  intro state a b first second
  have same := Eq.trans (Eq.symm first) second
  simpa using same

/-- Of two states on one way, one comes no later than the other. -/
theorem Lexes.total {state a b : State} (first : Lexes state a) (second : Lexes state b) :
    Lexes a b ∨ Lexes b a :=
  Relation.ReflTransGen.total_of_right_unique LexStep.unique first second

/-- The contexts around code: parentheses, and embeddings, each directly inside a template. -/
inductive CodeStack : List Context → Prop
  | outermost : CodeStack []
  | paren {stack : List Context} (outer : CodeStack stack) : CodeStack (.paren :: stack)
  | embedding {stack : List Context} (kind : Interpolation) (outer : CodeStack stack) :
    CodeStack (.interpolation kind :: .backtick :: stack)

/-- Literals and comments stand in code and are innermost. -/
inductive Nested : List Context → Prop
  | code {stack : List Context} (code : CodeStack stack) : Nested stack
  | hidden {stack : List Context} {context : Context} (hides : context.hidesCode = true)
    (code : CodeStack stack) : Nested (context :: stack)

/-- Contexts inside which a call can begin are those around code. -/
theorem Nested.codeStack {state : State} (nested : Nested state.stack)
    (visible : state.isHidden = false) : CodeStack state.stack := by
  -- Behind a literal or a comment nothing would be visible.
  rcases state with ⟨cursor, stack⟩
  cases nested with
  | code code => exact code
  | hidden hides => simp [State.isHidden, State.top, hides] at visible

/-- Without the innermost context, literals and comments are innermost. -/
theorem Nested.tail {context : Context} {stack : List Context} (nested : Nested (context :: stack)) :
    Nested stack := by
  -- An embedding lies in a template, which is a literal; everything else lies in code.
  cases nested with
  | code code =>
    cases code with
    | paren outer => exact .code outer
    | embedding kind outer => exact .hidden rfl outer
  | hidden _ code => exact .code code

/-- A step keeps literals and comments innermost. -/
theorem Lexical.nested {state next : State} (lexical : Lexical state next)
    (nested : Nested state.stack) : Nested next.stack := by
  cases lexical with
  | move n => exact nested
  | embed kind template =>
    -- The template is a literal in code, which the embedding turns into code again.
    rcases state with ⟨cursor, _ | ⟨context, stack⟩⟩
    · cases template
    · obtain rfl : context = .backtick := by simpa [State.top] using template
      cases nested with
      | code code => cases code
      | hidden _ code => exact .code (.embedding kind code)
  | enter context visible plain =>
    have code := nested.codeStack visible
    cases context with
    | paren => exact .code (.paren code)
    | interpolation kind => exact absurd rfl (plain kind)
    | _ => exact .hidden rfl code
  -- What was inside the closed context has been closed before.
  | leave context innermost =>
    rcases state with ⟨cursor, _ | ⟨context, stack⟩⟩
    · cases innermost
    · exact nested.tail

/-- Steps keep literals and comments innermost. -/
theorem Lexes.nested {state next : State} (lexes : Lexes state next)
    (nested : Nested state.stack) : Nested next.stack := by
  induction lexes with
  | refl => exact nested
  | tail _ step ih => exact (lexical_of_stepLexical step).2.nested ih

/-- A text that ends well has nothing but line comments open. -/
theorem lineComment_of_finish {state : State} (finished : finish state = .ok ()) {context : Context}
    (member : context ∈ state.stack) : context = .lineComment := by
  unfold finish at finished
  split at finished
  · cases finished
  · rename_i none
    simpa using List.find?_eq_none.1 none context member

/-- A text that ends well has at most a line comment open. -/
theorem Nested.of_finish {state : State} (nested : Nested state.stack)
    (finished : finish state = .ok ()) : state.stack = [] ∨ state.stack = [.lineComment] := by
  -- Every other context would be told as unclosed.
  rcases state with ⟨cursor, stack⟩
  have only (context : Context) (member : context ∈ stack) : context = .lineComment :=
    lineComment_of_finish finished member
  -- Nothing but a literal or comment can lie on a line comment, and there is no other context.
  cases nested with
  | code code =>
    cases code with
    | outermost => exact .inl rfl
    | paren => cases only .paren (.head _)
    | embedding kind => cases only (.interpolation kind) (.head _)
  | @hidden stack context _ code =>
    obtain rfl := only context (.head _)
    cases code with
    | outermost => exact .inr rfl
    | paren => cases only .paren (.tail _ (.head _))
    | embedding kind => cases only (.interpolation kind) (.tail _ (.head _))

/-- Characters that can open or close a context in code. -/
def isMarker (c : Char) : Bool :=
  ['\'', '"', '\x60', '/', '(', ')', '}', ']', '%'].contains c

/-- Where no literal or comment is open, a step is one in code. -/
theorem stepLexical_visible {state : State} {c : Char} {tail : List Char}
    (visible : state.isHidden = false) (left : state.rest = c :: tail) :
    stepLexical state = (stepInCode state c).map some := by
  -- What is visible is neither a quote nor a comment, which are the other two steps.
  unfold stepLexical
  rw [left]
  dsimp only
  cases top : state.top with
  | none => rfl
  | some context =>
    simp only [State.isHidden, top, Option.any_some, Context.hidesCode, Bool.or_eq_false_iff]
      at visible
    simp only [visible.1, visible.2, Bool.false_eq_true, if_false]

/-- No embedding ends at a character that is no marker, nor at the start of a comment. -/
theorem closingInterpolation?_eq_none {state : State} {c : Char} {tail : List Char}
    (left : state.rest = c :: tail) (plain : c ≠ '}' ∧ c ≠ ']' ∧ c ≠ '%') :
    closingInterpolation? state = none := by
  -- The four closings begin with three characters.
  unfold closingInterpolation?
  split
  · rename_i kind innermost
    have unequal : kind.closing.isPrefixOf state.rest = false := by
      rw [left]
      cases kind <;> simp [Interpolation.closing, List.isPrefixOf, Ne.symm plain.1,
        Ne.symm plain.2.1, Ne.symm plain.2.2]
    rw [unequal]
    rfl
  · rfl

/-- In code, a character that is no marker is moved over. -/
theorem lexStep_plain {state : State} {c : Char} {tail : List Char}
    (visible : state.isHidden = false) (left : state.rest = c :: tail)
    (plain : isMarker c = false) : LexStep state (state.advance 1) := by
  -- None of the branches before the last one applies to such a character.
  simp only [isMarker, List.contains_cons, List.contains_nil, Bool.or_eq_false_iff,
    beq_eq_false_iff_ne, ne_eq, and_true] at plain
  obtain ⟨single, double, backtick, slash, opens, closes, brace, bracket, percent⟩ := plain
  have noComment : Context.ofComment? (c :: tail) = none := by
    unfold Context.ofComment?
    split <;> simp_all
  rw [LexStep, stepLexical_visible visible left, stepInCode,
    closingInterpolation?_eq_none left ⟨brace, bracket, percent⟩, left, noComment]
  simp [Context.ofQuote?, single, double, backtick, opens, closes, Except.map]

/-- In code, the start of a comment is moved over and the comment is open. -/
theorem lexStep_comment {state : State} {comment : Context}
    (visible : state.isHidden = false) (found : Context.ofComment? state.rest = some comment) :
    LexStep state (state.enter comment) := by
  -- A comment begins with a slash, which ends no embedding and opens no literal.
  obtain ⟨tail, left⟩ : ∃ tail, state.rest = '/' :: tail := by
    unfold Context.ofComment? at found
    split at found
    · rename_i rest equal
      exact ⟨_, equal⟩
    · rename_i rest equal
      exact ⟨_, equal⟩
    · cases found
  rw [LexStep, stepLexical_visible visible left, stepInCode,
    closingInterpolation?_eq_none left (by decide), found]
  simp [Context.ofQuote?, Except.map]

/-- In code, a parenthesis is moved over and open. -/
theorem lexStep_paren {state : State} {tail : List Char} (visible : state.isHidden = false)
    (left : state.rest = '(' :: tail) : LexStep state (state.enter .paren) := by
  rw [LexStep, stepLexical_visible visible left, stepInCode,
    closingInterpolation?_eq_none left (by decide), left]
  simp [Context.ofQuote?, Context.ofComment?, Except.map]

/-- At top level a parenthesis that ends has not begun. -/
theorem stepLexical_unopened {state : State} {tail : List Char} (outside : state.stack = [])
    (left : state.rest = ')' :: tail) :
    stepLexical state = .error (.malformed ⟨.missingOpeningParen, state.position⟩) := by
  simp [stepLexical, stepInCode, closingInterpolation?, left, State.top, outside,
    Context.ofQuote?, Context.ofComment?, Except.map]

/-- In code, the end of a parenthesis closes the innermost one. -/
theorem lexStep_closing {state : State} {tail : List Char} (innermost : state.top = some .paren)
    (left : state.rest = ')' :: tail) : LexStep state (state.leave .paren) := by
  -- The parenthesis is the innermost context, so nothing is hidden.
  have visible : state.isHidden = false := by
    rw [State.isHidden, innermost]
    rfl
  rw [LexStep, stepLexical_visible visible left, stepInCode,
    closingInterpolation?_eq_none left (by decide), left]
  simp [innermost, Context.ofQuote?, Context.ofComment?, Except.map]

/-- In code, a quote is moved over and its literal is open. -/
theorem lexStep_quote {state : State} {c : Char} {tail : List Char} {quote : Context}
    (visible : state.isHidden = false) (left : state.rest = c :: tail)
    (found : Context.ofQuote? c = some quote) : LexStep state (state.enter quote) := by
  -- A quote ends no embedding, and it is looked at before comments.
  have plain : c ≠ '}' ∧ c ≠ ']' ∧ c ≠ '%' := by
    refine ⟨?_, ?_, ?_⟩ <;> rintro rfl <;> simp [Context.ofQuote?] at found
  rw [LexStep, stepLexical_visible visible left, stepInCode,
    closingInterpolation?_eq_none left plain, found]
  rfl

end MessageCatalog.Source
