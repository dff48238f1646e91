import MessageCatalog.Proofs.Source.Amid

/-! A semicolon on a line of its own is an end that no comment, literal or argument list goes past
without being open at the end of the text. -/

namespace MessageCatalog.Source

/-- The last line of a text that ends with a semicolon on a line of its own. -/
def lastLine : List Char := [';', '\n']

/-- A semicolon on a line of its own. -/
def statementEnd : List Char := '\n' :: lastLine

/-- What is left of a text that ends with a semicolon on a line of its own. -/
def Faces (rest : List Char) : Prop := statementEnd <:+ rest ∨ rest <:+ lastLine

section

variable {rest word tail : List Char}

/-- Further on, less is left of such a text. -/
theorem Faces.drop (faces : Faces rest) (n : Nat) : Faces (rest.drop n) := by
  have shorter : rest.drop n <:+ rest := List.drop_suffix n rest
  rcases faces with ahead | last
  · -- What is left holds the semicolon's line feed, or is a part of what follows that.
    rcases List.suffix_or_suffix_of_suffix ahead shorter with still | part
    · exact .inl still
    · rcases List.suffix_cons_iff.1 part with same | behind
      · exact .inl (by rw [same, statementEnd])
      · exact .inr behind
  · exact .inr (shorter.trans last)

/-- A semicolon on a line of its own lies behind a word without line feeds and semicolons. -/
theorem statementEnd_suffix (clear : ∀ c ∈ word, c ≠ '\n' ∧ c ≠ ';')
    (ahead : statementEnd <:+ word ++ tail) : statementEnd <:+ tail := by
  -- No character of the word can be the line feed with which the suffix begins.
  induction word with
  | nil => exact ahead
  | cons c word ih =>
    rcases List.suffix_cons_iff.1 ahead with same | further
    · exact absurd (List.cons.inj same).1.symm (clear c (.head _)).1
    · exact ih (fun d member => clear d (.tail _ member)) further

/-- A word without line feeds and semicolons stands before the semicolon on a line of its own. -/
theorem Faces.behind_word (faces : Faces (word ++ tail)) (nonempty : word ≠ [])
    (clear : ∀ c ∈ word, c ≠ '\n' ∧ c ≠ ';') : statementEnd <:+ tail := by
  rcases faces with ahead | last
  · exact statementEnd_suffix clear ahead
  · -- The last line holds nothing but the two characters that the word lacks.
    obtain ⟨c, word, rfl⟩ := List.exists_cons_of_ne_nil nonempty
    obtain ⟨noLineFeed, noSemicolon⟩ := clear c (.head _)
    have member : c ∈ lastLine := last.subset (.head _)
    simp [lastLine, noLineFeed, noSemicolon] at member

/-- What lies behind the line feed lies behind all that comes before it. -/
theorem lastLine_suffix (ahead : statementEnd <:+ rest) : lastLine <:+ rest :=
  (List.suffix_cons '\n' lastLine).trans ahead

/-- The last line is not left before its semicolon. -/
theorem lastLine_suffix_tail {c : Char} (ahead : lastLine <:+ c :: tail) (other : c ≠ ';') :
    lastLine <:+ tail := by
  -- The last line begins with its semicolon and with nothing else.
  rcases List.suffix_cons_iff.1 ahead with same | further
  · exact absurd (List.cons.inj same).1.symm other
  · exact further

/-- Such a text ends with a line feed. -/
theorem Faces.lineFeed (faces : Faces rest) (more : rest ≠ []) : '\n' ∈ rest := by
  rcases faces with ahead | last
  · exact ahead.subset (by decide)
  · -- The parts of the last line that are not empty are the line itself and its line feed.
    rcases List.suffix_cons_iff.1 last with rfl | last
    · decide
    · rcases List.suffix_cons_iff.1 last with rfl | last
      · decide
      · exact absurd (List.suffix_nil.1 last) more

/-- Such a text can be told apart from what follows it. -/
theorem Faces.firm (faces : Faces rest) (more : rest ≠ []) (behind : List Char) :
    Firm behind rest := by
  rcases faces with ahead | last
  · have long : 3 ≤ rest.length := ahead.length_le
    exact .inr (.inl (by omega))
  -- Of the last line itself two characters are left, or its line feed alone.
  · rcases List.suffix_cons_iff.1 last with rfl | last
    · exact .inr (.inl (by decide))
    · rcases List.suffix_cons_iff.1 last with rfl | last
      · exact .inr (.inr rfl)
      · exact absurd (List.suffix_nil.1 last) more

end

/-- The states of a scan of a text that ends with a semicolon on a line of its own. -/
structure Walled (state : State) : Prop where
  /-- Literals and comments are innermost. -/
  nested : Nested state.stack
  /-- What is left ends with that line, or is a part of it. -/
  faces : Faces state.rest
  /-- No line comment goes on behind the line feed. -/
  inLine : state.top = some .lineComment → statementEnd <:+ state.rest

/-- A context in which something is open is no line comment. -/
theorem Nested.not_lineComment {context : Context} {stack : List Context}
    (nested : Nested (context :: stack)) : stack.head? ≠ some .lineComment := by
  -- What stands around code is a parenthesis or an embedding.
  have code (code : CodeStack stack) : stack.head? ≠ some .lineComment := by
    cases code <;> simp
  cases nested with
  | code outer =>
    cases outer with
    | paren outer => exact code outer
    | embedding => simp
  | hidden _ outer => exact code outer

/-- The closings of other contexts hold neither a line feed nor a semicolon. -/
theorem clear_of_ne_lineComment {context : Context} (other : context ≠ .lineComment) :
    ∀ c ∈ context.closing, c ≠ '\n' ∧ c ≠ ';' := by
  -- The closings are listed.
  cases context with
  | lineComment => exact absurd rfl other
  | interpolation kind => cases kind <;> simp [Context.closing, Interpolation.closing]
  | _ => simp [Context.closing]

section

variable {state next : State}

/-- Steps keep what is known of such states. -/
theorem Walled.of_step (walled : Walled state) (step : LexStep state next) : Walled next := by
  obtain ⟨-, lexical⟩ := lexical_of_stepLexical step
  obtain ⟨n, -, moved⟩ := lexical.cursor_eq
  have rest : next.rest = state.rest.drop n := by
    rw [State.rest, moved, Cursor.advance_rest]
    rfl
  refine ⟨lexical.nested walled.nested, rest ▸ walled.faces.drop n, fun inLine => ?_⟩
  -- A line comment goes on before a line feed, or begins with its mark.
  cases lexical with
  | move m _ free =>
    -- The comment was open before, and the character that was moved over is no line feed.
    obtain ⟨rfl, noLineFeed⟩ := free inLine
    have ahead := walled.inLine inLine
    rw [State.advance_rest]
    cases left : state.rest with
    | nil => simp [left, statementEnd] at ahead
    | cons c tail =>
      rw [left] at ahead noLineFeed
      rcases List.suffix_cons_iff.1 ahead with same | further
      · exact absurd ⟨_, by rw [← same]; rfl⟩ noLineFeed
      · exact further
  | embed kind => simp [State.enter, State.top] at inLine
  | enter context _ _ stands =>
    -- Both slashes stand before the semicolon's line, as neither of them is a part of it.
    obtain rfl : context = .lineComment := by simpa [State.enter, State.top] using inLine
    obtain ⟨tail, left⟩ := stands
    rw [State.enter_rest, ← left, List.drop_left]
    exact (left ▸ walled.faces).behind_word (by decide) (by simp [Context.opening])
  | leave context innermost =>
    -- Behind what was closed there is code or a template.
    obtain ⟨cursor, _ | ⟨top, stack⟩⟩ := state
    · cases innermost
    · exact absurd inLine walled.nested.not_lineComment

/-- What is left behind a context that was closed holds the last line. -/
theorem Walled.lastLine_of_closed (walled : Walled state) (step : LexStep state next)
    (closed : next.depth < state.depth) : lastLine <:+ next.rest := by
  obtain ⟨-, lexical⟩ := lexical_of_stepLexical step
  -- Only the step out of a context has fewer contexts behind it.
  cases lexical with
  | move n => exact absurd closed (Nat.lt_irrefl _)
  | embed kind => simp [State.enter, State.depth] at closed
  | enter context => simp [State.enter, State.depth] at closed
  | leave context innermost stands =>
    obtain ⟨tail, left⟩ := stands
    rw [State.leave_rest, ← left, List.drop_left]
    by_cases inLine : context = .lineComment
    · -- The line feed that ends a line comment can be the one before the last line.
      subst inLine
      have ahead := walled.inLine innermost
      rw [← left] at ahead
      rcases List.suffix_cons_iff.1 ahead with same | further
      · exact (List.cons.inj same).2 ▸ List.suffix_refl _
      · exact lastLine_suffix further
    · -- Every other closing stands as a whole before the semicolon's line.
      have nonempty : context.closing ≠ [] := List.length_pos_iff.1 context.closing_length
      exact lastLine_suffix
        ((left ▸ walled.faces).behind_word nonempty (clear_of_ne_lineComment inLine))

/-- Inside a context such a text does not end well. -/
theorem Walled.not_ended (walled : Walled state) (inside : state.stack ≠ []) :
    stepLexical state ≠ .ok none := by
  -- It could end well in a line comment only, but that ends with the last line feed.
  intro ended
  obtain ⟨noMore, finished⟩ := finish_of_stepLexical ended
  rcases walled.nested.of_finish finished with outside | comment
  · exact inside outside
  · have ahead := walled.inLine (by rw [State.top, comment]; rfl)
    simp [noMore, statementEnd] at ahead

variable {functions : List Function}

/-- Giving up a context keeps what is known of such states. -/
theorem Walled.gaveUp (walled : Walled state) {context : Context} {stack : List Context}
    (inside : state.stack = context :: stack) : Walled ⟨state.cursor, stack⟩ := by
  -- Nothing is moved over, and what is around the context is no line comment.
  have nested := walled.nested
  rw [inside] at nested
  exact ⟨nested.tail, walled.faces, fun inLine => absurd inLine nested.not_lineComment⟩

/-- Moving on at top level keeps what is known of such states. -/
theorem Walled.skipped (walled : Walled state) (outside : state.stack = []) :
    Walled (state.advance 1) := by
  -- At top level no comment is open.
  refine ⟨walled.nested, state.advance_rest 1 ▸ walled.faces.drop 1, fun inLine => ?_⟩
  simp [State.advance, State.top, outside] at inLine

end

/-- Such a state, unless nothing follows the text. -/
def Held (behind : List Char) (state : State) : Prop := behind = [] ∨ Walled state

/-- Such a state before the last line, unless nothing follows the text. -/
def Ahead (behind : List Char) (state : State) : Prop :=
  behind = [] ∨ (Walled state ∧ lastLine <:+ state.rest)

section

variable {behind : List Char} {state next : State}

/-- A state before the last line is a state of the text. -/
theorem Ahead.held (ahead : Ahead behind state) : Held behind state :=
  ahead.imp_right And.left

/-- Steps stay on the text. -/
theorem Held.of_step (held : Held behind state) (step : LexStep state next) : Held behind next :=
  held.imp_right fun walled => walled.of_step step

/-- Any number of steps stay on the text. -/
theorem Held.of_lexes (held : Held behind state) (lexes : Lexes state next) : Held behind next := by
  -- Step by step.
  induction lexes with
  | refl => exact held
  | tail _ step ih => exact ih.of_step step

/-- Where text is left it can be told apart from what follows it. -/
theorem Held.firm (held : Held behind state) (more : state.rest ≠ []) :
    Firm behind state.rest := by
  -- When nothing follows there is nothing to be told apart from.
  rcases held with last | walled
  · exact .inl last
  · exact walled.faces.firm more behind

/-- Inside a context the text does not end well where others follow. -/
theorem Held.not_ended (held : Held behind state) (inside : state.stack ≠ []) :
    behind = [] ∨ stepLexical state ≠ .ok none :=
  held.imp_right fun walled => walled.not_ended inside

/-- Behind a context that was closed the last line is left. -/
theorem Held.ahead_of_closed (held : Held behind state) (step : LexStep state next)
    (closed : next.depth < state.depth) : Ahead behind next :=
  held.imp_right fun walled => ⟨walled.of_step step, walled.lastLine_of_closed step closed⟩

/-- A step over a character other than a semicolon does not go past that of the last line. -/
theorem Ahead.of_step (ahead : Ahead behind state) (step : LexStep state next) {c : Char}
    {tail : List Char} (left : state.rest = c :: tail) (other : c ≠ ';')
    (single : next.rest = tail) : Ahead behind next := by
  rcases ahead with nothing | ⟨walled, last⟩
  · exact .inl nothing
  · -- Only the semicolon itself is the start of the last line.
    rw [left] at last
    exact .inr ⟨walled.of_step step, single ▸ lastLine_suffix_tail last other⟩

/-- Behind a word the last line is left. -/
theorem Held.ahead_of_word (held : Held behind state) (lexes : Lexes state next)
    {word tail : List Char} (left : state.rest = word ++ tail) (nonempty : word ≠ [])
    (clear : ∀ c ∈ word, c ≠ '\n' ∧ c ≠ ';') (behindWord : next.rest = tail) :
    Ahead behind next := by
  -- The word stands before the semicolon's line, since it holds none of its characters.
  rcases held.of_lexes lexes with last | walled
  · exact .inl last
  · refine held.imp_right fun walled' => ⟨walled, ?_⟩
    exact behindWord ▸ lastLine_suffix ((left ▸ walled'.faces).behind_word nonempty clear)

/-- Before the last line something is left. -/
theorem Ahead.eq_nil (ahead : Ahead behind state) (ended : state.rest = []) : behind = [] := by
  rcases ahead with nothing | ⟨-, last⟩
  · exact nothing
  · simp [ended, lastLine] at last

/-- Before the last line there is a character, which is also the next one of the longer text. -/
theorem Ahead.head? (ahead : Ahead behind state) :
    (state.rest ++ behind).head? = state.rest.head? := by
  -- Where nothing is left, nothing follows.
  cases left : state.rest with
  | nil => rw [ahead.eq_nil left, List.append_nil]
  | cons c tail => rfl

end

end MessageCatalog.Source
