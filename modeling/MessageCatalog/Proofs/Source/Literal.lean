import MessageCatalog.Proofs.Source.Position

/-! A text can be written as a literal from which a scan reads it back. -/

namespace MessageCatalog.Source

section

variable {c quote : Char} {rest : List Char}

/-- A character behind no backslash denotes itself. -/
theorem decodeEscapes_plain (plain : c ≠ '\\') :
    decodeEscapes (c :: rest) = c :: decodeEscapes rest := by
  rw [decodeEscapes]
  all_goals simp_all

/-- The characters that would mean something else in a literal with some quote: the backslash, the
quote, and in a template those with which embeddings open. -/
def isSpecial (quote c : Char) : Bool :=
  ['\\', quote].contains c || (quote == '\x60' && ['$', '{', '[', '<'].contains c)

/-- The content of a literal that denotes a text has a backslash before each special character. -/
def escape (quote : Char) (value : List Char) : List Char :=
  value.flatMap fun c => if isSpecial quote c then ['\\', c] else [c]

/-- There are three quotes. -/
theorem isQuoteChar_cases (isQuote : isQuoteChar quote = true) :
    quote = '\'' ∨ quote = '"' ∨ quote = '\x60' := by
  unfold isQuoteChar Context.ofQuote? at isQuote
  grind

/-- A special character behind a backslash denotes itself. -/
theorem decodeEscapes_special (isQuote : isQuoteChar quote = true)
    (special : isSpecial quote c = true) :
    decodeEscapes ('\\' :: c :: rest) = c :: decodeEscapes rest := by
  -- No special character is an escape letter.
  have listed : c = '\\' ∨ c = '\'' ∨ c = '"' ∨ c = '\x60' ∨ c = '$' ∨ c = '{' ∨ c = '[' ∨ c = '<' := by
    have quotes := isQuoteChar_cases isQuote
    simp only [isSpecial, List.contains_cons, List.contains_nil, Bool.or_false, Bool.or_eq_true,
      Bool.and_eq_true, beq_iff_eq] at special
    grind
  rcases listed with rfl | rfl | rfl | rfl | rfl | rfl | rfl | rfl <;>
    simp [decodeEscapes, controlEscape?]

/-- Decoding the content of a literal for a text gives the text. -/
theorem decodeEscapes_escape (isQuote : isQuoteChar quote = true) (value : List Char) :
    decodeEscapes (escape quote value) = value := by
  induction value with
  | nil => simp [escape, decodeEscapes]
  | cons c value ih =>
    rw [escape, List.flatMap_cons]
    -- What is special is escaped and decoded again; all else stands for itself.
    split
    · rename_i special
      exact (decodeEscapes_special isQuote special).trans (congrArg (c :: ·) ih)
    · rename_i plain
      have noBackslash : c ≠ '\\' := by
        rintro rfl
        exact plain (by simp [isSpecial])
      exact (decodeEscapes_plain noBackslash).trans (congrArg (c :: ·) ih)

end

/-- The state between two parts of a text. -/
def State.between (front behind : List Char) (stack : List Context) : State :=
  ⟨.split front behind, stack⟩

@[simp] theorem between_rest (front behind : List Char) (stack : List Context) :
    (State.between front behind stack).rest = behind := rfl

section

variable (front word behind : List Char) (stack : List Context) (context : Context)

/-- Moving over a word takes it to what is before the point. -/
theorem between_advance :
    (State.between front (word ++ behind) stack).advance word.length =
      .between (front ++ word) behind stack := by
  simp [State.between, State.advance, Cursor.advance_split]

/-- Entering a context moves over its opening. -/
theorem between_enter :
    (State.between front (context.opening ++ behind) stack).enter context =
      .between (front ++ context.opening) behind (context :: stack) := by
  simp [State.between, State.enter, Cursor.advance_split]

/-- Leaving a context moves over its closing. -/
theorem between_leave :
    (State.between front (context.closing ++ behind) (context :: stack)).leave context =
      .between (front ++ context.closing) behind stack := by
  simp [State.between, State.leave, Cursor.advance_split]

end

/-- A quote opens and closes the literals that it delimits. -/
theorem ofQuote?_eq_some {quote : Char} {context : Context}
    (found : Context.ofQuote? quote = some context) :
    context.isQuote = true ∧ context.opening = [quote] ∧ context.closing = [quote] ∧
      (context = .backtick → quote = '\x60') := by
  unfold Context.ofQuote? at found
  repeat' split at found
  all_goals cases found
  all_goals simp_all [Context.isQuote, Context.opening, Context.closing]

/-- In a literal a step is one of its own. -/
theorem lexStep_literal {state : State} {context : Context} {c : Char} {tail : List Char}
    (literal : context.isQuote = true) (innermost : state.top = some context)
    (left : state.rest = c :: tail) : LexStep state (stepInQuote state context c) := by
  rw [LexStep, stepLexical, left]
  simp only [innermost, literal, if_true]

/-- A step is taken inside a context as well. -/
theorem stepInside_of_lexStep {state next : State} (step : LexStep state next) :
    stepInside state = .ok next := by
  rw [stepInside, show stepLexical state = _ from step]

/-- A literal goes on behind a step that stays in it. -/
theorem closeLiteral_of_step {outer : Nat} {state next : State} (depth : state.depth = outer + 1)
    (step : LexStep state next) (stays : next.depth = outer + 1) :
    closeLiteral outer state = closeLiteral outer next := by
  rw [closeLiteral_eq, if_neg (by omega), stepInside_of_lexStep step]
  exact if_neg (by omega)

section

variable {context : Context} {quote c : Char} (front behind : List Char) (base : List Context)

/-- In code, a quote is moved over and opens a literal. -/
theorem lexStep_openQuote (visible : Visible base) (found : Context.ofQuote? quote = some context) :
    LexStep (.between front (quote :: behind) base)
      (.between (front ++ [quote]) behind (context :: base)) := by
  obtain ⟨-, opening, -, -⟩ := ofQuote?_eq_some found
  have step : LexStep (.between front (quote :: behind) base) _ := lexStep_quote visible rfl found
  have enter := between_enter front behind base context
  rw [opening] at enter
  exact enter ▸ step

/-- In a literal, a backslash is moved over together with what is behind it. -/
theorem lexStep_backslash (literal : context.isQuote = true) (c : Char) :
    LexStep (.between front ('\\' :: c :: behind) (context :: base))
      (.between (front ++ ['\\', c]) behind (context :: base)) := by
  have step : LexStep (.between front ('\\' :: c :: behind) (context :: base)) _ :=
    lexStep_literal literal rfl rfl
  rw [← between_advance front ['\\', c] behind]
  exact step

/-- In a literal, a character that is not special is moved over. -/
theorem lexStep_unspecial (found : Context.ofQuote? quote = some context)
    (plain : isSpecial quote c = false) :
    LexStep (.between front (c :: behind) (context :: base))
      (.between (front ++ [c]) behind (context :: base)) := by
  -- It is no backslash and no quote, and no embedding opens with it in a template.
  obtain ⟨literal, -, closing, template⟩ := ofQuote?_eq_some found
  simp only [isSpecial, List.contains_cons, List.contains_nil, Bool.or_false, Bool.or_eq_false_iff,
    Bool.and_eq_false_iff, beq_eq_false_iff_ne] at plain
  obtain ⟨⟨backslash, other⟩, embedding⟩ := plain
  have goesOn : ¬ context.closing.isPrefixOf (c :: behind) = true := by
    simp [closing, List.isPrefixOf, Ne.symm other]
  have noEmbedding : (if context = .backtick then
        Interpolation.all.find? fun kind => kind.opening.isPrefixOf (c :: behind)
      else none) = none := by
    split
    · rename_i inTemplate
      obtain ⟨dollar, brace, bracket, angle⟩ := embedding.resolve_left (· (template inTemplate))
      simp [Interpolation.all, Interpolation.opening, List.isPrefixOf, Ne.symm dollar,
        Ne.symm brace, Ne.symm bracket, Ne.symm angle]
    · rfl
  -- So the step is one over a single character.
  have step : LexStep (.between front (c :: behind) (context :: base)) _ :=
    lexStep_literal literal rfl rfl
  rw [stepInQuote, if_neg backslash, between_rest, if_neg goesOn, noEmbedding] at step
  rw [← between_advance front [c] behind]
  exact step

/-- In a literal, the quote is moved over and ends it. -/
theorem lexStep_endQuote (found : Context.ofQuote? quote = some context) :
    LexStep (.between front (quote :: behind) (context :: base))
      (.between (front ++ [quote]) behind base) := by
  obtain ⟨literal, -, closing, -⟩ := ofQuote?_eq_some found
  have noBackslash : quote ≠ '\\' := by
    rintro rfl
    cases found
  have ends : context.closing.isPrefixOf (quote :: behind) = true := by
    simp [closing]
  -- The rest of the text begins with what closes the literal.
  have step : LexStep (.between front (quote :: behind) (context :: base)) _ :=
    lexStep_literal literal rfl rfl
  rw [stepInQuote, if_neg noBackslash, between_rest, if_pos ends] at step
  have left := between_leave front behind base context
  rw [closing] at left
  exact left ▸ step

/-- A literal that was written for a text ends behind all of it. -/
theorem closeLiteral_escape (found : Context.ofQuote? quote = some context) (value : List Char) :
    closeLiteral base.length
        (.between front (escape quote value ++ quote :: behind) (context :: base)) =
      .ok (some (.between (front ++ escape quote value) (quote :: behind) (context :: base),
        .between (front ++ escape quote value ++ [quote]) behind base)) := by
  -- Character by character, whatever is before the point.
  obtain ⟨literal, -, -, -⟩ := ofQuote?_eq_some found
  induction value generalizing front with
  | nil =>
    have step := lexStep_endQuote front behind base found
    have deep : ¬ base.length + 1 < (State.between front (quote :: behind) (context :: base)).depth :=
      Nat.lt_irrefl _
    rw [escape, List.flatMap_nil, List.nil_append, List.append_nil, closeLiteral_eq, if_neg deep,
      stepInside_of_lexStep step]
    exact if_pos rfl
  | cons c value ih =>
    rw [escape, List.flatMap_cons, ← escape]
    -- A special character is written with a backslash, and both are moved over by one step.
    split
    · have step := lexStep_backslash front (escape quote value ++ quote :: behind) base literal c
      rw [List.append_assoc, List.append_assoc]
      refine (closeLiteral_of_step rfl step rfl).trans ?_
      rw [ih, List.append_assoc, List.append_assoc]
    · rename_i plain
      have step := lexStep_unspecial front (escape quote value ++ quote :: behind) base found
        (by simpa using plain)
      rw [List.append_assoc, List.append_assoc]
      refine (closeLiteral_of_step rfl step rfl).trans ?_
      rw [ih, List.append_assoc, List.append_assoc]

end

/-- A text to be written as a literal, with the quote for it. -/
structure Literal where
  quote : Char
  value : List Char
  isQuote : isQuoteChar quote = true
  nonempty : value ≠ []

namespace Literal

/-- The literal as it is written. -/
def written (literal : Literal) : List Char :=
  literal.quote :: (escape literal.quote literal.value ++ [literal.quote])

/-- The text for which a scan takes the literal. -/
def text (literal : Literal) : String := String.ofList (composedForm literal.value)

end Literal

/-- A text that is not empty is not written as an empty literal. -/
theorem escape_ne_nil {quote : Char} {value : List Char} (nonempty : value ≠ []) :
    escape quote value ≠ [] := by
  obtain ⟨c, rest, rfl⟩ := List.exists_cons_of_ne_nil nonempty
  rw [escape, List.flatMap_cons]
  split <;> simp

section

variable {base : List Context} (front behind : List Char)

/-- Blanks are skipped one by one. -/
theorem skipTrivia_blanks {blanks : List Char} (blank : ∀ c ∈ blanks, isBlank c = true) :
    skipTrivia (.between front (blanks ++ behind) base) =
      skipTrivia (.between (front ++ blanks) behind base) := by
  -- By induction on the blanks, which join what stands in front one by one.
  induction blanks generalizing front with
  | nil => rw [List.nil_append, List.append_nil]
  | cons c blanks ih =>
    rw [List.forall_mem_cons] at blank
    have moved := between_advance front [c] (blanks ++ behind) base
    have skipped : skipTrivia (.between front (c :: (blanks ++ behind)) base) = _ :=
      skipTrivia_blank rfl blank.1
    rw [List.cons_append, skipped]
    refine (congrArg skipTrivia moved).trans ?_
    rw [ih (front ++ [c]) blank.2, List.append_assoc, List.singleton_append]

/-- A literal is read as the text for which it was written, up to the separator behind it. -/
theorem readLiteral_written (visible : Visible base) (argument : Argument) (parenthesized : Bool)
    (literal : Literal) {blanks : List Char} (blank : ∀ c ∈ blanks, isBlank c = true) :
    readLiteral argument parenthesized
        (.between front (blanks ++ (literal.written ++ behind)) base) = (do
      let after ← skipTrivia (.between (front ++ blanks ++ literal.written) behind base)
      let behind ← takeSeparator
        (.malformed ⟨.notALiteral argument, .behind (front ++ blanks)⟩) parenthesized after
      return (literal.text, behind)) := by
  obtain ⟨quote, value, isQuote, nonempty⟩ := literal
  obtain ⟨context, found⟩ := Option.isSome_iff_exists.1 isQuote
  have written : Literal.written ⟨quote, value, isQuote, nonempty⟩ ++ behind =
      quote :: (escape quote value ++ quote :: behind) := by
    simp [Literal.written]
  rw [written]
  -- The blanks before the quote are skipped, and nothing else is.
  have toQuote : skipTrivia
      (.between (front ++ blanks) (quote :: (escape quote value ++ quote :: behind)) base) =
        .ok (.between (front ++ blanks) (quote :: (escape quote value ++ quote :: behind)) base) := by
    refine skipTrivia_other rfl ?_ ?_
    · rcases isQuoteChar_cases isQuote with rfl | rfl | rfl <;> decide
    · rcases isQuoteChar_cases isQuote with rfl | rfl | rfl <;> simp [Context.ofComment?]
  -- The quote opens the literal, and the content is moved over up to the other quote.
  have opened : openLiteral argument
      (.between (front ++ blanks) (quote :: (escape quote value ++ quote :: behind)) base) =
        .ok (.between (front ++ blanks ++ [quote]) (escape quote value ++ quote :: behind)
          (context :: base)) :=
    (if_pos isQuote).trans (stepInside_of_lexStep (lexStep_openQuote _ _ _ visible found))
  have closed := closeLiteral_escape (front ++ blanks ++ [quote]) behind base found value
  have raw : (State.between (front ++ blanks ++ [quote]) (escape quote value ++ quote :: behind)
        (context :: base)).cursor.textTo
      (State.between (front ++ blanks ++ [quote] ++ escape quote value) (quote :: behind)
        (context :: base)).cursor = escape quote value := Cursor.textTo_split _ _ _
  -- What was written is not empty, and is decoded to what it was written for.
  have content : ¬ (escape quote value).isEmpty = true := by
    simpa using escape_ne_nil nonempty
  rw [readLiteral_eq, skipTrivia_blanks front _ blank, toQuote]
  dsimp only [bind, Except.bind]
  rw [opened]
  dsimp only
  have depth : (State.between (front ++ blanks) (quote :: (escape quote value ++ quote :: behind))
    base).depth = base.length := rfl
  rw [depth, closed]
  dsimp only [takeLiteral]
  rw [raw, if_neg content, decodeEscapes_escape isQuote]
  simp [Literal.written, Literal.text]
  rfl

end

end MessageCatalog.Source
