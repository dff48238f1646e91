import MessageCatalog.Proofs.Entry.Fault
import MessageCatalog.Proofs.Source.Literal
import MessageCatalog.Proofs.Text.Normal

/-! Each part of a message is denoted by a literal of its call, and is empty when nothing but line
continuations stands in the literal. -/

namespace MessageCatalog

/-- The parts of a message. -/
def Message.parts (message : Message) : List String :=
  message.context.toList ++ message.text :: message.plural.toList

namespace Source

/-- The content of a literal that goes on over ends of lines and holds nothing else. -/
inductive Continuations : List Char → Prop
  | nil : Continuations []
  | lineFeed {rest : List Char} (others : Continuations rest) : Continuations ('\\' :: '\n' :: rest)
  | carriageReturn {rest : List Char} (others : Continuations rest) :
    Continuations ('\\' :: '\r' :: rest)
  | both {rest : List Char} (others : Continuations rest) :
    Continuations ('\\' :: '\r' :: '\n' :: rest)

/-- Digits that name no character stay, and others become one. -/
theorem codePoint_ne_nil {opening digits : List Char} (nonempty : opening ≠ []) :
    codePoint opening digits ≠ [] := by
  unfold codePoint
  split
  · exact List.cons_ne_nil _ _
  · exact List.append_ne_nil_of_left_ne_nil nonempty _

/-- Nothing but line continuations is decoded to nothing. -/
theorem decodeEscapes_eq_nil_iff {content : List Char} :
    decodeEscapes content = [] ↔ Continuations content := by
  constructor
  · -- The cases are those of decoding: line continuations go on, and all others have characters.
    intro decoded
    induction content using decodeEscapes.induct with
    | case1 => exact .nil
    | case2 => simp [decodeEscapes] at decoded
    -- An escape by number stands for one character at least.
    | case3 rest => simp [decodeEscapes, codePoint_ne_nil] at decoded
    | case4 rest => simp [decodeEscapes, codePoint_ne_nil] at decoded
    | case5 rest noBrace =>
      rw [decodeEscapes.eq_5 rest noBrace] at decoded
      simp [codePoint_ne_nil] at decoded
    | case6 rest ih =>
      rw [decodeEscapes] at decoded
      exact .lineFeed (ih decoded)
    | case7 rest ih =>
      rw [decodeEscapes] at decoded
      exact .both (ih decoded)
    | case8 rest noLineFeed ih =>
      rw [decodeEscapes.eq_8 rest noLineFeed] at decoded
      exact .carriageReturn (ih decoded)
    | case9 c rest x u u' lineFeed both carriageReturn zero =>
      rw [decodeEscapes.eq_9 c rest x u u' lineFeed both carriageReturn, if_pos zero] at decoded
      cases decoded
    | case10 c rest x u u' lineFeed both carriageReturn zero =>
      rw [decodeEscapes.eq_9 c rest x u u' lineFeed both carriageReturn, if_neg zero] at decoded
      cases decoded
    -- What is no escape stands for itself.
    | case11 =>
      rw [decodeEscapes] at decoded
      all_goals simp_all
  · -- Line continuations are dropped one by one, as they are given.
    intro only
    induction only with
    | nil => simp [decodeEscapes]
    | lineFeed _ ih =>
      rw [decodeEscapes]
      exact ih
    | @carriageReturn rest others ih =>
      have noLineFeed (tail : List Char) : rest = '\n' :: tail → False := by
        rintro rfl
        cases others
      rw [decodeEscapes.eq_8 rest noLineFeed]
      exact ih
    | both _ ih =>
      rw [decodeEscapes]
      exact ih

/-- A literal of a text, between its quotes, denotes a part of a message. -/
structure Denotes (text : List Char) (quote : Char) (content : List Char) (part : String) : Prop where
  isQuote : isQuoteChar quote = true
  nonempty : content ≠ []
  /-- It stands in the text. -/
  stands : quote :: (content ++ [quote]) <:+: text
  /-- The part is what is written there, in composed form. -/
  decoded : part.toList = composedForm (decodeEscapes content)
  /-- It is empty when only line continuations are. -/
  empty_iff : part = "" ↔ Continuations content

/-- What stands in a part of a text stands in the text. -/
theorem Denotes.of_infix {text larger : List Char} {quote : Char} {content : List Char}
    {part : String} (denotes : Denotes text quote content part) (within : text <:+: larger) :
    Denotes larger quote content part :=
  { denotes with stands := denotes.stands.trans within }

section

variable {state next : State} {base : List Context}

/-- The text between two states is what is left at the one and not at the other. -/
theorem textTo_of_rest {word : List Char} (moved : state.rest = word ++ next.rest) :
    state.cursor.textTo next.cursor = word := by
  rw [Cursor.textTo, show state.cursor.rest = _ from moved]
  simp [State.rest]

/-- Steps leave what is behind the text between both states. -/
theorem rest_eq_of_lexes (lexes : Lexes state next) :
    state.rest = state.cursor.textTo next.cursor ++ next.rest := by
  obtain ⟨n, moved⟩ := lexes.cursor_eq
  have left : next.rest = state.rest.drop n := by
    rw [State.rest, moved, Cursor.advance_rest]
    rfl
  -- Steps only move the cursor on, so the text splits where they have come to.
  have split : state.rest = state.rest.take n ++ next.rest := by
    rw [left, List.take_append_drop]
  rw [textTo_of_rest split]
  exact split

/-- A literal ends with its quote. -/
theorem rest_of_closed {context : Context} {quote : Char} (closing : context.closing = [quote])
    (inside : state.stack = context :: base) (step : LexStep state next)
    (outside : next.stack = base) : state.rest = quote :: next.rest := by
  -- Of the steps only that out of the literal comes to the contexts around it.
  cases (lexical_of_stepLexical step).2 with
  | move n => simp [State.advance, inside] at outside
  | embed kind =>
    have longer := congrArg List.length outside
    simp only [State.enter, inside, List.length_cons] at longer
    omega
  | enter other =>
    have longer := congrArg List.length outside
    simp only [State.enter, inside, List.length_cons] at longer
    omega
  | leave other innermost stands =>
    obtain rfl : context = other := by simpa [State.top, inside] using innermost
    rw [closing] at stands
    obtain ⟨tail, left⟩ := stands
    simp [← left, closing]

/-- A literal argument begins with its quote. -/
theorem rest_of_openLiteral (visible : Visible base) (restored : Restored base state)
    {argument : Argument} (opened : openLiteral argument state = .ok next) :
    ∃ quote context, Context.ofQuote? quote = some context ∧ state.rest = quote :: next.rest ∧
      state.stack = base ∧ next.stack = context :: base := by
  obtain ⟨step, stack, -⟩ := (reads_openLiteral visible restored argument).of_ok opened
  unfold openLiteral at opened
  split at opened
  · rename_i quoted
    obtain ⟨quote, first, isQuote⟩ := (Option.any_eq_true _ _).1 quoted
    obtain ⟨tail, left⟩ := List.head?_eq_some_iff.1 first
    obtain ⟨context, found⟩ := Option.isSome_iff_exists.1 isQuote
    -- The step is the one that a quote takes, and there is no other.
    obtain rfl := LexStep.unique step (lexStep_quote (visible.isHidden stack) left found)
    exact ⟨quote, context, found, by simp [left, (ofQuote?_eq_some found).2.1], stack,
      by simp [State.enter, stack]⟩
  · cases opened

/-- What is taken between the ends of a literal, and what is skipped behind it. -/
theorem takeLiteral_eq_ok {argument : Argument} {parenthesized : Bool} {opening content : State}
    {ends : Option (State × State)} {part : String}
    (taken : takeLiteral argument parenthesized opening content ends = .ok (part, next)) :
    ∃ last closed after construct, ends = some (last, closed) ∧
      content.cursor.textTo last.cursor ≠ [] ∧
      part = String.ofList (composedForm (decodeEscapes (content.cursor.textTo last.cursor))) ∧
      skipTrivia closed = .ok after ∧
      takeSeparator (.malformed construct) parenthesized after = .ok next := by
  unfold takeLiteral at taken
  -- A literal that does not end is refused, and so is an empty one.
  rcases ends with - | ⟨last, closed⟩
  · cases taken
  · dsimp only at taken
    split at taken
    · cases taken
    · rename_i nonempty
      obtain ⟨after, skipped, taken⟩ := bind_eq_ok.1 taken
      obtain ⟨behind, separated, same⟩ := bind_eq_ok.1 taken
      cases same
      exact ⟨last, closed, after, _, rfl, by simpa using nonempty, rfl, skipped, separated⟩

/-- A literal argument denotes what is read for it. -/
theorem denotes_of_readLiteral (visible : Visible base) (restored : Restored base state)
    {argument : Argument} {parenthesized : Bool} {part : String}
    (read : readLiteral argument parenthesized state = .ok (part, next)) :
    ∃ quote content, Denotes (state.cursor.textTo next.cursor) quote content part := by
  -- The reading is taken apart into its steps, each of which leaves what is behind it.
  rw [readLiteral_eq] at read
  obtain ⟨opening, skipped, read⟩ := bind_eq_ok.1 read
  obtain ⟨content, opened, read⟩ := bind_eq_ok.1 read
  obtain ⟨ends, closed, taken⟩ := bind_eq_ok.1 read
  obtain ⟨toOpening, restored⟩ := (reads_skipTrivia visible restored).of_ok skipped
  obtain ⟨quote, context, found, toContent, stack, inside⟩ :=
    rest_of_openLiteral visible restored opened
  obtain ⟨literal, -, closing, -⟩ := ofQuote?_eq_some found
  obtain ⟨last, behind, after, construct, rfl, nonempty, rfl, skipped, separated⟩ :=
    takeLiteral_eq_ok taken
  rw [show opening.depth = base.length from congrArg List.length stack] at closed
  obtain ⟨toLast, close, outside, within⟩ :=
    (reads_closeLiteral literal (.inl inside)).of_ok closed (last, behind) rfl
  obtain ⟨toAfter, restored⟩ := (reads_skipTrivia visible (.inl outside)).of_ok skipped
  obtain ⟨toNext, -⟩ := (reads_takeSeparator visible restored construct parenthesized).of_ok separated
  -- The parts stand side by side in what is left, so that the literal stands in the call's text.
  have whole : state.rest = state.cursor.textTo opening.cursor ++
      (quote :: (content.cursor.textTo last.cursor ++ [quote])) ++
      behind.cursor.textTo next.cursor ++ next.rest := by
    have before := rest_eq_of_lexes toOpening
    rw [toContent, rest_eq_of_lexes toLast, rest_of_closed closing within close outside,
      rest_eq_of_lexes (toAfter.trans toNext)] at before
    simpa using before
  refine ⟨quote, content.cursor.textTo last.cursor, ?_⟩
  exact {
    isQuote := Option.isSome_iff_exists.2 ⟨context, found⟩
    nonempty
    stands := textTo_of_rest whole ▸ ⟨_, _, rfl⟩
    decoded := String.toList_ofList
    empty_iff := by
      rw [← decodeEscapes_eq_nil_iff, ← composedForm_eq_nil_iff, String.ofList_eq_empty_iff] }

/-- An argument that only some functions have denotes what is read for it. -/
theorem denotes_of_readOptional (visible : Visible base) (restored : Restored base state)
    {present : Bool} {argument : Argument} {parenthesized : Bool} {optional : Option String}
    (read : readOptional present argument parenthesized state = .ok (optional, next)) :
    ∀ part ∈ optional,
      ∃ quote content, Denotes (state.cursor.textTo next.cursor) quote content part := by
  unfold readOptional at read
  split at read
  · -- The argument is read like any other literal, or its fault is the one of the call.
    cases result : readLiteral argument parenthesized state with
    | error fault =>
      rw [result] at read
      cases read
    | ok value =>
      rw [result] at read
      cases read
      rintro part ⟨⟩
      exact denotes_of_readLiteral visible restored result
  · -- An argument that is not asked for has no part.
    cases read
    exact nofun

/-- What is read on the way from one state to another stands between the two. -/
theorem textTo_within {first last : State} {front : List Char}
    (before : first.rest = front ++ state.rest) (lexes : Lexes state next)
    (after : Lexes next last) :
    state.cursor.textTo next.cursor <:+: first.cursor.textTo last.cursor := by
  have whole : first.rest = front ++ state.cursor.textTo next.cursor ++
      next.cursor.textTo last.cursor ++ last.rest := by
    rw [before, rest_eq_of_lexes lexes, rest_eq_of_lexes after]
    simp
  rw [textTo_of_rest whole]
  exact ⟨_, _, rfl⟩

end

/-- Literals of a call denote the parts of its message. -/
def Call.Spelled (call : Call) : Prop :=
  ∀ part ∈ call.message.parts, ∃ quote content, Denotes call.raw quote content part

/-- A call that was read is spelled so. -/
theorem spelled_of_readCall {function : Function} {state next : State} {call : Call}
    (visible : state.isHidden = false) (read : readCall function state = .ok (next, call)) :
    call.Spelled := by
  rw [readCall_eq] at read
  obtain ⟨list, skipped, read⟩ := bind_eq_ok.1 read
  obtain ⟨opened, opens, read⟩ := bind_eq_ok.1 read
  obtain ⟨⟨context, behindContext⟩, readContext, read⟩ := bind_eq_ok.1 read
  obtain ⟨⟨text, behindText⟩, readText, read⟩ := bind_eq_ok.1 read
  obtain ⟨⟨plural, behindPlural⟩, readPlural, read⟩ := bind_eq_ok.1 read
  obtain ⟨behind, ended, same⟩ := bind_eq_ok.1 read
  cases same
  -- Each part stands between the states before and behind it, all of which lie in the call.
  have named : Restored state.stack (state.advance function.name.length) := .inl rfl
  obtain ⟨toList, restored⟩ := (reads_skipTrivia visible named).of_ok skipped
  obtain ⟨toOpened, around⟩ := (reads_openList visible restored).of_ok opens
  obtain ⟨base, inList, inOpened, inside, inCode⟩ := argumentList_of_opened visible around
  obtain ⟨toContext, inContext, -⟩ := (reads_readOptional inList inOpened _ _ _).of_ok readContext
  obtain ⟨toText, inText⟩ := (reads_readLiteral inList inContext _ _).of_ok readText
  obtain ⟨toPlural, inPlural, -⟩ := (reads_readOptional inList inText _ _ _).of_ok readPlural
  have nested : state.stack = [] → Nested behindPlural.stack := fun outermost =>
    inPlural.nested (inCode (outermost ▸ .outermost))
  obtain ⟨toBehind, -⟩ := (reads_skipArguments visible nested (inPlural.suffix inside)).of_ok ended
  have before {reached : State} (lexes : Lexes (state.advance function.name.length) reached) :
      state.rest = state.rest.take function.name.length ++
        (state.advance function.name.length).cursor.textTo reached.cursor ++ reached.rest := by
    rw [List.append_assoc, ← rest_eq_of_lexes lexes, State.advance_rest, List.take_append_drop]
  have arguments := toList.trans toOpened
  -- The part is the context, the text or the plural; what was read before and after it surrounds it in
  -- the call.
  intro part member
  rcases List.mem_append.1 member with isContext | member
  · obtain ⟨quote, content, denotes⟩ :=
      denotes_of_readOptional inList inOpened readContext part (by simpa using isContext)
    exact ⟨quote, content, denotes.of_infix
      (textTo_within (before arguments) toContext (toText.trans (toPlural.trans toBehind)))⟩
  · rcases List.mem_cons.1 member with rfl | isPlural
    · obtain ⟨quote, content, denotes⟩ := denotes_of_readLiteral inList inContext readText
      exact ⟨quote, content, denotes.of_infix
        (textTo_within (before (arguments.trans toContext)) toText (toPlural.trans toBehind))⟩
    · obtain ⟨quote, content, denotes⟩ :=
        denotes_of_readOptional inList inText readPlural part (by simpa using isPlural)
      exact ⟨quote, content, denotes.of_infix
        (textTo_within (before (arguments.trans (toContext.trans toText))) toPlural toBehind)⟩

/-- The calls that a scan finds are spelled so. -/
theorem spelled_of_scan {functions : List Function} {text : List Char} {calls : List Call}
    (scanned : (scan functions text).result = .ok calls) : ∀ call ∈ calls, call.Spelled := by
  -- Each turn of a scan adds a call that was read, or none.
  have moves {state : State} {found : List Call} {next : Step}
      (known : ∀ call ∈ found, call.Spelled) (moved : step functions state = .ok (some next)) :
      ∀ call ∈ next.call.toList ++ found, call.Spelled := by
    rcases step_moved moved with ⟨function, call, named, read, isCall⟩ | ⟨-, -, noCall⟩
    · rw [isCall]
      exact List.forall_mem_cons.2 ⟨spelled_of_readCall (functionAt?_eq_some named).1 read, known⟩
    · rw [noCall]
      exact known
  obtain ⟨-, -, known⟩ := holds_of_scanFrom (fun _ found => ∀ call ∈ found, call.Spelled) moves
    (fun known _ _ => known) (fun known _ _ => known) (.start text) [] [] nofun scanned
  exact fun call member => known call (List.mem_reverse.2 member)

end Source

end MessageCatalog
