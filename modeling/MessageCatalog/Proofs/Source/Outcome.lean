import MessageCatalog.Proofs.Source.Position

/-! A scan ends with its calls or with the context in which the text ended. -/

namespace MessageCatalog.Source

/-- A text that ended inside a context that cannot stay open there. -/
def Unfinished (text : List Char) (fault : ScanError) : Prop :=
  ∃ context, context ≠ .lineComment ∧ fault = .unclosed context (text.count '\n')

section

variable {text : List Char} {state : State} {fault : ScanError}

/-- A text that does not end well ends in a context other than a line comment. -/
theorem finish_eq_error (unfinished : finish state = .error fault) :
    ∃ context, context ≠ .lineComment ∧ fault = .unclosed context state.position.line := by
  -- The context that is told was searched among those that cannot stay open.
  unfold finish at unfinished
  split at unfinished
  · rename_i context found
    cases unfinished
    exact ⟨context, by simpa using List.find?_some found, rfl⟩
  · cases unfinished

/-- What stops a reading on a text is malformed, or is found at the end of the text. -/
theorem Stands.of_stops (stands : Stands text state) (stops : Stops state fault) :
    (∃ construct, fault = .malformed construct) ∨ Unfinished text fault := by
  -- Steps lead to the end of the text, where all of its lines have been counted.
  rcases stops with malformed | ⟨last, lexes, ended, unfinished⟩
  · exact .inl malformed
  · obtain ⟨context, noComment, same⟩ := finish_eq_error unfinished
    rw [(stands.of_lexes lexes).line_of_ended ended] at same
    exact .inr ⟨context, noComment, same⟩

variable {functions : List Function}

/-- What stops a step of a scan is malformed, or is found at the end of the text. -/
theorem Stands.of_failed (stands : Stands text state)
    (failed : step functions state = .error fault) :
    (∃ construct, fault = .malformed construct) ∨ Unfinished text fault := by
  -- A call is read from behind its name, and a lexical step from the state itself.
  rcases step_failed failed with ⟨function, found, read⟩ | ⟨-, lexical⟩
  · have reads := reads_functionAt found
    rw [read] at reads
    exact (stands.advance _).of_stops reads
  · exact stands.of_stops (stops_of_stepLexical lexical)

/-- At the end of the text a step of a scan finds nothing malformed. -/
theorem not_malformed_of_ended (nonempty : ∀ function ∈ functions, function.name ≠ [])
    (ended : state.rest = []) (construct : Malformed) :
    step functions state ≠ .error (.malformed construct) := by
  intro failed
  -- A step fails at a call, or by a lexical step.
  rcases step_failed failed with ⟨function, found, -⟩ | ⟨-, lexical⟩
  · -- No name stands at the end.
    obtain ⟨-, member, tail, left⟩ := functionAt?_eq_some found
    have noName : function.name ++ tail = [] := left ▸ ended
    exact nonempty function member (List.append_eq_nil_iff.1 noName).1
  · -- What can fail there is the end of the text, which tells what is open.
    rw [stepLexical_ended ended] at lexical
    cases finished : finish state with
    | ok => simp [finished, Except.map] at lexical
    | error other =>
      obtain ⟨context, -, unclosed⟩ := finish_eq_error finished
      simp [finished, Except.map, unclosed] at lexical

/-- A call whose function has a name goes forward. -/
theorem CallEnds.shorter {function : Function} {read : State × Call} (nonempty : function.name ≠ [])
    (found : functionAt? functions state = some function)
    (ends : CallEnds function state read) : read.1.rest.length < state.rest.length := by
  -- The name alone is not empty, and the arguments do not go back.
  obtain ⟨-, -, tail, left⟩ := functionAt?_eq_some found
  have behind : read.1.rest.length ≤ (state.advance function.name.length).rest.length :=
    Lexes.length_le ends.lexes
  have named : 0 < function.name.length := List.length_pos_iff.2 nonempty
  have moved : (state.cursor.advance function.name.length).rest.length < state.rest.length :=
    State.advance_shorter named (by simp [left, nonempty])
  exact Nat.lt_of_le_of_lt behind moved

/-- A step of a scan goes forward. -/
theorem step_shorter (nonempty : ∀ function ∈ functions, function.name ≠ []) {next : Step}
    (moved : step functions state = .ok (some next)) :
    next.state.rest.length < state.rest.length := by
  -- A call moves over the name at least, and a lexical step over a character.
  rcases step_moved moved with ⟨function, call, found, read, -⟩ | ⟨-, lexical, -⟩
  · have ends := (reads_functionAt found).of_ok read
    exact ends.shorter (nonempty function (functionAt?_eq_some found).2.1) found
  · exact stepLexical_shorter lexical

/-- A scan from a state on ends with its calls or with the end of the text. -/
theorem scanFrom_ends (nonempty : ∀ function ∈ functions, function.name ≠ []) (state : State)
    (calls : List Call) (skipped : List Malformed) (stands : Stands text state) :
    (∃ found, (scanFrom functions state calls skipped).result = .ok found) ∨
      ∃ fault, (scanFrom functions state calls skipped).result = .error fault ∧
        Unfinished text fault := by
  -- The cases are the turns of a scan; each one stays on the text.
  induction state, calls, skipped using scanFrom.induct functions with
  | case1 state calls skipped ended =>
    rw [scanFrom_ended ended]
    exact .inl ⟨_, rfl⟩
  | case2 state calls skipped next moved shorter ih =>
    rw [scanFrom_moved moved shorter]
    exact ih (stands.of_step moved)
  | case3 state calls skipped next moved stalled =>
    exact absurd (step_shorter nonempty moved) stalled
  | case4 state calls skipped construct failed context stack inside ih =>
    -- What is malformed makes the scan go on outside, or behind one character.
    rw [scanFrom_gaveUp failed inside]
    exact ih (stands.gaveUp inside)
  | case5 state calls skipped construct failed c tail outside left ih =>
    rw [scanFrom_skipped failed outside (by simp [left])]
    exact ih (stands.advance 1)
  | case6 state calls skipped construct failed outside ended =>
    exact absurd failed (not_malformed_of_ended nonempty ended construct)
  | case7 state calls skipped fault fatal failed =>
    rcases stands.of_failed failed with ⟨construct, malformed⟩ | ⟨context, noComment, rfl⟩
    · exact absurd malformed (fatal construct)
    · rw [scanFrom_failed failed fatal]
      exact .inr ⟨_, rfl, context, noComment, rfl⟩

end

/-- The states from which the arguments of a call at a state are read, one behind the other. -/
inductive ArgumentAt (function : Function) (state : State) : State → Prop
  | first {named opened : State}
    (skipped : skipTrivia (state.advance function.name.length) = .ok named)
    (opens : openList named = .ok opened) : ArgumentAt function state opened
  | next {argument : Argument} {parenthesized : Bool} {before behind : State} {value : String}
    (isArgument : ArgumentAt function state before)
    (read : readLiteral argument parenthesized before = .ok (value, behind)) :
    ArgumentAt function state behind

/-- The states inside a literal from which the search for its end goes on. -/
inductive InLiteral (outer : Nat) (content : State) : State → Prop
  | first (plain : content.depth ≤ outer + 1) : InLiteral outer content content
  | next {state next : State} (inside : InLiteral outer content state)
    (stepped : stepInside state = .ok next) (goesOn : next.depth ≠ outer)
    (plain : next.depth ≤ outer + 1) : InLiteral outer content next

/-- The states from which the reading of a call steps inside a context that has to be closed: at the
parenthesis of its list, at the quote of an argument and in the literal behind it. -/
inductive StepsInside (function : Function) (state : State) : State → Prop
  | list {named : State} (skipped : skipTrivia (state.advance function.name.length) = .ok named)
    (opens : named.rest.head? = some '(') : StepsInside function state named
  | quote {before opening : State} (isArgument : ArgumentAt function state before)
    (skipped : skipTrivia before = .ok opening)
    (quoted : opening.rest.head?.any isQuoteChar = true) : StepsInside function state opening
  | content {argument : Argument} {before opening content inside : State}
    (isArgument : ArgumentAt function state before) (skipped : skipTrivia before = .ok opening)
    (opened : openLiteral argument opening = .ok content)
    (within : InLiteral opening.depth content inside) : StepsInside function state inside

section

variable {function : Function} {state inside : State}

/-- Arguments are read in visible contexts, but for a line comment in which the text ends. -/
theorem ArgumentAt.restored (isArgument : ArgumentAt function state inside)
    (visible : state.isHidden = false) : ∃ base, Visible base ∧ Restored base inside := by
  -- The induction is on the arguments that were read before.
  induction isArgument with
  | first skipped opens =>
    -- The first argument stands in the contexts of the call or in its parenthesis.
    have named : Restored state.stack (state.advance function.name.length) := .inl rfl
    have restored := ((reads_skipTrivia visible named).of_ok skipped).2
    have around := ((reads_openList visible restored).of_ok opens).2
    obtain ⟨base, inList, restored, -⟩ := argumentList_of_opened visible around
    exact ⟨base, inList, restored⟩
  | next isArgument read ih =>
    obtain ⟨base, inList, restored⟩ := ih
    exact ⟨base, inList, ((reads_readLiteral inList restored _ _).of_ok read).2⟩

/-- Between its quote and its end a literal stays the innermost context. -/
theorem InLiteral.stack {quote : Context} {base : List Context} {content : State}
    (literal : quote.isQuote = true) (stack : content.stack = quote :: base)
    (within : InLiteral base.length content inside) : inside.stack = quote :: base := by
  -- A state that is no deeper and not outside is still in the literal itself.
  induction within with
  | first => exact stack
  | next _ stepped goesOn plain ih =>
    exact (stack_of_closeLiteral literal ih stepped goesOn).resolve_right (Nat.not_lt.2 plain)

/-- Where a call is read inside a context that has to be closed, the text does not end well. -/
theorem StepsInside.not_ended (steps : StepsInside function state inside)
    (code : CodeStack state.stack) : stepLexical inside ≠ .ok none := by
  cases steps with
  | list skipped opens =>
    -- A parenthesis is left there, and at a quote the quote is.
    obtain ⟨tail, left⟩ := List.head?_eq_some_iff.1 opens
    exact stepLexical_ne_none (by simp [left])
  | quote isArgument skipped quoted =>
    obtain ⟨c, first, -⟩ := (Option.any_eq_true _ _).1 quoted
    obtain ⟨tail, left⟩ := List.head?_eq_some_iff.1 first
    exact stepLexical_ne_none (by simp [left])
  | content isArgument skipped opened within =>
    -- The literal is still open there, and a text cannot end in one.
    obtain ⟨base, inList, restored⟩ := isArgument.restored code.visible
    have restored := ((reads_skipTrivia inList restored).of_ok skipped).2
    obtain ⟨-, stack, quote, literal, entered⟩ :=
      (reads_openLiteral inList restored _).of_ok opened
    have depth : _ = base.length := congrArg List.length stack
    rw [State.depth, depth] at within
    exact stepLexical_ne_none_of_quote literal (within.stack literal entered)

end

/-- The functions of base names have names. -/
theorem nonempty_ofBases {bases : List String} :
    ∀ function ∈ Function.ofBases bases, function.name ≠ [] := by
  -- A name begins with its base, and empty bases are left out.
  intro function member
  obtain ⟨base, -, nonempty, suffix, spelled, -⟩ := mem_ofBases member
  simp [spelled, nonempty]

/-- Every scan has its calls for a result, or the context in which the text ended and its last line. It
never stalls, and no malformed construct ends it. Where a call is read inside a context, the text
never ends well, so the context that would be told then is never needed. -/
theorem scan_ends (bases : List String) (text : List Char) :
    ((∃ calls, (scan (Function.ofBases bases) text).result = .ok calls) ∨
      ∃ context, context ≠ .lineComment ∧
        (scan (Function.ofBases bases) text).result = .error (.unclosed context (text.count '\n'))) ∧
    ∀ state function inside,
      Relation.ReflTransGen (ScanStep (Function.ofBases bases)) (.start text) state →
      functionAt? (Function.ofBases bases) state = some function →
      StepsInside function state inside → stepLexical inside ≠ .ok none := by
  -- The result is known from the turns of the scan, and the contexts of a call from where the scan
  -- stands.
  refine ⟨?_, ?_⟩
  · rcases scanFrom_ends nonempty_ofBases (.start text) [] [] (.start text) with
      result | ⟨_, failed, context, noComment, rfl⟩
    · exact .inl result
    · exact .inr ⟨context, noComment, failed⟩
  · intro state function inside turns found steps
    have stands := stands_of_scanSteps turns
    exact steps.not_ended (stands.nested.codeStack (functionAt?_eq_some found).1)

end MessageCatalog.Source
