import MessageCatalog.Proofs.Source.Position

/-! Which contexts can lie inside which, in every state of a scan: between its turns and within its
calls. -/

namespace MessageCatalog.Source

/-- Where the contexts of a stack stand, the innermost one of which has the index zero. -/
structure Placed (stack : List Context) : Prop where
  /-- Inside of a literal or a comment there is nothing, but for templates. -/
  innermost : ∀ i context, stack[i + 1]? = some context → context.hidesCode = true →
    context = .backtick
  /-- A template is innermost, or has an embedding directly inside of it. -/
  template : ∀ i, stack[i + 1]? = some .backtick → ∃ kind, stack[i]? = some (.interpolation kind)
  /-- An embedding lies directly inside of a template. -/
  embedding : ∀ i kind, stack[i]? = some (.interpolation kind) → stack[i + 1]? = some .backtick

section

variable {stack : List Context}

/-- Around code, only templates are literals. -/
theorem CodeStack.template_of_hidesCode (code : CodeStack stack) {i : Nat} {context : Context}
    (found : stack[i]? = some context) (hides : context.hidesCode = true) : context = .backtick := by
  -- The induction is on the contexts around code, one or two of which stand in front.
  induction code generalizing i with
  | outermost => cases found
  | paren _ ih =>
    cases i with
    | zero =>
      cases found
      cases hides
    | succ i => exact ih found
  | embedding kind _ ih =>
    match i with
    | 0 =>
      cases found
      cases hides
    | 1 => exact (Option.some.inj found).symm
    | i + 2 => exact ih found

/-- Around code, a template has an embedding directly inside of it. -/
theorem CodeStack.embedding_of_template (code : CodeStack stack) {i : Nat}
    (found : stack[i]? = some .backtick) :
    ∃ j kind, i = j + 1 ∧ stack[j]? = some (.interpolation kind) := by
  -- By induction on the code around: a template only comes with the embedding on top of it.
  induction code generalizing i with
  | outermost => cases found
  | paren _ ih =>
    cases i with
    | zero => cases found
    | succ i =>
      obtain ⟨j, kind, rfl, inside⟩ := ih found
      exact ⟨j + 1, kind, rfl, inside⟩
  | embedding kind _ ih =>
    match i with
    | 0 => cases found
    | 1 => exact ⟨0, kind, rfl, rfl⟩
    | i + 2 =>
      obtain ⟨j, kind, rfl, inside⟩ := ih found
      exact ⟨j + 2, kind, rfl, inside⟩

/-- Around code, an embedding lies directly inside of a template. -/
theorem CodeStack.template_of_embedding (code : CodeStack stack) {i : Nat} {kind : Interpolation}
    (found : stack[i]? = some (.interpolation kind)) : stack[i + 1]? = some .backtick := by
  -- By induction on the code around, of which an embedding only comes with its template.
  induction code generalizing i with
  | outermost => cases found
  | paren _ ih =>
    cases i with
    | zero => cases found
    | succ i => exact ih found
  | embedding other _ ih =>
    match i with
    | 0 => rfl
    | 1 => cases found
    | i + 2 => exact ih found

/-- Where literals and comments are innermost, all contexts stand in their places. -/
theorem Nested.placed (nested : Nested stack) : Placed stack := by
  cases nested with
  | code code =>
    refine ⟨fun i context => code.template_of_hidesCode, fun i found => ?_,
      fun i kind => code.template_of_embedding⟩
    obtain ⟨j, kind, same, inside⟩ := code.embedding_of_template found
    obtain rfl : i = j := Nat.succ.inj same
    exact ⟨kind, inside⟩
  | @hidden stack context hides code =>
    refine ⟨fun i context => code.template_of_hidesCode, fun i found => ?_, fun i kind found => ?_⟩
    · -- A template behind the first context is one around code.
      obtain ⟨j, kind, rfl, inside⟩ := code.embedding_of_template found
      exact ⟨kind, inside⟩
    · cases i with
      | zero =>
        -- What hides code is no embedding.
        obtain rfl := Option.some.inj found
        cases hides
      | succ i => exact code.template_of_embedding found

end

/-- One move of the reading of a call: over a blank, over a lexical unit, or over the comma behind an
argument. -/
inductive CallMove (state : State) : State → Prop
  | blank {c : Char} {tail : List Char} (left : state.rest = c :: tail) (blank : isBlank c = true) :
    CallMove state (state.advance 1)
  | unit {next : State} (step : LexStep state next) : CallMove state next
  | comma {tail : List Char} (left : state.rest = ',' :: tail) : CallMove state (state.advance 1)

/-- The states to which moves from behind a name lead. -/
def InCall (function : Function) (state inside : State) : Prop :=
  Relation.ReflTransGen CallMove (state.advance function.name.length) inside

section

variable {functions : List Function} {state inside : State}

/-- A move keeps literals and comments innermost. -/
theorem CallMove.nested {next : State} (move : CallMove state next) (nested : Nested state.stack) :
    Nested next.stack := by
  cases move with
  | blank | comma => exact nested
  | unit step => exact (lexical_of_stepLexical step).2.nested nested

/-- Within a call literals and comments stay innermost. -/
theorem InCall.nested {function : Function} (within : InCall function state inside)
    (nested : Nested state.stack) : Nested inside.stack := by
  -- The name is moved over in the contexts of the call, and the induction is on the moves behind it.
  induction within with
  | refl => exact nested
  | tail _ move ih => exact move.nested ih

/-- The reading of a call that succeeds comes to the state behind the call. -/
theorem inCall_of_readCall {function : Function} {call : Call}
    (found : functionAt? functions state = some function)
    (read : readCall function state = .ok (inside, call)) : InCall function state inside :=
  ((reads_functionAt found).of_ok read).lexes.lift id fun _ _ => .unit

/-- A scan that ends with its calls ends in a state behind which there is nothing to scan. -/
theorem exists_last_of_scanFrom {calls found : List Call} {skipped : List Malformed}
    (scanned : (scanFrom functions state calls skipped).result = .ok found) :
    ∃ last, Relation.ReflTransGen (ScanStep functions) state last ∧
      step functions last = .ok none := by
  -- What holds at each turn is that it can be come to from the first state.
  obtain ⟨last, ended, turns⟩ := holds_of_scanFrom
    (fun last _ => Relation.ReflTransGen (ScanStep functions) state last)
    (fun turns moved => turns.tail (.moved moved))
    (fun turns failed inside => turns.tail (.gaveUp failed inside))
    (fun turns failed outside => turns.tail (.skipped failed outside)) state calls skipped .refl scanned
  exact ⟨last, turns, ended⟩

end

/-- In every state that a scan comes to, by its turns and within the calls that it tries to read,
contexts stand in their places: string literals and comments are innermost, a template is innermost or
has an embedding directly inside of it, and an embedding lies directly inside of a template. Where a
scan ends with its calls, nothing is open, or a line comment and nothing else. -/
theorem placed_of_scan (functions : List Function) (text : List Char) :
    (∀ state, Relation.ReflTransGen (ScanStep functions) (.start text) state →
      Placed state.stack ∧
      (∀ function, functionAt? functions state = some function →
        (∀ inside, InCall function state inside → Placed inside.stack) ∧
        ∀ behind call, readCall function state = .ok (behind, call) → InCall function state behind) ∧
      (step functions state = .ok none → state.stack = [] ∨ state.stack = [.lineComment])) ∧
    ∀ calls, (scan functions text).result = .ok calls →
      ∃ last, Relation.ReflTransGen (ScanStep functions) (.start text) last ∧
        step functions last = .ok none := by
  refine ⟨fun state turns => ?_, fun calls => exists_last_of_scanFrom⟩
  have nested := (stands_of_scanSteps turns).nested
  refine ⟨nested.placed, fun function found => ⟨fun inside within => (within.nested nested).placed,
    fun behind call => inCall_of_readCall found⟩, fun ended => ?_⟩
  -- The last step is a lexical one, at the end of a text that ends well.
  exact nested.of_finish (finish_of_stepLexical (step_ended ended).2).2

/-- A text in which a template, an embedding, a parenthesis and a string literal are opened. -/
private def opened : List Char := "\x60$\x7bf('".toList

/-- The embedding in its template. -/
private def embeddingOpened : State :=
  ((State.start opened).enter .backtick).enter (.interpolation .template)

/-- In front of the rest of a string literal all four of them are open, each in its place. -/
theorem placed_of_scan_opened :
    ∃ state, Relation.ReflTransGen (ScanStep (Function.ofBases ["__"])) (.start opened) state ∧
      state.stack = [.singleQuote, .paren, .interpolation .template, .backtick] ∧
      Placed state.stack := by
  have turn (state next : State)
      (stepped : step (Function.ofBases ["__"]) state = .ok (some ⟨next, none⟩)) :
      ScanStep (Function.ofBases ["__"]) state next := .moved stepped
  -- Between the embedding and the parenthesis stands the name of a function that is no translation
  -- function.
  have turns : Relation.ReflTransGen (ScanStep (Function.ofBases ["__"])) (.start opened)
      (((embeddingOpened.advance 1).enter .paren).enter .singleQuote) :=
    .head (turn _ ((State.start opened).enter .backtick) (by cbv))
      (.head (turn _ embeddingOpened (by cbv))
        (.head (turn _ (embeddingOpened.advance 1) (by cbv))
          (.head (turn _ ((embeddingOpened.advance 1).enter .paren) (by cbv))
            (.single (turn _ _ (by cbv))))))
  exact ⟨_, turns, rfl, ((placed_of_scan _ _).1 _ turns).1⟩

end MessageCatalog.Source
