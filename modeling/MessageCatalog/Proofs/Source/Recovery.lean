import Mathlib
import MessageCatalog.Proofs.Source.Nesting
import MessageCatalog.Source.Scan

/-! A scan that gives up no embedding misses no call of a text that ends well: giving up a parenthesis
leaves the scan with fewer parentheses than are open, and calls are read the same way there. -/

namespace MessageCatalog.Source

/-- A text that is read to its end by lexical steps. -/
def EndsWell (state : State) : Prop := ∃ last, Lexes state last ∧ stepLexical last = .ok none

/-- Behind a state without a next one there is none. -/
theorem Lexes.eq_of_stuck {state next : State} (lexes : Lexes state next)
    (stuck : ∀ other, ¬ LexStep state other) : next = state := by
  -- A way that is not empty has a first step.
  rcases lexes.cases_head with same | ⟨other, step, -⟩
  · exact same.symm
  · exact absurd step (stuck other)

/-- A text that ends well does so from each of its states on. -/
theorem EndsWell.of_lexes {state next : State} (ends : EndsWell state) (lexes : Lexes state next) :
    EndsWell next := by
  -- Both states lie on the one way to the end, which does not go on behind it.
  obtain ⟨last, toLast, ended⟩ := ends
  rcases lexes.total toLast with ahead | behind
  · exact ⟨last, ahead, ended⟩
  · have stuck (other : State) : ¬ LexStep last other := by
      intro step
      rw [LexStep, ended] at step
      cases step
    obtain rfl := behind.eq_of_stuck stuck
    exact ⟨next, .refl, ended⟩

/-- In a text that ends well no step fails. -/
theorem EndsWell.not_error {state : State} (ends : EndsWell state) (fault : ScanError) :
    stepLexical state ≠ .error fault := by
  intro failed
  obtain ⟨last, lexes, ended⟩ := ends
  have stuck (other : State) : ¬ LexStep state other := by
    intro step
    rw [LexStep, failed] at step
    cases step
  -- No step leads on from here, so the text would have to end well here.
  obtain rfl := lexes.eq_of_stuck stuck
  rw [failed] at ended
  cases ended

/-- A text that ends well can stop a reading only at a malformed construct. -/
theorem EndsWell.malformed_of_stops {state : State} {fault : ScanError} (ends : EndsWell state)
    (stops : Stops state fault) : ∃ construct, fault = .malformed construct := by
  -- The end of the text is reached by lexical steps, and there it is known to end well.
  rcases stops with malformed | ⟨last, lexes, noMore, unfinished⟩
  · exact malformed
  · refine absurd ?_ ((ends.of_lexes lexes).not_error fault)
    rw [stepLexical_ended noMore, unfinished]
    rfl

/-- A lexical step that fails, where the text ends well inside further parentheses, fails at the end
of one of those. -/
theorem closes_of_error {n : Nat} {state : State} {fault : ScanError}
    (ends : EndsWell (state.inParens n)) (failed : stepLexical state = .error fault) :
    state.stack = [] ∧ ∃ tail, state.rest = ')' :: tail := by
  -- Anywhere else the step would fail inside the parentheses too.
  by_contra elsewhere
  have inside : state.stack = [] → state.rest.head? ≠ some ')' := by
    intro outside closes
    exact elsewhere ⟨outside, List.head?_eq_some_iff.1 closes⟩
  rcases agrees_stepLexical n inside with same | ⟨context, line, unclosed⟩
  · rw [failed] at same
    exact ends.not_error fault same
  · exact ends.not_error _ unclosed

/-- What fails at top level, where the text ends well inside further parentheses, is the end of the
innermost of those. -/
theorem lexStep_of_error {n : Nat} {state : State} {fault : ScanError}
    (ends : EndsWell (state.inParens n)) (failed : stepLexical state = .error fault) :
    ∃ m, LexStep (state.inParens n) ((state.advance 1).inParens m) := by
  -- Without further parentheses nothing fails; with some, the innermost one is closed.
  obtain ⟨outside, tail, left⟩ := closes_of_error ends failed
  cases n with
  | zero =>
    rw [inParens_zero] at ends
    exact absurd failed (ends.not_error fault)
  | succ m =>
    obtain ⟨cursor, stack⟩ := state
    obtain rfl : stack = [] := outside
    have closed : LexStep (State.inParens (m + 1) ⟨cursor, []⟩)
        ((State.inParens (m + 1) ⟨cursor, []⟩).leave .paren) :=
      lexStep_closing (by simp [State.inParens, State.top, List.replicate_succ]) left
    exact ⟨m, closed⟩

/-- Code without embeddings stands in parentheses only. -/
theorem CodeStack.eq_replicate {stack : List Context} (code : CodeStack stack)
    (plain : ∀ kind, .interpolation kind ∉ stack) :
    stack = List.replicate stack.length .paren := by
  -- Without embeddings there are only parentheses around code.
  induction code with
  | outermost => rfl
  | paren _ ih =>
    have outer := ih fun kind member => plain kind (.tail _ member)
    rw [List.length_cons, List.replicate_succ, ← outer]
  | embedding kind => exact absurd (.head _) (plain kind)

/-- The names of translation functions are identifiers. -/
def Named (functions : List Function) : Prop :=
  ∀ function ∈ functions, function.name ≠ [] ∧ ∀ c ∈ function.name, isIdentifierChar c = true

/-- A family has the base name and longer names for the kinds of messages. -/
theorem mem_family {base : List Char} {function : Function} (member : function ∈ Function.family base) :
    base ≠ [] ∧ ∃ suffix, function.name = base ++ suffix ∧ ∀ c ∈ suffix, c = 'p' ∨ c = 'n' := by
  unfold Function.family at member
  split at member
  · cases member
  · rename_i nonempty
    refine ⟨by simpa using nonempty, ?_⟩
    -- The family is the base with nothing, one letter or two letters behind it.
    rcases List.mem_cons.1 member with rfl | member
    · exact ⟨[], by simp, nofun⟩
    · simp only [List.mem_cons, List.not_mem_nil, or_false] at member
      rcases member with rfl | rfl | rfl <;> exact ⟨_, rfl, by simp⟩

/-- Dropping repeated names adds no function. -/
theorem dropRepeated_subset (functions : List Function) :
    ∀ function ∈ Function.dropRepeated functions, function ∈ functions := by
  -- Of two neighbours with one name the first stays.
  induction functions using Function.dropRepeated.induct with
  | case1 => simp [Function.dropRepeated]
  | case2 function => simp [Function.dropRepeated]
  | case3 f g rest same ih =>
    rw [Function.dropRepeated, if_pos same]
    intro function member
    rcases List.mem_cons.1 (ih function member) with rfl | inRest
    · exact .head _
    · exact .tail _ (.tail _ inRest)
  | case4 f g rest other ih =>
    rw [Function.dropRepeated, if_neg other]
    intro function member
    rcases List.mem_cons.1 member with rfl | inRest
    · exact .head _
    · exact .tail _ (ih function inRest)

/-- The functions of base names are in their families. -/
theorem mem_family_of_mem_ofBases {bases : List String} {function : Function}
    (member : function ∈ Function.ofBases bases) :
    ∃ base ∈ bases, function ∈ Function.family base.toList := by
  have inFamilies := dropRepeated_subset _ function member
  rwa [List.mem_mergeSort, List.mem_flatMap] at inFamilies

/-- The functions of base names have those as the beginnings of their names. -/
theorem mem_ofBases {bases : List String} {function : Function}
    (member : function ∈ Function.ofBases bases) :
    ∃ base ∈ bases, base.toList ≠ [] ∧
      ∃ suffix, function.name = base.toList ++ suffix ∧ ∀ c ∈ suffix, c = 'p' ∨ c = 'n' := by
  obtain ⟨base, isBase, inFamily⟩ := mem_family_of_mem_ofBases member
  exact ⟨base, isBase, mem_family inFamily⟩

/-- The functions of base names that are identifiers have such names. -/
theorem named_ofBases {bases : List String}
    (identifier : ∀ base ∈ bases, ∀ c ∈ base.toList, isIdentifierChar c = true) :
    Named (Function.ofBases bases) := by
  -- The endings that tell the kinds of messages are letters.
  intro function member
  obtain ⟨base, isBase, nonempty, suffix, spelled, letters⟩ := mem_ofBases member
  rw [spelled]
  refine ⟨by simp [nonempty], ?_⟩
  intro c isChar
  rcases List.mem_append.1 isChar with inBase | inSuffix
  · exact identifier base isBase c inBase
  · rcases letters c inSuffix with rfl | rfl <;> decide

/-- The function whose name stands where a call can begin. -/
def functionAt? (functions : List Function) (state : State) : Option Function :=
  if state.isHidden then none else Function.named? functions state.cursor.before state.rest

/-- A call can be read at a state. -/
def IsCall (functions : List Function) (state : State) : Prop :=
  ∃ function read, functionAt? functions state = some function ∧
    readCall function state = .ok read

/-- A state lies on a call. -/
def Call.Covers (call : Call) (state : State) : Prop :=
  call.start.offset ≤ state.position.offset ∧ state.position.offset < call.stop.offset

@[simp] theorem functionAt?_inParens (functions : List Function) (n : Nat) (state : State) :
    functionAt? functions (state.inParens n) = functionAt? functions state := by
  rw [functionAt?, functionAt?, inParens_isHidden, inParens_cursor, inParens_rest]

/-- Where a call can begin nothing is hidden and a function is named. -/
theorem functionAt?_eq_some {functions : List Function} {state : State} {function : Function}
    (found : functionAt? functions state = some function) :
    state.isHidden = false ∧ function ∈ functions ∧
      ∃ tail, state.rest = function.name ++ tail := by
  -- What was found passes the test with which it was searched.
  unfold functionAt? Function.named? at found
  split at found
  · cases found
  · rename_i visible
    split at found
    · cases found
    · have stands := List.find?_some found
      simp only [Bool.and_eq_true, List.isPrefixOf_iff_prefix] at stands
      obtain ⟨tail, left⟩ := stands.1
      exact ⟨by simpa using visible, List.mem_of_find?_eq_some found, tail, left.symm⟩

/-- A step reads the call of the function that stands at a state, and is lexical elsewhere. -/
theorem step_eq (functions : List Function) (state : State) :
    step functions state = match functionAt? functions state with
      | some function => (readCall function state).map fun (next, call) => some ⟨next, some call⟩
      | none => (stepLexical state).map fun next => next.map fun next => ⟨next, none⟩ := rfl

/-- What a step of a scan can move over. -/
theorem step_moved {functions : List Function} {state : State} {next : Step}
    (moved : step functions state = .ok (some next)) :
    (∃ function call, functionAt? functions state = some function ∧
      readCall function state = .ok (next.state, call) ∧ next.call = some call) ∨
    (functionAt? functions state = none ∧ LexStep state next.state ∧ next.call = none) := by
  rw [step_eq] at moved
  -- The cases are those of `step`: a call, or else a lexical step.
  cases found : functionAt? functions state with
  | some function =>
    rw [found] at moved
    rcases read : readCall function state with fault | ⟨behind, call⟩
    · simp [read, Except.map] at moved
    · obtain rfl : ⟨behind, some call⟩ = next := by simpa [read, Except.map] using moved
      exact .inl ⟨function, call, rfl, read, rfl⟩
  | none =>
    rw [found] at moved
    rcases lexical : stepLexical state with fault | - | behind
    · simp [lexical, Except.map] at moved
    · simp [lexical, Except.map] at moved
    · obtain rfl : ⟨behind, none⟩ = next := by simpa [lexical, Except.map] using moved
      exact .inr ⟨rfl, lexical, rfl⟩

/-- What a step of a scan can fail at. -/
theorem step_failed {functions : List Function} {state : State} {fault : ScanError}
    (failed : step functions state = .error fault) :
    (∃ function, functionAt? functions state = some function ∧
      readCall function state = .error fault) ∨
    (functionAt? functions state = none ∧ stepLexical state = .error fault) := by
  rw [step_eq] at failed
  -- The cases are those of `step`: a call, or else a lexical step.
  cases found : functionAt? functions state with
  | some function =>
    rw [found] at failed
    cases read : readCall function state with
    | ok read => simp [read, Except.map] at failed
    | error other => exact .inl ⟨function, rfl, by simpa [read, Except.map] using failed⟩
  | none =>
    rw [found] at failed
    cases lexical : stepLexical state with
    | ok next => simp [lexical, Except.map] at failed
    | error other => exact .inr ⟨rfl, by simpa [lexical, Except.map] using failed⟩

/-- A step of a scan ends it where the text ends. -/
theorem step_ended {functions : List Function} {state : State}
    (ended : step functions state = .ok none) :
    functionAt? functions state = none ∧ stepLexical state = .ok none := by
  rw [step_eq] at ended
  -- A call that is read is a step, so no function is named where the scan ends.
  cases found : functionAt? functions state with
  | some function =>
    rw [found] at ended
    cases read : readCall function state <;> simp [read, Except.map] at ended
  | none =>
    rw [found] at ended
    rcases lexical : stepLexical state with fault | - | next
    · simp [lexical, Except.map] at ended
    · exact ⟨rfl, rfl⟩
    · simp [lexical, Except.map] at ended

/-- Where no function is named there is no call, also inside further parentheses. -/
theorem not_isCall {functions : List Function} {state : State}
    (none : functionAt? functions state = none) (n : Nat) :
    ¬ IsCall functions (state.inParens n) := by
  rintro ⟨function, read, stands, -⟩
  rw [functionAt?_inParens, none] at stands
  cases stands

/-- Behind a call that was read, literals and comments are innermost. -/
theorem CallSpan.nested {state : State} {read : State × Call} (span : CallSpan state read)
    (code : CodeStack state.stack) : Nested read.1.stack :=
  span.restored.nested code

/-- Less text is left behind a call than before it. -/
theorem CallSpan.shorter {state : State} {read : State × Call} (span : CallSpan state read) :
    read.1.rest.length < state.rest.length := by
  -- A call that goes forward takes at least one step.
  rcases span.lexes.cases_head with same | ⟨next, step, further⟩
  · have forward := span.forward
    rw [← same] at forward
    exact absurd forward (Nat.lt_irrefl _)
  · exact Nat.lt_of_le_of_lt (Lexes.length_le further) (stepLexical_shorter step)

/-- States between the ends of a call lie on it, and the others are further on. -/
theorem CallSpan.covers {state target : State} {read : State × Call} (span : CallSpan state read)
    (ahead : Lexes state target) : Lexes read.1 target ∨ read.2.Covers target := by
  -- All states lie on one way, so a state is behind the call or between its ends.
  rcases span.lexes.total ahead with behind | before
  · exact .inl behind
  · rcases before.cases_head with same | ⟨next, step, further⟩
    · exact .inl (same ▸ .refl)
    · refine .inr ⟨?_, ?_⟩
      · rw [span.start]
        exact ahead.offset_le
      · rw [span.stop]
        exact Nat.lt_of_lt_of_le step.offset_lt (Lexes.offset_le further)

/-- A call that is read where the text ends well inside further parentheses is read there too. -/
theorem readCall_of_ok {functions : List Function} (named : Named functions) {n : Nat}
    {state next : State} {call : Call} {function : Function}
    (ends : EndsWell (state.inParens n)) (found : functionAt? functions state = some function)
    (read : readCall function state = .ok (next, call)) :
    CallSpan state (next, call) ∧ CallSpan (state.inParens n) (next.inParens n, call) := by
  -- Inside, the reading could only stop at the end of the text, which ends well there.
  obtain ⟨visible, member, tail, left⟩ := functionAt?_eq_some found
  obtain ⟨nonempty, identifier⟩ := named function member
  have visible' : (state.inParens n).isHidden = false := by rw [inParens_isHidden, visible]
  have inner := reads_readCall visible' nonempty identifier left
  refine ⟨(reads_readCall visible nonempty identifier left).of_ok read, ?_⟩
  rcases agrees_readCall n visible with same | ⟨context, line, unclosed⟩
  · rw [read] at same
    exact inner.of_ok same
  · rw [unclosed] at inner
    obtain ⟨construct, malformed⟩ := ends.malformed_of_stops inner
    cases malformed

/-- A call that cannot be read where the text ends well inside further parentheses cannot be read
there either, and is malformed. -/
theorem readCall_of_error {functions : List Function} (named : Named functions) {n : Nat}
    {state : State} {function : Function} {fault : ScanError}
    (ends : EndsWell (state.inParens n)) (found : functionAt? functions state = some function)
    (failed : readCall function state = .error fault) :
    (∃ construct, fault = .malformed construct) ∧ ¬ IsCall functions (state.inParens n) := by
  -- The fault is the same inside, where it can only be a malformed construct.
  obtain ⟨visible, member, tail, left⟩ := functionAt?_eq_some found
  obtain ⟨nonempty, identifier⟩ := named function member
  have visible' : (state.inParens n).isHidden = false := by rw [inParens_isHidden, visible]
  have inner := reads_readCall visible' nonempty identifier left
  have same : readCall function (state.inParens n) = .error fault := by
    rcases agrees_readCall n visible with same | ⟨context, line, unclosed⟩
    · rw [same, failed]
      rfl
    · rw [unclosed] at inner
      obtain ⟨construct, malformed⟩ := ends.malformed_of_stops inner
      cases malformed
  rw [same] at inner
  refine ⟨ends.malformed_of_stops inner, ?_⟩
  rintro ⟨other, read, stands, ok⟩
  rw [functionAt?_inParens, found] at stands
  obtain rfl := Option.some.inj stands
  rw [same] at ok
  cases ok

/-- What stops a step of a scan, where the text ends well inside further parentheses, is malformed code
at a point that is no call there. -/
theorem step_of_error {functions : List Function} (named : Named functions) {n : Nat} {state : State}
    {fault : ScanError} (ends : EndsWell (state.inParens n))
    (failed : step functions state = .error fault) :
    (∃ construct, fault = .malformed construct) ∧ ¬ IsCall functions (state.inParens n) ∧
      state.isHidden = false ∧ ∃ m, state.stack = [] →
        LexStep (state.inParens n) ((state.advance 1).inParens m) := by
  -- Either a call cannot be read, or a parenthesis is closed that was given up before.
  rcases step_failed failed with ⟨function, found, read⟩ | ⟨none, lexical⟩
  · obtain ⟨malformed, noCall⟩ := readCall_of_error named ends found read
    obtain ⟨visible, member, tail, left⟩ := functionAt?_eq_some found
    obtain ⟨nonempty, identifier⟩ := named function member
    refine ⟨malformed, noCall, visible, n, fun _ => ?_⟩
    -- The first character of the name opens and closes nothing.
    obtain ⟨c, name, spelled⟩ := List.exists_cons_of_ne_nil nonempty
    have first : isIdentifierChar c = true := identifier c (by simp [spelled])
    have left' : (state.inParens n).rest = c :: (name ++ tail) := by
      rw [inParens_rest, left, spelled, List.cons_append]
    have visible' : (state.inParens n).isHidden = false := by rw [inParens_isHidden, visible]
    exact lexStep_plain visible' left' (isMarker_of_isIdentifierChar first)
  · obtain ⟨outside, tail, left⟩ := closes_of_error ends lexical
    obtain ⟨m, step⟩ := lexStep_of_error ends lexical
    rw [stepLexical_unopened outside left] at lexical
    have visible : state.isHidden = false := by simp [State.isHidden, State.top, outside]
    exact ⟨⟨_, (Except.error.inj lexical).symm⟩, not_isCall none n, visible, m, fun _ => step⟩

/-- Where a scan ends there is no call further on, also inside further parentheses. -/
theorem step_of_ended {functions : List Function} {n : Nat} {state target : State}
    (ended : step functions state = .ok none) (ahead : Lexes (state.inParens n) target) :
    ¬ IsCall functions target := by
  -- At the end of the text there is only one state to come to.
  obtain ⟨none, last⟩ := step_ended ended
  have stuck (other : State) : ¬ LexStep (state.inParens n) other := fun step =>
    (lexical_of_stepLexical step).1 (finish_of_stepLexical last).1
  rw [ahead.eq_of_stuck stuck]
  exact not_isCall none n

/-- A step of a scan goes forward, and passes no call without reading one that covers it, also inside
further parentheses. -/
theorem step_of_moved {functions : List Function} (named : Named functions) {n : Nat} {state : State}
    {next : Step} (nested : Nested state.stack) (ends : EndsWell (state.inParens n))
    (moved : step functions state = .ok (some next)) :
    Nested next.state.stack ∧ next.state.rest.length < state.rest.length ∧
      Lexes (state.inParens n) (next.state.inParens n) ∧
      ∀ target, Lexes (state.inParens n) target → IsCall functions target →
        Lexes (next.state.inParens n) target ∨ ∃ call ∈ next.call, call.Covers target := by
  -- A call covers the states between its ends, and a lexical step has none between its own.
  rcases step_moved moved with ⟨function, call, found, read, result⟩ | ⟨none, lexical, -⟩
  · obtain ⟨span, inner⟩ := readCall_of_ok named ends found read
    have visible := (functionAt?_eq_some found).1
    refine ⟨span.nested (nested.codeStack visible), span.shorter, inner.lexes, ?_⟩
    intro target ahead _
    exact (inner.covers ahead).imp_right fun covers => ⟨call, result, covers⟩
  · have step : LexStep (state.inParens n) (next.state.inParens n) := lexical.inParens n
    refine ⟨(lexical_of_stepLexical lexical).2.nested nested, stepLexical_shorter lexical,
      .single step, ?_⟩
    intro target ahead isCall
    rcases ahead.cases_head with rfl | ⟨other, first, further⟩
    · exact absurd isCall (not_isCall none n)
    · obtain rfl := LexStep.unique step first
      exact .inl further

/-- One turn of a scan: over a call or a lexical unit, out of the innermost context of malformed code, or
over one character of it at top level. -/
inductive ScanStep (functions : List Function) : State → State → Prop
  | moved {state : State} {next : Step} (stepped : step functions state = .ok (some next)) :
    ScanStep functions state next.state
  | gaveUp {state : State} {construct : Malformed} {context : Context} {stack : List Context}
      (failed : step functions state = .error (.malformed construct))
      (inside : state.stack = context :: stack) : ScanStep functions state ⟨state.cursor, stack⟩
  | skipped {state : State} {construct : Malformed}
      (failed : step functions state = .error (.malformed construct))
      (outside : state.stack = []) : ScanStep functions state (state.advance 1)

/-- A scan from a state on meets no malformed code inside an embedding. -/
def SparesEmbeddings (functions : List Function) (state : State) : Prop :=
  ∀ reached construct, Relation.ReflTransGen (ScanStep functions) state reached →
    step functions reached = .error (.malformed construct) →
      ∀ kind, .interpolation kind ∉ reached.stack

/-- Where there is nothing to scan, a scan ends with the calls that it has found. -/
theorem scanFrom_ended {functions : List Function} {state : State}
    (ended : step functions state = .ok none) (calls : List Call) (skipped : List Malformed) :
    scanFrom functions state calls skipped = ⟨.ok calls.reverse, skipped.reverse⟩ := by
  rw [scanFrom, ended]

/-- Behind a step, a scan goes on with the call that the step has found. -/
theorem scanFrom_moved {functions : List Function} {state : State} {next : Step}
    (moved : step functions state = .ok (some next))
    (shorter : next.state.rest.length < state.rest.length) (calls : List Call)
    (skipped : List Malformed) :
    scanFrom functions state calls skipped =
      scanFrom functions next.state (next.call.toList ++ calls) skipped := by
  rw [scanFrom, moved]
  exact if_pos shorter

/-- A step that does not go forward ends a scan without calls. -/
theorem scanFrom_stalled {functions : List Function} {state : State} {next : Step}
    (moved : step functions state = .ok (some next))
    (stalled : ¬ next.state.rest.length < state.rest.length) (calls : List Call)
    (skipped : List Malformed) :
    scanFrom functions state calls skipped = ⟨.error (.stalled state.position), skipped.reverse⟩ := by
  rw [scanFrom, moved]
  exact if_neg stalled

/-- A failure that is no malformed code ends a scan. -/
theorem scanFrom_failed {functions : List Function} {state : State} {fault : ScanError}
    (failed : step functions state = .error fault)
    (fatal : ∀ construct, fault = .malformed construct → False) (calls : List Call)
    (skipped : List Malformed) :
    scanFrom functions state calls skipped = ⟨.error fault, skipped.reverse⟩ := by
  rw [scanFrom, failed]
  cases fault with
  | malformed construct => exact absurd rfl (fatal construct)
  | unclosed | stalled => rfl

/-- Malformed code inside a context makes a scan go on outside of that. -/
theorem scanFrom_gaveUp {functions : List Function} {state : State} {construct : Malformed}
    {context : Context} {stack : List Context}
    (failed : step functions state = .error (.malformed construct))
    (inside : state.stack = context :: stack) (calls : List Call) (skipped : List Malformed) :
    scanFrom functions state calls skipped =
      scanFrom functions ⟨state.cursor, stack⟩ calls (construct :: skipped) := by
  rw [scanFrom, failed]
  dsimp only
  split <;> simp_all

/-- Malformed code at top level makes a scan go on behind its first character. -/
theorem scanFrom_skipped {functions : List Function} {state : State} {construct : Malformed}
    (failed : step functions state = .error (.malformed construct)) (outside : state.stack = [])
    (more : state.rest ≠ []) (calls : List Call) (skipped : List Malformed) :
    scanFrom functions state calls skipped =
      scanFrom functions (state.advance 1) calls (construct :: skipped) := by
  rw [scanFrom, failed]
  dsimp only
  split <;> simp_all

/-- Malformed code with nothing behind it ends a scan at top level. -/
theorem scanFrom_left {functions : List Function} {state : State} {construct : Malformed}
    (failed : step functions state = .error (.malformed construct)) (outside : state.stack = [])
    (ended : state.rest = []) (calls : List Call) (skipped : List Malformed) :
    scanFrom functions state calls skipped = ⟨.error (.stalled state.position), skipped.reverse⟩ := by
  rw [scanFrom, failed]
  dsimp only
  split <;> simp_all

/-- What every turn of a scan keeps holds at its end, of the calls that it has found. -/
theorem holds_of_scanFrom {functions : List Function} (holds : State → List Call → Prop)
    (moves : ∀ {state calls next}, holds state calls → step functions state = .ok (some next) →
      holds next.state (next.call.toList ++ calls))
    (givesUp : ∀ {state calls construct context stack}, holds state calls →
      step functions state = .error (.malformed construct) → state.stack = context :: stack →
      holds ⟨state.cursor, stack⟩ calls)
    (skips : ∀ {state calls construct}, holds state calls →
      step functions state = .error (.malformed construct) → state.stack = [] →
      holds (state.advance 1) calls)
    (state : State) (calls : List Call) (skipped : List Malformed) (start : holds state calls)
    {found : List Call} (scanned : (scanFrom functions state calls skipped).result = .ok found) :
    ∃ last, step functions last = .ok none ∧ holds last found.reverse := by
  -- The cases are the turns of a scan; it has a result only where there is nothing to scan.
  induction state, calls, skipped using scanFrom.induct functions with
  | case1 state calls skipped ended =>
    rw [scanFrom_ended ended] at scanned
    cases scanned
    exact ⟨state, ended, calls.reverse_reverse.symm ▸ start⟩
  | case2 state calls skipped next moved shorter ih =>
    rw [scanFrom_moved moved shorter] at scanned
    exact ih (moves start moved) scanned
  | case3 state calls skipped next moved stalled =>
    rw [scanFrom_stalled moved stalled] at scanned
    cases scanned
  | case4 state calls skipped construct failed context stack inside ih =>
    rw [scanFrom_gaveUp failed inside] at scanned
    exact ih (givesUp start failed inside) scanned
  | case5 state calls skipped construct failed c tail outside left ih =>
    rw [scanFrom_skipped failed outside (by simp [left])] at scanned
    exact ih (skips start failed outside) scanned
  | case6 state calls skipped construct failed outside ended =>
    rw [scanFrom_left failed outside ended] at scanned
    cases scanned
  | case7 state calls skipped fault fatal failed =>
    rw [scanFrom_failed failed fatal] at scanned
    cases scanned

/-- A state without its innermost parenthesis, inside one more further out, is the same state, when
there are parentheses only. -/
theorem inParens_gaveUp {state : State} {context : Context} {stack : List Context}
    (code : CodeStack state.stack) (plain : ∀ kind, .interpolation kind ∉ state.stack)
    (inside : state.stack = context :: stack) (n : Nat) :
    CodeStack stack ∧ State.inParens (n + 1) ⟨state.cursor, stack⟩ = state.inParens n := by
  -- As there are parentheses only, it does not matter which of them is counted outside.
  rw [inside] at code plain
  have parens := code.eq_replicate plain
  rw [List.length_cons, List.replicate_succ, List.cons.injEq] at parens
  obtain ⟨rfl, parens⟩ := parens
  refine ⟨?_, ?_⟩
  · cases code with
    | paren outer => exact outer
  · rw [State.inParens, State.inParens, inside, parens, List.replicate_append_replicate,
      ← List.replicate_succ, List.replicate_append_replicate, Nat.succ_add]
    rfl

/-- What a scan spares, it spares from each turn on. -/
theorem SparesEmbeddings.of_step {functions : List Function} {state next : State}
    (spares : SparesEmbeddings functions state) (turn : ScanStep functions state next) :
    SparesEmbeddings functions next :=
  fun reached construct further => spares reached construct (.head turn further)

/-- A scan from a state on has a result, which holds the calls so far and covers all further ones. -/
def ScansAll (functions : List Function) (n : Nat) (state : State) (calls : List Call)
    (scan : Scan) : Prop :=
  ∃ found, scan.result = .ok found ∧ (∀ call ∈ calls, call ∈ found) ∧
    ∀ target, Lexes (state.inParens n) target → IsCall functions target →
      ∃ call ∈ found, call.Covers target

/-- Where the text ends well inside further parentheses, a scan misses no call that is read there. -/
theorem scansAll_scanFrom {functions : List Function} (named : Named functions) (state : State)
    (calls : List Call) (skipped : List Malformed) {n : Nat} (nested : Nested state.stack)
    (ends : EndsWell (state.inParens n)) (spares : SparesEmbeddings functions state) :
    ScansAll functions n state calls (scanFrom functions state calls skipped) := by
  -- A turn keeps that the text ends well in its contexts, and no call is passed by on it.
  induction state, calls, skipped using scanFrom.induct functions generalizing n with
  | case1 state calls skipped ended =>
    rw [scanFrom_ended ended]
    exact ⟨_, rfl, by simp, fun target ahead isCall => absurd isCall (step_of_ended ended ahead)⟩
  | case2 state calls skipped next moved shorter ih =>
    obtain ⟨nested', -, lexes, covers⟩ := step_of_moved named nested ends moved
    obtain ⟨found, result, kept, further⟩ :=
      ih nested' (ends.of_lexes lexes) (spares.of_step (.moved moved))
    rw [scanFrom_moved moved shorter]
    refine ⟨found, result, fun call member => kept call (List.mem_append_right _ member), ?_⟩
    intro target ahead isCall
    rcases covers target ahead isCall with behind | ⟨call, read, covered⟩
    · exact further target behind isCall
    · exact ⟨call, kept call (List.mem_append_left _ (by simpa using read)), covered⟩
  | case3 state calls skipped next moved stalled =>
    exact absurd (step_of_moved named nested ends moved).2.1 stalled
  | case4 state calls skipped construct failed context stack inside ih =>
    -- The parenthesis that is given up is one of those that are only open outside of the scan now.
    obtain ⟨-, -, visible, -⟩ := step_of_error named ends failed
    obtain ⟨outer, same⟩ := inParens_gaveUp (nested.codeStack visible)
      (spares state construct .refl failed) inside n
    rw [scanFrom_gaveUp failed inside, ScansAll, ← same]
    exact ih (.code outer) (same ▸ ends) (spares.of_step (.gaveUp failed inside))
  | case5 state calls skipped construct failed c tail outside left ih =>
    -- One character is skipped: the end of a parenthesis that was given up, or a part of a name.
    obtain ⟨-, noCall, -, m, skips⟩ := step_of_error named ends failed
    have step := skips outside
    have kept : Nested (state.advance 1).stack := nested
    obtain ⟨found, result, kept, further⟩ :=
      ih kept (ends.of_lexes (.single step)) (spares.of_step (.skipped failed outside))
    rw [scanFrom_skipped failed outside (by simp [left])]
    -- The character that is skipped is none at which a call begins.
    refine ⟨found, result, kept, ?_⟩
    intro target ahead isCall
    rcases ahead.cases_head with rfl | ⟨other, first, behind⟩
    · exact absurd isCall noCall
    · obtain rfl := LexStep.unique step first
      exact further target behind isCall
  -- A step was possible, so the text had not ended.
  | case6 state calls skipped construct failed outside ended =>
    obtain ⟨-, -, -, m, skips⟩ := step_of_error named ends failed
    exact absurd ended (lexical_of_stepLexical (skips outside)).1
  | case7 state calls skipped fault fatal failed =>
    obtain ⟨⟨construct, malformed⟩, -⟩ := step_of_error named ends failed
    exact absurd malformed (fatal construct)

/-- No template is open and none begins further on. -/
def NoTemplate (state : State) : Prop :=
  '\x60' ∉ state.rest ∧ .backtick ∉ state.stack ∧ ∀ kind, .interpolation kind ∉ state.stack

/-- Where no template is left, a step opens none. -/
theorem Lexical.noTemplate {state next : State} (lexical : Lexical state next)
    (without : NoTemplate state) : NoTemplate next := by
  -- A template is opened by its mark, and an embedding lies in a template.
  obtain ⟨noMark, noTemplate, noEmbedding⟩ := without
  have dropped : '\x60' ∉ next.rest := by
    obtain ⟨n, -, moved⟩ := lexical.cursor_eq
    rw [State.rest, moved, Cursor.advance_rest]
    exact fun member => noMark (List.mem_of_mem_drop member)
  cases lexical with
  | move n => exact ⟨dropped, noTemplate, noEmbedding⟩
  | embed kind template => exact absurd (List.mem_of_mem_head? template) noTemplate
  | enter context _ plain stands =>
    refine ⟨dropped, ?_, fun kind member => ?_⟩
    · rintro (- | ⟨-, member⟩)
      · exact noMark (stands.subset (by decide))
      · exact noTemplate member
    · rcases List.mem_cons.1 member with same | member
      · exact plain kind same.symm
      · exact noEmbedding kind member
  | leave context =>
    exact ⟨dropped, fun member => noTemplate (List.mem_of_mem_tail member),
      fun kind member => noEmbedding kind (List.mem_of_mem_tail member)⟩

/-- Where no template is left, steps open none. -/
theorem Lexes.noTemplate {state next : State} (lexes : Lexes state next)
    (without : NoTemplate state) : NoTemplate next := by
  induction lexes with
  | refl => exact without
  | tail _ step ih => exact (lexical_of_stepLexical step).2.noTemplate ih

/-- Where no template is left, a turn of a scan opens none. -/
theorem ScanStep.noTemplate {functions : List Function} (named : Named functions)
    {state next : State} (turn : ScanStep functions state next) (nested : Nested state.stack)
    (without : NoTemplate state) : Nested next.stack ∧ NoTemplate next := by
  -- A call is read by lexical steps, and giving up closes contexts only.
  cases turn with
  | moved stepped =>
    rcases step_moved stepped with ⟨function, call, found, read, -⟩ | ⟨-, step, -⟩
    · obtain ⟨visible, member, tail, left⟩ := functionAt?_eq_some found
      obtain ⟨nonempty, identifier⟩ := named function member
      have span := (reads_readCall visible nonempty identifier left).of_ok read
      exact ⟨span.nested (nested.codeStack visible), span.lexes.noTemplate without⟩
    · have lexical := (lexical_of_stepLexical step).2
      exact ⟨lexical.nested nested, lexical.noTemplate without⟩
  | gaveUp failed inside =>
    obtain ⟨noMark, noTemplate, noEmbedding⟩ := without
    rw [inside] at nested noTemplate noEmbedding
    exact ⟨nested.tail, noMark, fun member => noTemplate (.tail _ member),
      fun kind member => noEmbedding kind (.tail _ member)⟩
  | skipped failed outside =>
    have moved : Lexical state (state.advance 1) :=
      .move 1 (by decide) fun inLine => by simp [State.top, outside] at inLine
    exact ⟨nested, moved.noTemplate without⟩

/-- A scan of a text without templates spares embeddings, as there are none. -/
theorem sparesEmbeddings_of_noTemplate {functions : List Function} (named : Named functions)
    {text : List Char} (without : '\x60' ∉ text) :
    SparesEmbeddings functions (.start text) := by
  intro reached construct turns failed
  have along : Nested reached.stack ∧ NoTemplate reached := by
    clear failed
    -- By induction on the turns: no template is open, and none can be opened.
    induction turns with
    | refl => exact ⟨.code .outermost, without, nofun, nofun⟩
    | tail _ turn ih => exact ScanStep.noTemplate named turn ih.1 ih.2
  exact along.2.2.2

/-- A text that ends well by lexical steps is scanned to its end, and each point of it at which a call
can be read lies on a call that is found, when no malformed code is met inside an embedding. -/
theorem scan_covers {functions : List Function} {text : List Char} (named : Named functions)
    (ends : EndsWell (.start text)) (spares : SparesEmbeddings functions (.start text)) :
    ∃ calls, (scan functions text).result = .ok calls ∧
      ∀ state, Lexes (.start text) state → IsCall functions state →
        ∃ call ∈ calls, call.Covers state := by
  have plain := inParens_zero (.start text)
  obtain ⟨calls, result, -, covered⟩ := scansAll_scanFrom named (.start text) [] []
    (.code .outermost) (plain.symm ▸ ends) spares
  rw [plain] at covered
  exact ⟨calls, result, covered⟩

/-- The functions of the base name with two underscores. -/
private def underscored : List Function := Function.ofBases ["__"]

/-- Their names are identifiers. -/
private theorem named_underscored : Named underscored :=
  named_ofBases (by simp [isIdentifierChar])

/-- A text in which malformed calls stand before a sound one. -/
private def malformedFirst : List Char := "f(__(fish)) g(__('x'))".toList

/-- The sound call behind malformed ones is found. -/
theorem scan_covers_behind_malformed :
    ∃ calls, (scan underscored malformedFirst).result = .ok calls ∧
      ∃ call ∈ calls, call.start.offset ≤ 14 ∧ 14 < call.stop.offset := by
  have ends : EndsWell (.start malformedFirst) := by
    have walked : stepUntil (fun _ => false) (.start malformedFirst) =
        .ok (.ended ⟨⟨some ')', [], ⟨22, 0⟩⟩, []⟩) := by cbv
    exact ⟨_, (reads_stepUntil _ _).of_ok walked⟩
  have spares : SparesEmbeddings underscored (.start malformedFirst) :=
    sparesEmbeddings_of_noTemplate named_underscored (by decide)
  obtain ⟨calls, result, covered⟩ := scan_covers named_underscored ends spares
  -- The name of the sound call begins behind fourteen bytes.
  let sound : State := ⟨⟨some '(', "__('x'))".toList, ⟨14, 0⟩⟩, [.paren]⟩
  have walked : stepUntil (fun state => state.position.offset == 14) (.start malformedFirst) =
      .ok (.reached sound) := by cbv
  have lexes : Lexes (.start malformedFirst) sound := (reads_stepUntil _ _).of_ok walked
  have isCall : IsCall underscored sound := ⟨⟨['_', '_'], false, false⟩, _, by cbv, by cbv⟩
  exact ⟨calls, result, covered sound lexes isCall⟩

/-- A text in which a malformed call stands before a sound one inside an embedding. -/
private def malformedEmbedded : List Char := "\x60$\x7b__(fish) + __('ok')\x7d\x60".toList

/-- Inside an embedding a malformed call can cost the calls behind it: the embedding is given up, and
they count as text of the template. -/
theorem not_scan_covers :
    ¬ ∀ (functions : List Function) (text : List Char), Named functions →
      EndsWell (.start text) → ∃ calls, (scan functions text).result = .ok calls ∧
        ∀ state, Lexes (.start text) state → IsCall functions state →
          ∃ call ∈ calls, call.Covers state := by
  intro claimed
  have ends : EndsWell (.start malformedEmbedded) := by
    have walked : stepUntil (fun _ => false) (.start malformedEmbedded) =
        .ok (.ended ⟨⟨some '\x60', [], ⟨24, 0⟩⟩, []⟩) := by cbv
    exact ⟨_, (reads_stepUntil _ _).of_ok walked⟩
  obtain ⟨calls, result, covered⟩ := claimed underscored malformedEmbedded named_underscored ends
  -- The scan finds no call, although one stands behind the malformed one.
  have none : (scan underscored malformedEmbedded).result = .ok [] := by cbv
  obtain rfl : [] = calls := Except.ok.inj (none.symm.trans result)
  let sound : State :=
    ⟨⟨some ' ', "__('ok')\x7d\x60".toList, ⟨14, 0⟩⟩, [.interpolation .template, .backtick]⟩
  have walked : stepUntil (fun state => state.position.offset == 14) (.start malformedEmbedded) =
      .ok (.reached sound) := by cbv
  have lexes : Lexes (.start malformedEmbedded) sound := (reads_stepUntil _ _).of_ok walked
  have isCall : IsCall underscored sound := ⟨⟨['_', '_'], false, false⟩, _, by cbv, by cbv⟩
  obtain ⟨call, member, -⟩ := covered sound lexes isCall
  cases member

end MessageCatalog.Source
