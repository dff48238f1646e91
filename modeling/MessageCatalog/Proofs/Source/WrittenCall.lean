import MessageCatalog.Proofs.Source.Function
import MessageCatalog.Proofs.Source.Literal

/-! A scan of a call that was written for some texts finds the call and the texts. -/

namespace MessageCatalog.Source

/-- Arguments with commas between them, and the end of their list. -/
def writeList (literals : List Literal) : List Char :=
  [',', ' '].intercalate (literals.map Literal.written) ++ [')']

/-- Literals for the arguments that a function takes. -/
structure Arguments (function : Function) where
  context : Option Literal
  text : Literal
  plural : Option Literal
  contextual : context.isSome = function.contextual
  pluralized : plural.isSome = function.plural

namespace Arguments

variable {function : Function} (arguments : Arguments function)

/-- The literals in the order in which they are written. -/
def literals : List Literal :=
  arguments.context.toList ++ arguments.text :: arguments.plural.toList

/-- The call as it is written. -/
def call : List Char :=
  function.name ++ '(' :: writeList arguments.literals

/-- The message that the call asks for. -/
def message : Message where
  context := arguments.context.map Literal.text
  text := arguments.text.text
  plural := arguments.plural.map Literal.text

end Arguments

/-- What is written behind an argument: the other arguments, and the end of the list. -/
def listRest : List Literal → List Char
  | [] => [')']
  | literal :: others => ',' :: ' ' :: (literal.written ++ listRest others)

/-- An argument list is its first argument and what is written behind that. -/
theorem writeList_cons (literal : Literal) (others : List Literal) :
    writeList (literal :: others) = literal.written ++ listRest others := by
  induction others generalizing literal with
  | nil => simp [writeList, listRest]
  | cons second others ih =>
    rw [writeList, List.map_cons, List.map_cons, List.intercalate_cons_cons, List.append_assoc,
      List.append_assoc, ← List.map_cons, ← writeList, ih]
    rfl

/-- A state of a text before some more arguments, behind blanks, or before the end of the list. -/
def Expects (text : List Char) (base : List Context) : List Literal → State → Prop
  | [], state => ∃ front, text = front ++ [')'] ∧ state = .between front [')'] base
  | literal :: others, state => ∃ front blanks, (∀ c ∈ blanks, isBlank c = true) ∧
      text = front ++ (blanks ++ (literal.written ++ listRest others)) ∧
      state = .between front (blanks ++ (literal.written ++ listRest others)) base

section

variable {text : List Char} {base : List Context} {literal : Literal} {others : List Literal}
  {state : State}

/-- The next argument is read, and the others are left. -/
theorem readLiteral_expected (visible : Visible base) (argument : Argument)
    (expects : Expects text base (literal :: others) state) :
    ∃ next, readLiteral argument true state = .ok (literal.text, next) ∧
      Expects text base others next := by
  obtain ⟨front, blanks, blank, rfl, rfl⟩ := expects
  rw [readLiteral_written front _ visible argument true literal blank]
  -- Behind the literal there is a comma, which is moved over, or the end of the list.
  cases others with
  | nil =>
    refine ⟨.between (front ++ blanks ++ literal.written) [')'] base, ?_, _, ?_, rfl⟩
    · have stays : skipTrivia (.between (front ++ blanks ++ literal.written) [')'] base) = .ok _ :=
        skipTrivia_other rfl (by decide) (by simp [Context.ofComment?])
      rw [listRest, stays]
      rfl
    · simp [listRest]
  -- The argument that comes next stands behind the comma and one blank.
  | cons second others =>
    refine ⟨.between (front ++ blanks ++ literal.written ++ [','])
      ([' '] ++ (second.written ++ listRest others)) base, ?_, _, [' '],
      List.forall_mem_singleton.2 (by decide), ?_, rfl⟩
    · have stays : skipTrivia (.between (front ++ blanks ++ literal.written)
          (',' :: ' ' :: (second.written ++ listRest others)) base) = .ok _ :=
        skipTrivia_other rfl (by decide) (by simp [Context.ofComment?])
      have moved := between_advance (front ++ blanks ++ literal.written) [',']
        (' ' :: (second.written ++ listRest others)) base
      rw [listRest, stays]
      exact congrArg (fun next => Except.ok (literal.text, next)) moved
    · simp [listRest]

/-- An argument that only some functions have is read where there is one. -/
theorem readOptional_expected (visible : Visible base) (argument : Argument)
    (optional : Option Literal) (expects : Expects text base (optional.toList ++ others) state) :
    ∃ next, readOptional optional.isSome argument true state =
        .ok (optional.map Literal.text, next) ∧
      Expects text base others next := by
  cases optional with
  | none => exact ⟨state, rfl, expects⟩
  | some literal =>
    obtain ⟨next, read, expects⟩ := readLiteral_expected visible argument expects
    refine ⟨next, ?_, expects⟩
    rw [Option.isSome_some, readOptional, if_pos rfl, read]
    rfl

/-- Behind the last argument the list is left, and the text ends. -/
theorem skipArguments_expected (expects : Expects text [.paren] [] state) :
    skipArguments 0 state = .ok (.between text [] []) := by
  obtain ⟨front, rfl, rfl⟩ := expects
  have left : (State.between front [')'] [.paren]).leave .paren = .between (front ++ [')']) [] [] :=
    between_leave front [] [] .paren
  have step : LexStep (.between front [')'] [.paren]) _ := lexStep_closing rfl rfl
  rw [left] at step
  -- One step closes the list, and then the walk is out of it.
  have walked : stepUntil (fun next => decide (next.depth ≤ 0)) (.between front [')'] [.paren]) =
      .ok (.reached (.between (front ++ [')']) [] [])) := by
    rw [stepUntil, show stepLexical _ = _ from step]
    rfl
  have inside : ¬ (State.between front [')'] [.paren]).depth ≤ 0 := Nat.not_succ_le_zero 0
  rw [skipArguments, if_neg inside, walked]

end

/-- Behind the parenthesis all arguments are left. -/
theorem expects_all (front : List Char) (base : List Context) {literals : List Literal}
    (nonempty : literals ≠ []) :
    Expects (front ++ writeList literals) base literals
      (.between front (writeList literals) base) := by
  obtain ⟨literal, others, rfl⟩ := List.exists_cons_of_ne_nil nonempty
  rw [writeList_cons]
  exact ⟨front, [], nofun, rfl, rfl⟩

/-- Nothing is skipped between the name of a function and the parenthesis behind it. -/
theorem skipTrivia_name (name list : List Char) :
    skipTrivia ((State.start (name ++ '(' :: list)).advance name.length) =
      .ok (.between name ('(' :: list) []) := by
  have moved := between_advance [] name ('(' :: list) []
  refine (congrArg skipTrivia moved).trans ?_
  exact skipTrivia_other rfl (by decide) (by simp [Context.ofComment?])

/-- The parenthesis opens the list of arguments. -/
theorem openList_parenthesis (name list : List Char) :
    openList (.between name ('(' :: list) []) = .ok (.between (name ++ ['(']) list [.paren]) := by
  have enter := between_enter name list [] .paren
  refine (if_pos rfl).trans ?_
  exact stepInside_of_lexStep (enter ▸ lexStep_paren rfl rfl)

/-- A written call is read as the call of its message that is the whole text. -/
theorem readCall_written {function : Function} (arguments : Arguments function) :
    readCall function (.start arguments.call) = .ok (.between arguments.call [] [], {
      raw := arguments.call
      message := arguments.message
      start := ⟨0, 0⟩
      stop := .behind arguments.call }) := by
  -- The parenthesis follows the name.
  have named : skipTrivia ((State.start arguments.call).advance function.name.length) =
      .ok (.between function.name ('(' :: writeList arguments.literals) []) :=
    skipTrivia_name function.name (writeList arguments.literals)
  have opened := openList_parenthesis function.name (writeList arguments.literals)
  have outside : (State.start arguments.call).depth = 0 := rfl
  have parenthesized : decide (0 < (State.between (function.name ++ ['('])
      (writeList arguments.literals) [.paren]).depth) = true := rfl
  -- The arguments are read one after the other, and the list ends the text.
  have whole : function.name ++ ['('] ++ writeList arguments.literals = arguments.call := by
    simp [Arguments.call]
  have expects := expects_all (function.name ++ ['(']) [.paren]
    (show arguments.literals ≠ [] by simp [Arguments.literals])
  rw [whole] at expects
  have visible : Visible [.paren] := rfl
  obtain ⟨behindContext, context, expects⟩ :=
    readOptional_expected visible .context arguments.context expects
  obtain ⟨behindText, text, expects⟩ := readLiteral_expected visible .text expects
  rw [← List.append_nil arguments.plural.toList] at expects
  obtain ⟨behindPlural, plural, expects⟩ :=
    readOptional_expected visible .plural arguments.plural expects
  have ended := skipArguments_expected expects
  rw [arguments.contextual] at context
  rw [arguments.pluralized] at plural
  have raw : (State.start arguments.call).cursor.textTo
      (State.between arguments.call [] []).cursor = arguments.call := by
    have all := Cursor.textTo_split [] arguments.call []
    rwa [List.append_nil] at all
  simp only [readCall_eq, named, opened, outside, parenthesized, context, text, plural,
    ended, raw, bind, Except.bind]
  rfl

/-- Of functions with different names, the one whose name stands as a whole identifier is named. -/
theorem named?_of_isolated {functions : List Function} (named : Named functions)
    (distinct : (functions.map Function.name).Nodup) {function : Function}
    (member : function ∈ functions) {rest : List Char}
    (isolated : rest.head?.any isIdentifierChar = false) :
    Function.named? functions none (function.name ++ rest) = some function := by
  refine (Function.named?_eq_some_iff named distinct).2 ⟨member, rfl, ?_⟩
  rw [← Function.stands_iff_takeWhile (named function member).2]
  simp [isolated]

/-- Whatever texts a call of a function is written for, and with whatever quotes, a scan of it finds
that call alone: the message has the texts in composed form, and the call is the whole text. -/
theorem scan_written {base : String} (identifier : ∀ c ∈ base.toList, isIdentifierChar c = true)
    {function : Function} (member : function ∈ Function.ofBases [base])
    (arguments : Arguments function) :
    (scan (Function.ofBases [base]) arguments.call).result = .ok [{
      raw := arguments.call
      message := arguments.message
      start := ⟨0, 0⟩
      stop := .behind arguments.call }] := by
  have named : Named (Function.ofBases [base]) := named_ofBases (by simpa using identifier)
  have found : functionAt? (Function.ofBases [base]) (.start arguments.call) = some function :=
    named?_of_isolated named (Function.nodup_ofBases [base]) member rfl
  -- One step reads the call, and the next one finds the end of the text.
  have ended : step (Function.ofBases [base]) (.between arguments.call [] []) = .ok none := by
    have none : functionAt? (Function.ofBases [base]) (.between arguments.call [] []) = none := by
      rw [Option.eq_none_iff_forall_ne_some]
      intro other found
      obtain ⟨-, isOther, tail, left⟩ := functionAt?_eq_some found
      exact (named other isOther).1 (List.append_eq_nil_iff.1 left.symm).1
    rw [step_eq, none]
    rfl
  have read : step (Function.ofBases [base]) (.start arguments.call) =
      .ok (some ⟨.between arguments.call [] [], some {
        raw := arguments.call
        message := arguments.message
        start := ⟨0, 0⟩
        stop := .behind arguments.call }⟩) := by
    rw [step_eq, found]
    dsimp only
    rw [readCall_written]
    rfl
  have shorter : (State.between arguments.call [] []).rest.length <
      (State.start arguments.call).rest.length := by
    simp [State.start, State.rest, Cursor.start, State.between, Cursor.split, Arguments.call]
  -- The step is the only one, for it leaves less text than it found.
  rw [scan, scanFrom_moved read shorter, scanFrom_ended ended]
  rfl

/-- Three texts that are full of special characters. -/
private def specials : Arguments ⟨['_', '_', 'n', 'p'], true, true⟩ where
  context := some ⟨'"', ['\\', '\\', '"'], rfl, nofun⟩
  text := ⟨'\x60', ['$', '{', '/', '/', '\n', ')'], rfl, nofun⟩
  plural := some ⟨'\'', ['\'', '\\'], rfl, nofun⟩
  contextual := rfl
  pluralized := rfl

/-- They are found as they were before they were written. -/
theorem scan_written_specials :
    specials.call =
        "__np(\"\\\\\\\\\\\"\", \x60\\$\\\x7b//\n)\x60, '\\'\\\\')".toList ∧
      (scan (Function.ofBases ["__"]) specials.call).result = .ok [{
        raw := specials.call
        message := ⟨some "\\\\\"", "$\x7b//\n)", some "'\\"⟩
        start := ⟨0, 0⟩
        stop := .behind specials.call }] := by
  have first : (Function.ofBases ["__"]).head? = some ⟨['_', '_', 'n', 'p'], true, true⟩ := by cbv
  have member := List.mem_of_mem_head? first
  exact ⟨by decide, scan_written (by simp [isIdentifierChar]) member specials⟩

end MessageCatalog.Source
