import MessageCatalog.Proofs.Source.Recovery

/-! A scan stays on the points of its text, and the position of a point counts the text before it. -/

namespace MessageCatalog.Source

/-- The bytes of two texts add up. -/
@[simp] theorem byteLength_append (front behind : List Char) :
    byteLength (front ++ behind) = byteLength front + byteLength behind := by
  -- Each character of the first text adds its own bytes.
  induction front with
  | nil => simp [byteLength]
  | cons c front ih =>
    simp only [List.cons_append, byteLength, ih]
    omega

/-- The position behind a text. -/
def Position.behind (front : List Char) : Position := ⟨byteLength front, front.count '\n'⟩

/-- One character further, the position is the one past that character. -/
theorem Position.past_behind (front : List Char) (c : Char) :
    (behind front).past c = behind (front ++ [c]) := by
  -- Only a line feed adds to both counts.
  by_cases lineFeed : c = '\n'
  · simp [behind, past, byteLength, lineFeed]
  · simp [behind, past, byteLength, lineFeed]

/-- The point between two parts of a text. -/
def Cursor.split (front behind : List Char) : Cursor := ⟨front.getLast?, behind, .behind front⟩

/-- Moving from a point takes characters from one part to the other. -/
theorem Cursor.advance_split (n : Nat) (front behind : List Char) :
    (split front behind).advance n = split (front ++ behind.take n) (behind.drop n) := by
  -- One move takes one character over, and at the end there is none to take.
  induction n generalizing front behind with
  | zero => simp [advance]
  | succ n ih =>
    cases behind with
    | nil =>
      have stays : (split front []).next = split front [] := rfl
      rw [advance, stays, ih]
      simp
    | cons c behind =>
      have moves : (split front (c :: behind)).next = split (front ++ [c]) behind := by
        simp [split, next, Position.past_behind]
      rw [advance, moves, ih]
      simp

/-- The text between two points. -/
theorem Cursor.textTo_split (front middle behind : List Char) :
    (split front (middle ++ behind)).textTo (split (front ++ middle) behind) = middle := by
  simp [textTo, split]

/-- A cursor is a point of a text. -/
def Cursor.On (text : List Char) (cursor : Cursor) : Prop :=
  ∃ front behind, text = front ++ behind ∧ cursor = split front behind

/-- Moving leads from points of a text to points of it. -/
theorem Cursor.On.advance {text : List Char} {cursor : Cursor} (on : cursor.On text) (n : Nat) :
    (cursor.advance n).On text := by
  -- The two parts of the text change, but not the text that they make up.
  obtain ⟨front, behind, whole, rfl⟩ := on
  refine ⟨front ++ behind.take n, behind.drop n, ?_, advance_split n front behind⟩
  rw [List.append_assoc, List.take_append_drop, whole]

/-- Steps move over a number of characters. -/
theorem Lexes.cursor_eq {state next : State} (lexes : Lexes state next) :
    ∃ n, next.cursor = state.cursor.advance n := by
  -- The characters of all steps add up.
  induction lexes with
  | refl => exact ⟨0, rfl⟩
  | tail _ step ih =>
    obtain ⟨m, before⟩ := ih
    obtain ⟨n, -, moved⟩ := (lexical_of_stepLexical step).2.cursor_eq
    exact ⟨m + n, by rw [moved, before, Cursor.advance_advance]⟩

/-- What holds of every state that a scan of a text comes to. -/
structure Stands (text : List Char) (state : State) : Prop where
  /-- Its cursor is a point of the text. -/
  on : state.cursor.On text
  /-- Literals and comments are innermost. -/
  nested : Nested state.stack

/-- A scan begins at a point of its text. -/
theorem Stands.start (text : List Char) : Stands text (.start text) :=
  ⟨⟨[], text, rfl, rfl⟩, .code .outermost⟩

section

variable {text : List Char} {state next : State}

/-- Moving on stays on the text. -/
theorem Stands.advance (stands : Stands text state) (n : Nat) : Stands text (state.advance n) :=
  ⟨stands.on.advance n, stands.nested⟩

/-- Steps stay on the text. -/
theorem Stands.of_lexes (stands : Stands text state) (lexes : Lexes state next) :
    Stands text next := by
  -- Steps only move, and they keep literals and comments innermost.
  obtain ⟨n, moved⟩ := lexes.cursor_eq
  exact ⟨moved ▸ stands.on.advance n, lexes.nested stands.nested⟩

/-- At the end of a text, all of its lines have been counted. -/
theorem Stands.line_of_ended (stands : Stands text state) (ended : state.rest = []) :
    state.position.line = text.count '\n' := by
  -- Nothing is behind the point, so all of the text is before it.
  obtain ⟨front, behind, whole, point⟩ := stands.on
  have noMore : behind = [] := by
    rw [State.rest, point] at ended
    exact ended
  rw [State.position, point, whole, noMore, List.append_nil]
  rfl

variable {functions : List Function}

/-- What is known of a call where a function is named. -/
theorem reads_functionAt {function : Function}
    (found : functionAt? functions state = some function) :
    Reads (state.advance function.name.length) (readCall function state)
      (CallEnds function state) :=
  reads_arguments function (functionAt?_eq_some found).1

/-- A call stays on the text. -/
theorem Stands.of_call (stands : Stands text state) {function : Function} {read : State × Call}
    (found : functionAt? functions state = some function)
    (ends : CallEnds function state read) : Stands text read.1 := by
  -- The name is moved over character by character, and the arguments by steps.
  have code := stands.nested.codeStack (functionAt?_eq_some found).1
  obtain ⟨n, moved⟩ := Lexes.cursor_eq ends.lexes
  exact ⟨moved ▸ (stands.advance _).on.advance n, ends.restored.nested code⟩

/-- A step of a scan stays on the text. -/
theorem Stands.of_step (stands : Stands text state) {next : Step}
    (moved : step functions state = .ok (some next)) : Stands text next.state := by
  -- A step of a scan is a call or a lexical step.
  rcases step_moved moved with ⟨function, call, found, read, -⟩ | ⟨-, lexical, -⟩
  · exact stands.of_call found ((reads_functionAt found).of_ok read)
  · exact stands.of_lexes (.single lexical)

/-- Giving up a context stays on the text. -/
theorem Stands.gaveUp (stands : Stands text state) {context : Context} {stack : List Context}
    (inside : state.stack = context :: stack) : Stands text ⟨state.cursor, stack⟩ := by
  -- The cursor stays, and what is around the context is still well nested.
  have nested := stands.nested
  rw [inside] at nested
  exact ⟨stands.on, nested.tail⟩

/-- A turn of a scan stays on the text. -/
theorem ScanStep.stands (turn : ScanStep functions state next) (stands : Stands text state) :
    Stands text next := by
  -- The cases are the three ways in which a scan goes on.
  cases turn with
  | moved stepped => exact stands.of_step stepped
  | gaveUp failed inside => exact stands.gaveUp inside
  | skipped failed outside => exact stands.advance 1

/-- All turns of a scan of a text stay on it. -/
theorem stands_of_scanSteps
    (turns : Relation.ReflTransGen (ScanStep functions) (.start text) state) :
    Stands text state := by
  -- The induction is on the turns of the scan.
  induction turns with
  | refl => exact .start text
  | tail _ turn ih => exact turn.stands ih

end

end MessageCatalog.Source
