import MessageCatalog.Proofs.Source.Recovery

/-! No call ends on a line that its text does not have. -/

namespace MessageCatalog.Source

/-- The last line that can be come to from a cursor, if each character left ends one. -/
def Cursor.lastLine (cursor : Cursor) : Nat := cursor.position.line + cursor.rest.length

/-- Moving over a character comes to at most one line more. -/
theorem Cursor.lastLine_next (cursor : Cursor) : cursor.next.lastLine ≤ cursor.lastLine := by
  -- A character that is moved over is no longer left, and ends one line at most.
  obtain ⟨before, rest, position⟩ := cursor
  cases rest with
  | nil => exact Nat.le_refl _
  | cons c rest =>
    simp only [lastLine, next, Position.past, List.length_cons]
    split <;> omega

/-- Moving comes to no line behind the last one. -/
theorem Cursor.lastLine_advance (n : Nat) (cursor : Cursor) :
    (cursor.advance n).lastLine ≤ cursor.lastLine := by
  -- Move by move.
  induction n generalizing cursor with
  | zero => exact Nat.le_refl _
  | succ n ih => exact Nat.le_trans (ih cursor.next) cursor.lastLine_next

/-- A step comes to no line behind the last one. -/
theorem LexStep.lastLine_le {state next : State} (step : LexStep state next) :
    next.cursor.lastLine ≤ state.cursor.lastLine := by
  -- A step moves over characters.
  obtain ⟨n, -, moved⟩ := (lexical_of_stepLexical step).2.cursor_eq
  rw [moved]
  exact Cursor.lastLine_advance n state.cursor

/-- Steps come to no line behind the last one. -/
theorem Lexes.lastLine_le {state next : State} (lexes : Lexes state next) :
    next.cursor.lastLine ≤ state.cursor.lastLine := by
  induction lexes with
  | refl => exact Nat.le_refl _
  | tail _ step ih => exact Nat.le_trans step.lastLine_le ih

/-- A step of a scan, and the call that it moves over, come to no line behind the last one. -/
theorem lastLine_of_step {functions : List Function} (named : Named functions) {state : State}
    {next : Step} (nested : Nested state.stack)
    (moved : step functions state = .ok (some next)) :
    Nested next.state.stack ∧ next.state.cursor.lastLine ≤ state.cursor.lastLine ∧
      ∀ call ∈ next.call, call.stop.line ≤ state.cursor.lastLine := by
  -- A call is read by steps, so it ends where they come to.
  rcases step_moved moved with ⟨function, call, found, read, result⟩ | ⟨-, lexical, result⟩
  · obtain ⟨visible, member, tail, left⟩ := functionAt?_eq_some found
    obtain ⟨nonempty, identifier⟩ := named function member
    have span := (reads_readCall visible nonempty identifier left).of_ok read
    have behind := Lexes.lastLine_le span.lexes
    refine ⟨span.nested (nested.codeStack visible), behind, ?_⟩
    intro other same
    rw [result] at same
    cases same
    rw [span.stop]
    exact Nat.le_trans (Nat.le_add_right _ _) behind
  · refine ⟨(lexical_of_stepLexical lexical).2.nested nested, lexical.lastLine_le, ?_⟩
    intro call same
    rw [result] at same
    cases same

/-- What is known of a scan that has come to no line behind some last one. -/
structure Within (last : Nat) (state : State) (calls : List Call) : Prop where
  /-- Literals and comments are innermost. -/
  nested : Nested state.stack
  /-- No further line lies behind it. -/
  further : state.cursor.lastLine ≤ last
  /-- No call so far ends behind it. -/
  calls : ∀ call ∈ calls, call.stop.line ≤ last

/-- The calls that a scan finds from a state on end on lines of the text. -/
theorem line_le_of_scanFrom {functions : List Function} (named : Named functions) (last : Nat)
    (state : State) (calls : List Call) (skipped : List Malformed) (within : Within last state calls)
    {found : List Call} (scanned : (scanFrom functions state calls skipped).result = .ok found) :
    ∀ call ∈ found, call.stop.line ≤ last := by
  -- No turn of the scan adds a line that was not counted as left.
  have moves {state : State} {calls : List Call} {next : Step} (within : Within last state calls)
      (moved : step functions state = .ok (some next)) :
      Within last next.state (next.call.toList ++ calls) := by
    obtain ⟨nested, further, ends⟩ := lastLine_of_step named within.nested moved
    refine ⟨nested, Nat.le_trans further within.further, ?_⟩
    intro call member
    rcases List.mem_append.1 member with new | old
    · exact Nat.le_trans (ends call (Option.mem_toList.1 new)) within.further
    · exact within.calls call old
  -- Giving up a context moves nothing, so the lines ahead stay.
  have givesUp {state : State} {calls : List Call} {context : Context} {stack : List Context}
      (within : Within last state calls) (inside : state.stack = context :: stack) :
      Within last ⟨state.cursor, stack⟩ calls := by
    have nested := within.nested
    rw [inside] at nested
    exact ⟨nested.tail, within.further, within.calls⟩
  have skips {state : State} {calls : List Call} (within : Within last state calls) :
      Within last (state.advance 1) calls :=
    ⟨within.nested, Nat.le_trans (Cursor.lastLine_advance 1 state.cursor) within.further,
      within.calls⟩
  obtain ⟨_, -, ends⟩ := holds_of_scanFrom (Within last) moves
    (fun within _ inside => givesUp within inside) (fun within _ _ => skips within) state calls skipped
    within scanned
  exact fun call member => ends.calls call (List.mem_reverse.2 member)

/-- The calls of a text end on lines that it has. -/
theorem line_le_of_scan {functions : List Function} (named : Named functions) {text : List Char}
    {calls : List Call} (scanned : (scan functions text).result = .ok calls) :
    ∀ call ∈ calls, call.stop.line ≤ text.length := by
  have all : (State.start text).cursor.lastLine = text.length := Nat.zero_add _
  have start : Within text.length (.start text) [] :=
    ⟨.code .outermost, Nat.le_of_eq all, nofun⟩
  exact line_le_of_scanFrom named text.length (.start text) [] [] start scanned

end MessageCatalog.Source
