import MessageCatalog.Proofs.Source.Outcome

/-! The calls that a scan finds are spans of its text, one behind the other. -/

namespace MessageCatalog.Source

/-- The function that stands where a call can begin is not a part of a longer identifier. -/
theorem functionAt?_isolated {functions : List Function} {state : State} {function : Function}
    (found : functionAt? functions state = some function) :
    state.cursor.before.any isIdentifierChar = false ∧
      (state.rest.drop function.name.length).head?.any isIdentifierChar = false := by
  -- Both ends of the name were looked at before the function was found.
  unfold functionAt? Function.named? at found
  split at found
  · cases found
  · split at found
    · cases found
    · rename_i preceded
      have stands := List.find?_some found
      simp only [Bool.and_eq_true, Bool.not_eq_true'] at stands
      exact ⟨by simpa using preceded, stands.2⟩

/-- A position lies no later than another one. -/
def Position.NoLater (first second : Position) : Prop :=
  first.offset ≤ second.offset ∧ first.line ≤ second.line

section

variable {first second third : Position}

/-- A position lies no later than itself. -/
theorem Position.NoLater.refl (first : Position) : first.NoLater first :=
  ⟨Nat.le_refl _, Nat.le_refl _⟩

/-- Positions are ordered by their distance from the start. -/
theorem Position.NoLater.trans (one : first.NoLater second) (other : second.NoLater third) :
    first.NoLater third :=
  ⟨Nat.le_trans one.1 other.1, Nat.le_trans one.2 other.2⟩

/-- What lies behind more text lies no earlier. -/
theorem Position.noLater_behind (front middle : List Char) :
    (behind front).NoLater (behind (front ++ middle)) := by
  -- What is added takes bytes and holds line feeds, or neither.
  simp [NoLater, behind]

end

/-- A point of a text lies no later than the points behind it. -/
theorem Cursor.On.noLater_advance {text : List Char} {cursor : Cursor} (on : cursor.On text)
    (n : Nat) : cursor.position.NoLater (cursor.advance n).position := by
  -- Behind more of the text both counts are at least what they were.
  obtain ⟨front, behind, -, rfl⟩ := on
  rw [advance_split]
  exact Position.noLater_behind front (behind.take n)

/-- A text is not empty when it takes bytes. -/
theorem byteLength_pos {text : List Char} (nonempty : text ≠ []) : 0 < byteLength text := by
  obtain ⟨c, rest, rfl⟩ := List.exists_cons_of_ne_nil nonempty
  have positive := c.utf8Size_pos
  simp only [byteLength]
  omega

/-- A call stands in a text between two parts of it and calls a function, the name of which is a whole
identifier there. -/
structure Call.Between (call : Call) (function : Function) (front behind : List Char) : Prop where
  /-- It begins behind the part before it. -/
  start : call.start = .behind front
  /-- It ends behind its own text. -/
  stop : call.stop = .behind (front ++ call.raw)
  /-- It begins with the name of the function. -/
  named : function.name <+: call.raw
  /-- No identifier goes on with the name. -/
  preceded : front.getLast?.any isIdentifierChar = false
  /-- The name does not go on. -/
  followed : ((call.raw ++ behind).drop function.name.length).head?.any isIdentifierChar = false
  /-- There is a context when the function takes one. -/
  context : call.message.context.isSome = function.contextual
  /-- There is a plural when the function takes one. -/
  plural : call.message.plural.isSome = function.plural

/-- A call of one of some functions stands in a text. -/
def Call.StandsIn (functions : List Function) (text : List Char) (call : Call) : Prop :=
  ∃ function ∈ functions, ∃ front behind,
    text = front ++ call.raw ++ behind ∧ call.Between function front behind

/-- A call that stands in a text takes some of its bytes. -/
theorem Call.StandsIn.bounds {functions : List Function} {text : List Char} {call : Call}
    (nonempty : ∀ function ∈ functions, function.name ≠ [])
    (stands : call.StandsIn functions text) :
    call.start.offset < call.stop.offset ∧ call.stop.offset ≤ byteLength text := by
  obtain ⟨function, member, front, behind, whole, between⟩ := stands
  -- It holds the name at least.
  have notEmpty : call.raw ≠ [] := by
    intro empty
    have named := between.named
    rw [empty] at named
    exact nonempty function member (List.prefix_nil.1 named)
  have positive := byteLength_pos notEmpty
  rw [between.start, between.stop, whole]
  simp only [Position.behind, byteLength_append]
  omega

section

variable {functions : List Function} {text : List Char} {state : State}

/-- A call that is read on a text stands there. -/
theorem CallEnds.standsIn {function : Function} {read : State × Call}
    (ends : CallEnds function state read) (stands : Stands text state)
    (found : functionAt? functions state = some function) :
    read.2.StandsIn functions text := by
  obtain ⟨-, member, tail, left⟩ := functionAt?_eq_some found
  obtain ⟨preceded, followed⟩ := functionAt?_isolated found
  obtain ⟨front, behind, whole, point⟩ := stands.on
  -- The call is what lies between its first point and the one that its last step comes to.
  obtain ⟨n, moved⟩ := Lexes.cursor_eq ends.lexes
  rw [State.advance, Cursor.advance_advance, point, Cursor.advance_split] at moved
  have same : state.rest = behind := by rw [State.rest, point]; rfl
  have raw : read.2.raw = behind.take (function.name.length + n) := by
    have between := Cursor.textTo_split front (behind.take (function.name.length + n))
      (behind.drop (function.name.length + n))
    rw [List.take_append_drop] at between
    rw [ends.raw, point, moved, between]
  -- The name is the first part of it, since the arguments were read from behind the name.
  have named : function.name <+: behind.take (function.name.length + n) := by
    rw [← same, left, List.take_length_add_append]
    exact List.prefix_append _ _
  refine ⟨function, member, front, behind.drop (function.name.length + n), ?_, ?_⟩
  · rw [raw, List.append_assoc, List.take_append_drop, whole]
  · exact {
      start := by rw [ends.start, State.position, point]; rfl
      stop := by rw [ends.stop, raw, State.position, moved]; rfl
      named := raw ▸ named
      preceded := by rw [point] at preceded; exact preceded
      followed := by rw [raw, List.take_append_drop, ← same]; exact followed
      context := ends.context
      plural := ends.plural }

/-- A call lies no later than the point behind it. -/
theorem CallEnds.noLater {function : Function} {read : State × Call}
    (ends : CallEnds function state read) (stands : Stands text state) :
    state.position.NoLater read.1.position := by
  -- The name and the arguments are moved over.
  obtain ⟨n, moved⟩ := Lexes.cursor_eq ends.lexes
  rw [State.advance, Cursor.advance_advance] at moved
  rw [State.position, State.position, moved]
  exact stands.on.noLater_advance _

/-- What is known of the calls that a scan has found up to a state, last ones first. -/
structure FoundBefore (functions : List Function) (text : List Char) (state : State)
    (calls : List Call) : Prop extends Stands text state where
  /-- Each of them stands in the text. -/
  standsIn : ∀ call ∈ calls, call.StandsIn functions text
  /-- None goes on behind the state. -/
  before : ∀ call ∈ calls, call.stop.NoLater state.position
  /-- An earlier one ends before a later one begins. -/
  ordered : calls.Pairwise fun later earlier => earlier.stop.NoLater later.start

/-- What is known before a state is known before the ones behind it. -/
theorem FoundBefore.of_noLater {next : State} {calls : List Call}
    (known : FoundBefore functions text state calls) (stands : Stands text next)
    (noLater : state.position.NoLater next.position) :
    FoundBefore functions text next calls where
  toStands := stands
  standsIn := known.standsIn
  before := fun call member => (known.before call member).trans noLater
  ordered := known.ordered

/-- A step of a scan adds the call that it moves over. -/
theorem FoundBefore.of_step {next : Step} {calls : List Call}
    (known : FoundBefore functions text state calls)
    (moved : step functions state = .ok (some next)) :
    FoundBefore functions text next.state (next.call.toList ++ calls) := by
  have stands := known.toStands.of_step moved
  -- What is new is the call that the step read, if it read one.
  rcases step_moved moved with ⟨function, call, found, read, isCall⟩ | ⟨-, lexical, noCall⟩
  · -- The call that was read is the last one so far.
    have ends := (reads_functionAt found).of_ok read
    have kept := known.of_noLater stands (ends.noLater known.toStands)
    rw [isCall]
    refine ⟨stands, ?_, ?_, ?_⟩
    · intro other member
      rcases List.mem_cons.1 member with rfl | old
      · exact ends.standsIn known.toStands found
      · exact known.standsIn other old
    · -- What was found before ends before this call does.
      intro other member
      rcases List.mem_cons.1 member with rfl | old
      · rw [ends.stop]
        exact .refl _
      · exact kept.before other old
    · -- The calls before end no later than the state at which this one begins.
      refine List.pairwise_cons.2 ⟨fun other old => ?_, known.ordered⟩
      rw [ends.start]
      exact known.before other old
  · -- A lexical step adds none.
    obtain ⟨n, reached⟩ := Lexes.cursor_eq (.single lexical)
    rw [noCall]
    refine known.of_noLater stands ?_
    rw [State.position, State.position, reached]
    exact known.on.noLater_advance n

/-- The calls that a scan of a text finds stand in it, one behind the other. -/
theorem found_of_scan {found : List Call} (scanned : (scan functions text).result = .ok found) :
    (∀ call ∈ found, call.StandsIn functions text) ∧
      found.Pairwise fun earlier later => earlier.stop.NoLater later.start := by
  -- Before the first turn there are no calls, and each turn keeps what is known of them.
  have start : FoundBefore functions text (.start text) [] := ⟨.start text, nofun, nofun, .nil⟩
  obtain ⟨last, -, known⟩ := holds_of_scanFrom (FoundBefore functions text) FoundBefore.of_step
    (fun known _ inside => known.of_noLater (known.gaveUp inside) (.refl _))
    (fun known _ _ => known.of_noLater (known.advance 1) (known.on.noLater_advance 1))
    (.start text) [] [] start scanned
  refine ⟨fun call member => known.standsIn call (List.mem_reverse.2 member), ?_⟩
  exact List.pairwise_reverse.1 known.ordered

end

/-- Each call that a scan finds is a span of the text with some bytes, which begins with the name of its
function as a whole identifier; of two calls the earlier one ends before the later one begins. -/
theorem calls_of_scan {bases : List String} {text : List Char} {calls : List Call}
    (scanned : (scan (Function.ofBases bases) text).result = .ok calls) :
    (∀ call ∈ calls, call.StandsIn (Function.ofBases bases) text ∧
      call.start.offset < call.stop.offset ∧ call.stop.offset ≤ byteLength text) ∧
    calls.Pairwise fun earlier later => earlier.stop.NoLater later.start := by
  -- That each call has some bytes follows from the name with which it begins.
  obtain ⟨standsIn, ordered⟩ := found_of_scan scanned
  refine ⟨fun call member => ?_, ordered⟩
  exact ⟨standsIn call member, (standsIn call member).bounds nonempty_ofBases⟩

/-- Two calls on different lines, with a malformed one between them. -/
private def twoLines : List Char := "__('x')\n__(fish) __('y')".toList

/-- The call on the first line. -/
private def firstCall : Call where
  raw := "__('x')".toList
  message := ⟨none, "x", none⟩
  start := ⟨0, 0⟩
  stop := ⟨7, 0⟩

/-- The call on the second line. -/
private def secondCall : Call where
  raw := "__('y')".toList
  message := ⟨none, "y", none⟩
  start := ⟨17, 1⟩
  stop := ⟨24, 1⟩

/-- The two calls that are found are such spans, and the first one ends before the second one begins. -/
theorem calls_of_scan_two_lines :
    (scan (Function.ofBases ["__"]) twoLines).result = .ok [firstCall, secondCall] ∧
      firstCall.StandsIn (Function.ofBases ["__"]) twoLines ∧
      secondCall.StandsIn (Function.ofBases ["__"]) twoLines ∧
      secondCall.start.offset < secondCall.stop.offset ∧
      secondCall.stop.offset ≤ byteLength twoLines ∧ firstCall.stop.NoLater secondCall.start := by
  have scanned :
      (scan (Function.ofBases ["__"]) twoLines).result = .ok [firstCall, secondCall] := by cbv
  obtain ⟨spans, ordered⟩ := calls_of_scan scanned
  obtain ⟨second, some, inside⟩ := spans secondCall (.tail _ (.head _))
  exact ⟨scanned, (spans firstCall (.head _)).1, second, some, inside,
    (List.pairwise_cons.1 ordered).1 secondCall (.head _)⟩

end MessageCatalog.Source
