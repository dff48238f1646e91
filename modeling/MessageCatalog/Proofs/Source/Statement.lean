import MessageCatalog.Proofs.Source.Extension
import MessageCatalog.Proofs.Source.Outcome

/-! A text that ends with a semicolon on a line of its own is scanned without looking at what follows
it, and that is scanned as a text of its own. -/

namespace MessageCatalog.Source

variable {front behind : List Char}

/-- An identifier begins a text that holds a line feed, or it does not, whatever follows. -/
theorem isPrefixOf_identifier {name rest : List Char}
    (identifier : ∀ c ∈ name, isIdentifierChar c = true) (lineFeed : '\n' ∈ rest)
    (behind : List Char) : name.isPrefixOf (rest ++ behind) = name.isPrefixOf rest := by
  -- A name that is longer than the text would hold its line feed.
  rw [Bool.eq_iff_iff, List.isPrefixOf_iff_prefix, List.isPrefixOf_iff_prefix]
  constructor
  · intro stands
    rcases List.prefix_or_prefix_of_prefix stands (List.prefix_append rest behind) with
      within | longer
    · exact within
    · exact absurd (identifier _ (longer.subset lineFeed)) (by decide)
  · intro within
    exact within.trans (List.prefix_append rest behind)

/-- An identifier stands as a whole at the start of a text that holds a line feed, or it does not,
whatever follows. -/
theorem whole_identifier {name rest : List Char}
    (identifier : ∀ c ∈ name, isIdentifierChar c = true) (lineFeed : '\n' ∈ rest)
    (behind : List Char) :
    (name.isPrefixOf (rest ++ behind) &&
        !((rest ++ behind).drop name.length).head?.any isIdentifierChar) =
      (name.isPrefixOf rest && !(rest.drop name.length).head?.any isIdentifierChar) := by
  -- The name is found in both texts or in none, and what stands behind it is looked at next.
  rw [isPrefixOf_identifier identifier lineFeed]
  by_cases stands : name.isPrefixOf rest = true
  · -- The line feed is not a part of the name, so something is left of the text behind it.
    obtain ⟨tail, rfl⟩ := List.isPrefixOf_iff_prefix.1 stands
    cases tail with
    | nil =>
      rw [List.append_nil] at lineFeed
      exact absurd (identifier _ lineFeed) (by decide)
    | cons c tail =>
      rw [List.append_assoc, List.drop_left, List.drop_left]
      rfl
  · rw [Bool.eq_false_iff.2 stands, Bool.false_and, Bool.false_and]

/-- Before a line feed, the same function stands where a call can begin, unless an identifier goes on
from the text before. -/
theorem functionAt?_amid {functions : List Function} (named : Named functions) {state : State}
    (plain : front.getLast?.any isIdentifierChar = false)
    (lineFeed : behind = [] ∨ '\n' ∈ state.rest) :
    functionAt? functions (state.amid front behind) = functionAt? functions state := by
  -- The character before the first one is the last one of the text before.
  have preceded : (state.amid front behind).cursor.before.any isIdentifierChar =
      state.cursor.before.any isIdentifierChar := by
    change (state.cursor.before.or front.getLast?).any isIdentifierChar = _
    cases state.cursor.before with
    | none => exact plain
    | some c => rfl
  unfold functionAt? Function.named?
  rw [preceded, amid_isHidden, amid_rest]
  rcases lineFeed with rfl | lineFeed
  · rw [List.append_nil]
  · have found : functions.find? (fun f => f.name.isPrefixOf (state.rest ++ behind) &&
          !((state.rest ++ behind).drop f.name.length).head?.any isIdentifierChar) =
        functions.find? (fun f => f.name.isPrefixOf state.rest &&
          !(state.rest.drop f.name.length).head?.any isIdentifierChar) :=
      List.find?_congr fun f member => whole_identifier (named f member).2 lineFeed behind
    rw [found]

/-- Functions that are named by identifiers have names. -/
theorem Named.nonempty {functions : List Function} (named : Named functions) :
    ∀ function ∈ functions, function.name ≠ [] :=
  fun function member => (named function member).1

/-- A step of a scan, seen from the longer text. -/
def Step.amid (front behind : List Char) (next : Step) : Step :=
  ⟨next.state.amid front behind, next.call.map (Call.after front)⟩

/-- Steps of a scan carry over where text is left. -/
theorem carries_step {functions : List Function} (named : Named functions) {state : State}
    (plain : front.getLast?.any isIdentifierChar = false) (held : Held behind state)
    (more : behind = [] ∨ state.rest ≠ []) :
    Carries front behind (Option.map (Step.amid front behind))
      (fun next => ∀ step ∈ next, Held behind step.state) (step functions state)
      (step functions (state.amid front behind)) := by
  have lineFeed : behind = [] ∨ '\n' ∈ state.rest := by
    rcases held with last | walled
    · exact .inl last
    · exact more.imp_right fun more => walled.faces.lineFeed more
  -- Both texts name the same function here, or none.
  rw [step_eq, step_eq, functionAt?_amid named plain lineFeed]
  cases found : functionAt? functions state with
  | some function =>
    obtain ⟨visible, member, tail, left⟩ := functionAt?_eq_some found
    obtain ⟨nonempty, identifier⟩ := named function member
    refine (carries_readCall visible nonempty identifier left held).bind
      fun read _ behindCall => .of_ok rfl fun step isNext => ?_
    cases isNext
    exact behindCall
  -- Without a call it is a lexical step that carries over, and it adds none.
  | none =>
    refine (carries_stepLexical front held.firm (more.imp_right stepLexical_ne_none)).bind
      fun next stepped _ => ?_
    cases next with
    | none => exact .of_ok rfl nofun
    | some next =>
      refine .of_ok rfl fun step isNext => ?_
      cases isNext
      exact held.of_step stepped

/-- A scan of a longer text goes on where the scan of a text in its midst ends, or fails like that when
nothing follows. -/
def Continues (functions : List Function) (text front behind : List Char) (short long : Scan) :
    Prop :=
  match short.result with
  | .ok found => ∃ last, Stands text last ∧ Held behind last ∧ step functions last = .ok none ∧
      long = scanFrom functions (last.amid front behind) (found.reverse.map (Call.after front))
        (short.skipped.reverse.map (Malformed.after front))
  | .error fault => behind = [] → long.result = .error (fault.after front)

/-- What is malformed in a text is so in a longer one. -/
theorem malformed_amid (front : List Char) {functions : List Function} (named : Named functions)
    {state : State} (plain : front.getLast?.any isIdentifierChar = false)
    (held : Held behind state) {construct : Malformed}
    (failed : step functions state = .error (.malformed construct)) :
    step functions (state.amid front behind) = .error (.malformed (construct.after front)) := by
  -- At the end of the text nothing is malformed, so there is text left.
  have more : state.rest ≠ [] := fun ended =>
    not_malformed_of_ended named.nonempty ended construct failed
  have steps := carries_step named plain held (.inr more)
  rw [failed] at steps
  rcases steps with same | ⟨-, context, line, unclosed⟩
  · exact same
  · cases unclosed

/-- The scan of a longer text goes on from every state as the scan of a text in its midst does. -/
theorem continues_scanFrom (front behind : List Char) {functions : List Function} (named : Named functions)
    (plain : front.getLast?.any isIdentifierChar = false) {text : List Char} (state : State)
    (calls : List Call) (skipped : List Malformed) (stands : Stands text state)
    (held : Held behind state) :
    Continues functions text front behind (scanFrom functions state calls skipped)
      (scanFrom functions (state.amid front behind) (calls.map (Call.after front))
        (skipped.map (Malformed.after front))) := by
  -- Turn by turn, the longer scan takes the same one.
  induction state, calls, skipped using scanFrom.induct functions with
  | case1 state calls skipped ended =>
    rw [scanFrom_ended ended]
    refine ⟨state, stands, held, ended, ?_⟩
    rw [List.reverse_reverse, List.reverse_reverse]
  | case2 state calls skipped next moved shorter ih =>
    have more : state.rest ≠ [] := by
      intro ended
      simp [ended] at shorter
    have steps := carries_step named plain held (.inr more)
    rw [moved] at steps
    obtain ⟨moved', further⟩ := steps
    -- What follows adds the same to both lengths, so the longer scan does not stall either.
    have shorter' : (next.state.amid front behind).rest.length <
        (state.amid front behind).rest.length := by
      simp only [amid_rest, List.length_append]
      omega
    have found : (next.call.map (Call.after front)).toList ++ calls.map (Call.after front) =
        (next.call.toList ++ calls).map (Call.after front) := by
      cases next.call <;> rfl
    rw [scanFrom_moved moved shorter, scanFrom_moved moved' shorter']
    simp only [Step.amid, found]
    exact ih (stands.of_step moved) (further next rfl)
  | case3 state calls skipped next moved stalled =>
    exact absurd (step_shorter named.nonempty moved) stalled
  -- What is given up or skipped here is given up or skipped in the longer text, too.
  | case4 state calls skipped construct failed context stack inside ih =>
    have failed' := malformed_amid front named plain held failed
    have gaveUp : Held behind ⟨state.cursor, stack⟩ :=
      held.imp_right fun walled => walled.gaveUp inside
    rw [scanFrom_gaveUp failed inside, scanFrom_gaveUp failed' inside]
    exact ih (stands.gaveUp inside) gaveUp
  | case5 state calls skipped construct failed c tail outside left ih =>
    have failed' := malformed_amid front named plain held failed
    have skips : Held behind (state.advance 1) :=
      held.imp_right fun walled => walled.skipped outside
    rw [scanFrom_skipped failed outside (by simp [left]),
      scanFrom_skipped failed' outside (by simp [left]), amid_advance (.inr (by simp [left]))]
    exact ih (stands.advance 1) skips
  | case6 state calls skipped construct failed outside ended =>
    exact absurd failed (not_malformed_of_ended named.nonempty ended construct)
  | case7 state calls skipped fault fatal failed =>
    rw [scanFrom_failed failed fatal]
    -- The longer text has to fail, too, only where nothing stands behind the other one.
    intro last
    have steps := carries_step named plain held (.inl last)
    rw [failed] at steps
    have failed' := steps.resolve_right fun both => both.1 last
    rw [scanFrom, failed']
    cases fault with
    | malformed construct => exact absurd rfl (fatal construct)
    | unclosed | stalled => rfl

/-- Calls that were found before a scan goes on come first in its result. -/
theorem scanFrom_append {functions : List Function} (state : State) (calls earlier : List Call)
    (skipped others : List Malformed) :
    (scanFrom functions state (calls ++ earlier) others).result =
      (scanFrom functions state calls skipped).result.map (earlier.reverse ++ ·) := by
  -- Each turn adds to the calls in front, and the earlier ones stay behind.
  induction state, calls, skipped using scanFrom.induct functions generalizing others with
  | case1 state calls skipped ended =>
    rw [scanFrom_ended ended, scanFrom_ended ended]
    simp [Except.map]
  -- The call that the turn adds comes in front of both lists.
  | case2 state calls skipped next moved shorter ih =>
    rw [scanFrom_moved moved shorter, scanFrom_moved moved shorter, ← List.append_assoc]
    exact ih others
  | case3 state calls skipped next moved stalled =>
    rw [scanFrom_stalled moved stalled, scanFrom_stalled moved stalled]
    rfl
  | case4 state calls skipped construct failed context stack inside ih =>
    rw [scanFrom_gaveUp failed inside, scanFrom_gaveUp failed inside]
    exact ih _
  | case5 state calls skipped construct failed c tail outside left ih =>
    rw [scanFrom_skipped failed outside (by simp [left]),
      scanFrom_skipped failed outside (by simp [left])]
    exact ih _
  | case6 state calls skipped construct failed outside ended =>
    rw [scanFrom_left failed outside ended, scanFrom_left failed outside ended]
    rfl
  | case7 state calls skipped fault fatal failed =>
    rw [scanFrom_failed failed fatal, scanFrom_failed failed fatal]
    rfl

section

variable {functions : List Function} (named : Named functions)
include named

/-- Behind a text from which no identifier goes on, a text has the calls that it has on its own. -/
theorem scanFrom_after_of_ok (plain : front.getLast?.any isIdentifierChar = false)
    {text : List Char} {found : List Call} (scanned : (scan functions text).result = .ok found) :
    (scanFrom functions ((State.start text).amid front []) [] []).result =
      .ok (found.map (Call.after front)) := by
  have continues := continues_scanFrom front [] named plain (.start text) [] [] (.start text)
    (.inl rfl)
  rw [Continues, ← scan, scanned] at continues
  -- Nothing follows, so the longer scan ends where the scan of the text does.
  obtain ⟨last, stands, held, ended, same⟩ := continues
  have steps := carries_step named plain held (.inl rfl)
  rw [ended] at steps
  have ended' : step functions (last.amid front []) = .ok none := steps.1
  rw [List.map_nil, List.map_nil] at same
  rw [same, scanFrom_ended ended']
  simp

/-- Behind a text from which no identifier goes on, a text fails as it does on its own. -/
theorem scanFrom_after_of_error (plain : front.getLast?.any isIdentifierChar = false)
    {text : List Char} {fault : ScanError}
    (scanned : (scan functions text).result = .error fault) :
    (scanFrom functions ((State.start text).amid front []) [] []).result =
      .error (fault.after front) := by
  -- With nothing behind, the longer scan fails where the scan of the text does.
  have continues := continues_scanFrom front [] named plain (.start text) [] [] (.start text)
    (.inl rfl)
  rw [Continues, ← scan, scanned] at continues
  exact continues rfl

/-- A text without characters has no calls. -/
theorem scan_nil : (scan functions []).result = .ok [] := by
  -- No name stands there, and a text without characters ends well.
  have noName : functionAt? functions (.start []) = none := by
    cases found : functionAt? functions (.start []) with
    | none => rfl
    | some function =>
      obtain ⟨-, member, tail, left⟩ := functionAt?_eq_some found
      exact absurd (List.append_eq_nil_iff.1 left.symm).1 (named function member).1
  have ended : step functions (.start []) = .ok none := by
    rw [step_eq, noName]
    rfl
  rw [scan, scanFrom, ended]
  rfl

/-- A text that ends with a semicolon on a line of its own is scanned up to there, and what follows is
scanned from its own start, if it is not empty. -/
theorem scan_append {text : List Char} (walled : statementEnd <:+ text)
    (nonempty : behind ≠ []) {calls : List Call}
    (scanned : (scan functions text).result = .ok calls) :
    ∃ skipped, scan functions (text ++ behind) =
      scanFrom functions ((State.start behind).amid text []) calls.reverse skipped := by
  -- From the end of the first text on, the scan is the one of the second text, seen from the first
  -- one's start.
  have start : Walled (.start text) := ⟨.code .outermost, .inl walled, nofun⟩
  have continues := continues_scanFrom [] behind named rfl (.start text) [] [] (.start text)
    (.inr start)
  rw [Continues, ← scan, scanned] at continues
  obtain ⟨last, stands, held, ended, same⟩ := continues
  -- The text ends at top level, as its last line feed leaves no comment open.
  obtain ⟨-, lexical⟩ := step_ended ended
  have noMore : last.rest = [] := (finish_of_stepLexical lexical).1
  have outside : last.stack = [] := by
    by_contra inside
    exact (held.resolve_left nonempty).not_ended inside lexical
  obtain ⟨before, rest, whole, point⟩ := stands.on
  obtain rfl : rest = [] := by
    rw [State.rest, point] at noMore
    exact noMore
  have last_amid : last.amid [] behind = (State.start behind).amid text [] := by
    rw [List.append_nil] at whole
    rw [State.amid, outside, point, ← whole]
    simp [State.amid, State.start, Cursor.amid, Cursor.split, Cursor.start, Position.behind,
      Position.after, byteLength]
  have calls_after : calls.reverse.map (Call.after []) = calls.reverse := List.map_id _
  rw [last_amid, calls_after] at same
  exact ⟨_, same⟩

end

/-- Behind a semicolon on a line of its own, a text that is scanned well so far goes on like a text of
its own: its calls are found at points shifted by what stands before, and where it ends inside a
context, the last line is shifted too. -/
theorem scan_append_statementEnd {functions : List Function} (named : Named functions)
    {first : List Char} {calls : List Call}
    (scanned : (scan functions (first ++ statementEnd)).result = .ok calls) (second : List Char) :
    (∀ further, (scan functions second).result = .ok further →
      (scan functions (first ++ statementEnd ++ second)).result =
        .ok (calls ++ further.map (Call.after (first ++ statementEnd)))) ∧
    ∀ fault, (scan functions second).result = .error fault →
      ∃ context line, fault = .unclosed context line ∧
        (scan functions (first ++ statementEnd ++ second)).result =
          .error (.unclosed context (line + (first ++ statementEnd).count '\n')) := by
  -- The line feed before the second text is no part of an identifier.
  have plain : (first ++ statementEnd).getLast?.any isIdentifierChar = false := by
    rw [List.getLast?_append]
    exact (by decide : isIdentifierChar '\n' = false)
  by_cases follows : second = []
  · -- Nothing follows, and nothing is found there.
    subst follows
    rw [scan_nil named, List.append_nil]
    refine ⟨fun further same => ?_, nofun⟩
    cases same
    simpa using scanned
  · obtain ⟨skipped, joined⟩ := scan_append named (List.suffix_append _ _) follows scanned
    -- The calls of the first text come before those of the second one.
    rw [joined, ← List.nil_append calls.reverse, scanFrom_append _ [] _ [], List.reverse_reverse]
    constructor
    · intro further isFurther
      rw [scanFrom_after_of_ok named plain isFurther]
      rfl
    · intro fault isFault
      rw [scanFrom_after_of_error named plain isFault]
      -- A scan fails at the end of the text only.
      rcases scanFrom_ends named.nonempty (.start second) [] [] (.start second) with
        ⟨further, isFurther⟩ | ⟨other, isOther, context, -, unclosed⟩
      · rw [← scan, isFault] at isFurther
        cases isFurther
      · rw [← scan, isFault] at isOther
        cases isOther
        exact ⟨context, _, unclosed, by rw [unclosed]; rfl⟩

/-- A call behind a statement that ends on a line of its own. -/
theorem scan_append_statementEnd_two_calls :
    (scan (Function.ofBases ["__"]) ("__('a')\n;\n__('b')".toList)).result =
      .ok [⟨"__('a')".toList, ⟨none, "a", none⟩, ⟨0, 0⟩, ⟨7, 0⟩⟩,
        ⟨"__('b')".toList, ⟨none, "b", none⟩, ⟨10, 2⟩, ⟨17, 2⟩⟩] := by
  have named : Named (Function.ofBases ["__"]) := named_ofBases (by simp [isIdentifierChar])
  have scanned : (scan (Function.ofBases ["__"]) ("__('a')".toList ++ statementEnd)).result =
      .ok [⟨"__('a')".toList, ⟨none, "a", none⟩, ⟨0, 0⟩, ⟨7, 0⟩⟩] := by cbv
  have further : (scan (Function.ofBases ["__"]) "__('b')".toList).result =
      .ok [⟨"__('b')".toList, ⟨none, "b", none⟩, ⟨0, 0⟩, ⟨7, 0⟩⟩] := by cbv
  exact (scan_append_statementEnd named scanned "__('b')".toList).1 _ further

end MessageCatalog.Source
