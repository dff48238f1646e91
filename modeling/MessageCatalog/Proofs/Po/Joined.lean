import MessageCatalog.Proofs.Entry.Fault
import MessageCatalog.Proofs.Po.Reading

/-! A blank line keeps what is before it apart from what is behind it, so that two catalogs with one between
them are read one by one. -/

namespace MessageCatalog

/-- A fault of a catalog that stands behind some lines. -/
def CatalogFault.behind (before : Nat) : CatalogFault → CatalogFault
  | .line number fault => .line (before + number) fault
  | fault => fault

/-- What is behind a line feed begins on a new line. -/
theorem linesAfter_append_feed (begun text rest : List Char) :
    linesAfter begun (text ++ '\n' :: rest) = linesAfter begun (text ++ ['\n']) ++ lines rest := by
  -- By induction on the text; its own line feeds end the line that was begun.
  induction text generalizing begun with
  | nil => rw [List.nil_append, List.nil_append, linesAfter_feed, linesAfter_feed]; rfl
  | cons c text ih =>
    rw [List.cons_append, List.cons_append]
    by_cases feed : c = '\n'
    · rw [feed, linesAfter_feed, linesAfter_feed, ih, List.cons_append]
    · rw [linesAfter_other feed, linesAfter_other feed, ih]

namespace Po

namespace Reading

/-- A reading behind entries that were read before. -/
def onto (base : List Entry) (reading : Reading) : Reading :=
  { reading with entries := reading.entries ++ base }

/-- What a reading comes to behind lines that have given entries. -/
def moved (before : Nat) (base : List Entry) (result : Except CatalogFault Reading) :
    Except CatalogFault Reading :=
  (result.mapError (CatalogFault.behind before)).map (onto base)

/-- Steps are moved one by one. -/
theorem moved_bind (before : Nat) (base : List Entry) (first : Except CatalogFault Reading)
    {next next' : Reading → Except CatalogFault Reading}
    (each : ∀ reading, next' (reading.onto base) = moved before base (next reading)) :
    moved before base first >>= next' = moved before base (first >>= next) := by
  cases first with
  | error fault => rfl
  | ok reading => exact each reading

section

variable (before : Nat) (base : List Entry) (reading : Reading)

/-- A draft that cannot be finished is refused as an entry, wherever it stands. -/
theorem behind_of_finish {draft : Draft} {fault : CatalogFault} (failed : draft.finish = .error fault) :
    fault.behind before = fault := by
  -- The cases are those of finishing, and all of its faults tell of no line.
  unfold Draft.finish at failed
  split at failed
  · cases failed
  split at failed
  · cases failed
    rfl
  split at failed
  · cases failed
  split at failed
  · cases failed
    rfl
  · rename_i text _ _ _ translation _
    rcases bind_eq_error.1 failed with refused | ⟨⟨⟩, -, returned⟩
    · unfold Entry.validate at refused
      split at refused <;> cases refused
      rfl
    · cases returned

/-- Entries of before stay when a draft is finished. -/
theorem close_onto : (reading.onto base).close = moved before base reading.close := by
  have draft : (reading.onto base).draft = reading.draft := rfl
  rw [close, close, draft]
  cases finished : reading.draft.finish with
  | error fault => exact congrArg Except.error (behind_of_finish before finished).symm
  | ok entry => cases entry <;> rfl

/-- A comment joins the draft behind other lines as without them. -/
theorem note_onto (number : Nat) (comment : List Char) :
    (reading.onto base).note (before + number) comment =
      moved before base (reading.note number comment) := by
  have draft : (reading.onto base).draft = reading.draft := rfl
  rw [note, note, draft]
  cases reading.draft.addComment comment <;> rfl

/-- A line is added behind other lines as without them. -/
theorem add_onto (number : Nat) (line : List Char) :
    (reading.onto base).add (before + number) line = moved before base (reading.add number line) := by
  have draft (next : Reading) : (next.onto base).draft = next.draft := rfl
  unfold add
  cases Line.read (trim line) with
  | error fault => rfl
  | ok what =>
    -- One case for each kind of line; a comment and a field may finish the draft first.
    cases what with
    | blank => exact close_onto before base reading
    | comment comment =>
      simp only [mapError_ok, ok_bind, draft]
      by_cases fields : reading.draft.hasFields = true
      · rw [fields, close_onto before base reading]
        exact moved_bind before base _ fun next => note_onto before base next number comment
      · rw [Bool.not_eq_true] at fields
        rw [fields]
        exact note_onto before base reading number comment
    | field field value =>
      simp only [mapError_ok, ok_bind, draft]
      by_cases ends : reading.draft.endsBefore field = true
      · rw [ends, close_onto before base reading]
        exact moved_bind before base _ fun _ => rfl
      · rw [Bool.not_eq_true] at ends
        rw [ends]
        rfl
    -- A continuation goes on with the last field, and is a fault where there is none.
    | continuation value =>
      simp only [mapError_ok, ok_bind, draft]
      cases reading.draft.last <;> rfl

/-- Lines are added behind other lines as without them. -/
theorem addAll_onto (number : Nat) (lines : List (List Char)) :
    (reading.onto base).addAll (before + number) lines =
      moved before base (reading.addAll number lines) := by
  -- By induction on the lines: adding one onto other entries is adding it alone.
  induction lines generalizing reading number with
  | nil => rfl
  | cons line lines ih =>
    rw [addAll, addAll, add_onto before]
    exact moved_bind before base _ fun next => ih next (number + 1)

end

/-- Lines are added one part after the other. -/
theorem addAll_append (reading : Reading) (number : Nat) (lines others : List (List Char)) :
    reading.addAll number (lines ++ others) =
      reading.addAll number lines >>= fun next => next.addAll (number + lines.length) others := by
  -- By induction on the lines in front; the number of a line counts all of those before it.
  induction lines generalizing reading number with
  | nil => rfl
  | cons line lines ih =>
    rw [List.cons_append, addAll, addAll]
    cases reading.add number line with
    | error fault => rfl
    | ok next =>
      refine (ih next (number + 1)).trans ?_
      rw [Nat.add_right_comm, Nat.add_assoc]
      rfl

/-- A draft that was finished is empty. -/
theorem draft_of_close {reading after : Reading} (closed : reading.close = .ok after) :
    after = ⟨after.entries, {}⟩ := by
  obtain ⟨entry, -, returned⟩ := bind_eq_ok.1 closed
  cases entry <;> cases returned <;> rfl

/-- Finishing twice changes nothing more. -/
theorem close_close (reading : Reading) : reading.close >>= close = reading.close := by
  cases closed : reading.close with
  | error fault => rfl
  | ok after =>
    rw [draft_of_close closed]
    rfl

/-- A line by itself. -/
theorem addAll_singleton (reading : Reading) (number : Nat) (line : List Char) :
    reading.addAll number [line] = reading.add number line := by
  rw [addAll]
  cases reading.add number line <;> rfl

/-- A line without characters finishes the draft. -/
theorem add_nil (reading : Reading) (number : Nat) : reading.add number [] = reading.close := rfl

/-- The end of a line is no part of it. -/
theorem add_dropReturn (reading : Reading) (number : Nat) (line : List Char) :
    reading.add number (dropReturn line) = reading.add number line := by
  rw [add, add, trim_dropReturn]

/-- Line feeds at the end of a text do to it what its end does: they finish its last line and the draft. -/
theorem addAll_linesAfter_feeds (reading : Reading) (number : Nat) (begun text : List Char) :
    reading.addAll number (linesAfter begun (text ++ ['\n', '\n'])) =
      reading.addAll number (linesAfter begun text) >>= close := by
  -- By induction on the text; `begun` is what there is of its current line.
  induction text generalizing reading number begun with
  | nil =>
    have feeds : linesAfter begun ['\n', '\n'] = [dropReturn begun.reverse, []] := by
      rw [linesAfter_feed, linesAfter_feed]
      rfl
    rw [List.nil_append, feeds, addAll, add_dropReturn]
    simp only [addAll_singleton, add_nil]
    by_cases none : begun = []
    · rw [none]
      exact close_close reading
    · rw [linesAfter, if_neg (by simpa using none), addAll_singleton]
  | cons c text ih =>
    rw [List.cons_append]
    by_cases feed : c = '\n'
    · rw [feed, linesAfter_feed, linesAfter_feed, addAll, addAll]
      cases reading.add number (dropReturn begun.reverse) with
      | error fault => rfl
      | ok next => exact ih next (number + 1) []
    · rw [linesAfter_other feed, linesAfter_other feed, ih]

/-- The reading of a whole text. -/
def ofText (text : List Char) : Except CatalogFault Reading := addAll {} 0 (lines text) >>= close

/-- Behind a blank line a text is read as by itself, onto the entries of what is before it. -/
theorem ofText_append (first second : List Char) :
    ofText (first ++ ['\n', '\n'] ++ second) = ofText first >>= fun between =>
      moved (lines (first ++ ['\n', '\n'])).length between.entries (ofText second) := by
  have whole : lines (first ++ ['\n', '\n'] ++ second) =
      lines (first ++ ['\n', '\n']) ++ lines second := by
    have feeds : first ++ ['\n', '\n'] = (first ++ ['\n']) ++ ['\n'] := by simp
    rw [feeds, List.append_assoc, List.singleton_append]
    exact linesAfter_append_feed [] _ second
  have before : addAll {} 0 (lines (first ++ ['\n', '\n'])) = ofText first :=
    addAll_linesAfter_feeds {} 0 [] first
  rw [ofText, whole, addAll_append, before, Nat.zero_add, bind_assoc]
  cases read : ofText first with
  | error fault => rfl
  | ok between =>
    -- What is before the blank line has been finished, so that its entries are all that is left of it.
    obtain ⟨reading, -, closed⟩ := bind_eq_ok.1 read
    have start : between = onto between.entries {} := draft_of_close closed
    rw [ok_bind, ok_bind, ofText, ← moved_bind _ _ _ (close_onto _ between.entries),
      ← addAll_onto _ _ _ 0, Nat.add_zero, ← start]

end Reading

/-- A catalog has the entries of its reading, which are held with the last one first. -/
theorem parse_eq (text : List Char) :
    parse text = (Reading.ofText text).map fun reading => reading.entries.reverse := by
  rw [parse, Reading.ofText]
  cases Reading.addAll {} 0 (lines text) with
  | error fault => rfl
  | ok reading =>
    rw [ok_bind, ok_bind]
    cases reading.close <;> rfl

/-- Catalogs with a blank line between them are read one by one: the entries of the second follow those of
the first, a fault of the first comes before all else, and one of the second is told with the lines before it
counted. -/
theorem parse_append_blankLine (first second : List Char) :
    parse (first ++ ['\n', '\n'] ++ second) =
      match parse first, parse second with
      | .error fault, _ => .error fault
      | .ok _, .error fault => .error (fault.behind (lines (first ++ ['\n', '\n'])).length)
      | .ok entries, .ok others => .ok (entries ++ others) := by
  rw [parse_eq, parse_eq first, parse_eq second, Reading.ofText_append]
  -- The first text decides whether the second one is read at all.
  cases Reading.ofText first with
  | error fault => rfl
  | ok between =>
    cases Reading.ofText second with
    | error fault => rfl
    | ok after => exact congrArg Except.ok List.reverse_append

end Po

end MessageCatalog
