import MessageCatalog.Po.Catalog
import MessageCatalog.Proofs.Po.Line
import MessageCatalog.Proofs.SortedMap

/-! Lines take a reading from one state to the next, and those of a field give its whole text. -/

namespace MessageCatalog.Po

/-- A comment joins the draft of a reading. -/
def Reading.note (reading : Reading) (number : Nat) (comment : List Char) :
    Except CatalogFault Reading := do
  return { reading with draft := ← (reading.draft.addComment comment).mapError (.line number) }

/-- A text of whole lines takes one reading to another one, whatever stands behind it. -/
def Adds (before : Reading) (text : List Char) (after : Reading) : Prop :=
  ∀ number rest, ∃ number',
    before.addAll number (lines (text ++ rest)) = after.addAll number' (lines rest)

/-- Without lines a reading stays. -/
theorem adds_nothing (reading : Reading) : Adds reading [] reading :=
  fun number _ => ⟨number, rfl⟩

/-- One text after the other. -/
theorem Adds.append {before between after : Reading} {first second : List Char}
    (left : Adds before first between) (right : Adds between second after) :
    Adds before (first ++ second) after := by
  intro number rest
  obtain ⟨middle, began⟩ := left number (second ++ rest)
  obtain ⟨last, ended⟩ := right middle rest
  exact ⟨last, by rw [List.append_assoc, began, ended]⟩

/-- A line that can be added takes a reading on. -/
theorem adds_line {before after : Reading} {line : List Char} (plain : '\n' ∉ line)
    (added : ∀ number, before.add number (dropReturn line) = .ok after) :
    Adds before (line ++ ['\n']) after := by
  intro number rest
  refine ⟨number + 1, ?_⟩
  rw [List.append_assoc, List.singleton_append, lines_line plain, Reading.addAll, added]
  rfl

section

variable {reading : Reading} {line : List Char}

/-- A line that is read is what has been read. -/
theorem mapError_ok {ε ε' α : Type} (tell : ε → ε') (value : α) :
    (Except.ok value : Except ε α).mapError tell = .ok value := rfl

/-- A blank line ends the entry. -/
theorem adds_blank {after : Reading} (plain : '\n' ∉ line) (blank : trim line = [])
    (closed : reading.close = .ok after) : Adds reading (line ++ ['\n']) after := by
  -- The carriage return that a line may end in is trimmed with its blanks, in this and the next
  -- lemmas.
  refine adds_line plain fun number => ?_
  have read : Line.read (trim (dropReturn line)) = .ok .blank := by
    rw [trim_dropReturn, blank]
    rfl
  simp only [Reading.add, read, mapError_ok, bind, Except.bind, closed]

/-- A comment goes to the entry whose fields are still to come. -/
theorem adds_comment {comment : List Char} {draft : Draft} (plain : '\n' ∉ line)
    (read : Line.read (trim line) = .ok (.comment comment))
    (early : reading.draft.hasFields = false)
    (noted : reading.draft.addComment comment = .ok draft) :
    Adds reading (line ++ ['\n']) { reading with draft } := by
  refine adds_line plain fun number => ?_
  rw [← trim_dropReturn] at read
  simp only [Reading.add, read, early, noted, mapError_ok, bind, Except.bind, pure,
    Except.pure, Bool.false_eq_true, if_false]

/-- A field goes to the entry unless it begins the next one. -/
theorem adds_field {field : Field} {value : List Char} (plain : '\n' ∉ line)
    (read : Line.read (trim line) = .ok (.field field value))
    (stays : reading.draft.endsBefore field = false) :
    Adds reading (line ++ ['\n'])
      { reading with draft := { reading.draft.append field value with last := some field } } := by
  refine adds_line plain fun number => ?_
  rw [← trim_dropReturn] at read
  simp only [Reading.add, read, stays, mapError_ok, bind, Except.bind, pure, Except.pure,
    Bool.false_eq_true, if_false]

/-- A quoted text by itself goes to the last field. -/
theorem adds_continuation {field : Field} {value : List Char} (plain : '\n' ∉ line)
    (read : Line.read (trim line) = .ok (.continuation value))
    (last : reading.draft.last = some field) :
    Adds reading (line ++ ['\n']) { reading with draft := reading.draft.append field value } := by
  refine adds_line plain fun number => ?_
  rw [← trim_dropReturn] at read
  simp only [Reading.add, read, last, mapError_ok, bind, Except.bind, pure, Except.pure]

end

/-- The segments of a text make up the text. -/
theorem flatten_lineSegments (text : List Char) : (lineSegments text).flatten = text := by
  -- Only a line feed ends a segment; any other character joins the one that follows.
  induction text with
  | nil => rfl
  | cons c rest ih =>
    unfold lineSegments
    split
    · rw [List.flatten_cons, ih, List.singleton_append]
    · split
      · rename_i none
        rw [none] at ih
        simp [← ih]
      · rename_i segment segments some
        rw [some, List.flatten_cons] at ih
        rw [List.flatten_cons, List.cons_append, ih]

/-- Two pieces of a text are added to a field as the whole text is. -/
theorem append_append (draft : Draft) (field : Field) (last : Option Field)
    (first second : List Char) :
    ({ draft.append field first with last }).append field second =
      { draft.append field (first ++ second) with last } := by
  -- A form is stored by its index, so the second piece finds the first one there.
  cases field with
  | form index =>
    simp only [Draft.append, SortedMap.get?_insert, Std.ReflCmp.compare_self, if_true,
      SortedMap.insert_insert, Option.getD_some, String.append_assoc, String.ofList_append]
  | _ => simp only [Draft.append, Option.getD_some, String.append_assoc, String.ofList_append]

/-- Quoted texts on lines of their own are added to the last field. -/
theorem adds_quoted (entries : List Entry) (draft : Draft) (field : Field) (start : List Char)
    (segments : List (List Char)) :
    Adds ⟨entries, { draft.append field start with last := some field }⟩
      (segments.flatMap writeQuoted)
      ⟨entries, { draft.append field (start ++ segments.flatten) with last := some field }⟩ := by
  -- By induction on the segments; `start` is what the field has got from those before.
  induction segments generalizing start with
  | nil =>
    rw [List.flatten_nil, List.append_nil]
    exact adds_nothing _
  | cons segment segments ih =>
    have line : writeQuoted segment = inQuotes segment ++ ['\n'] := by
      rw [writeQuoted, inQuotes, List.cons_append, List.cons_append, List.append_assoc]
      rfl
    rw [List.flatMap_cons, line, List.flatten_cons, ← List.append_assoc start]
    refine Adds.append ?_ (ih (start ++ segment))
    rw [← append_append]
    exact adds_continuation (not_mem_inQuotes segment) (read_inQuotes segment) rfl

/-- The lines of a field give its text, in one piece or in several. -/
theorem adds_writeField (entries : List Entry) (draft : Draft) {field : Field} (fits : field.Fits)
    (stays : draft.endsBefore field = false) (text : String) :
    Adds ⟨entries, draft⟩ (writeField field.keyword text)
      ⟨entries, { draft.append field text.toList with last := some field }⟩ := by
  -- A field in one piece stands on the line of its keyword.
  have keywordLine (value : List Char) :
      Adds ⟨entries, draft⟩ (field.keyword.toList ++ ' ' :: inQuotes value ++ ['\n'])
        ⟨entries, { draft.append field value with last := some field }⟩ := by
    refine adds_field ?_ (read_keyword fits value) stays
    rw [List.mem_append, List.mem_cons]
    rintro (inKeyword | blank | inText)
    · exact not_mem_keyword field inKeyword
    · cases blank
    · exact not_mem_inQuotes value inText
  unfold writeField
  split
  · rename_i first second rest segmented
    have whole : (first :: second :: rest).flatten = text.toList := by
      rw [← segmented, flatten_lineSegments]
    -- The field begins as an empty text, and its segments follow on lines of their own.
    have further := adds_quoted entries draft field [] (first :: second :: rest)
    rw [List.nil_append, whole] at further
    have written := (keywordLine []).append further
    simpa [inQuotes, escape] using written
  · have written := keywordLine text.toList
    simpa [inQuotes, writeQuoted] using written

end MessageCatalog.Po
