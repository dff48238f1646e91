import MessageCatalog.Proofs.Po.Reference

/-! A catalog is refused when one of its references cannot be read back. -/

namespace MessageCatalog.Po

/-- A line that ends any reading with a fault. -/
def Refused (line : List Char) : Prop :=
  ∀ (reading : Reading) (number : Nat), ∃ fault, reading.add number line = .error fault

/-- A text that ends with a line feed behind one. -/
def EndsLine (text : List Char) : Prop := ∃ front, '\n' :: text = front ++ ['\n']

section

variable {line : List Char}

/-- A line behind a line feed is a line of the whole text. -/
theorem mem_lines_of_behind {rest : List Char} (member : line ∈ lines rest) (front : List Char) :
    line ∈ lines (front ++ '\n' :: rest) := by
  -- By induction on the text in front; each of its line feeds ends the line that was begun.
  suffices general : ∀ begun, line ∈ linesAfter begun (front ++ '\n' :: rest) from general []
  induction front with
  | nil =>
    intro begun
    rw [List.nil_append, linesAfter_feed]
    exact .tail _ member
  | cons c front ih =>
    intro begun
    rw [List.cons_append]
    by_cases feed : c = '\n'
    · rw [feed, linesAfter_feed]
      exact .tail _ (ih [])
    · rw [linesAfter_other feed]
      exact ih (c :: begun)

/-- A refused line ends the reading of the lines that it is among. -/
theorem addAll_of_refused {text : List (List Char)} (refused : Refused line) (member : line ∈ text)
    (reading : Reading) (number : Nat) : ∃ fault, reading.addAll number text = .error fault := by
  -- By induction on the lines: the reading may fail earlier, but it does not come past this line.
  induction text generalizing reading number with
  | nil => cases member
  | cons first text ih =>
    rw [Reading.addAll]
    rcases List.mem_cons.1 member with rfl | later
    · obtain ⟨fault, failed⟩ := refused reading number
      exact ⟨fault, by rw [failed]; rfl⟩
    · cases added : reading.add number first with
      | error fault => exact ⟨fault, rfl⟩
      | ok next => exact ih later next (number + 1)

/-- A text with a refused line is no catalog. -/
theorem parse_of_refused {text : List Char} (refused : Refused line) (member : line ∈ lines text) :
    ∃ fault, parse text = .error fault := by
  obtain ⟨fault, failed⟩ := addAll_of_refused refused member {} 0
  exact ⟨fault, by rw [parse, failed]; rfl⟩

end

section

variable {reference : Reference}

/-- The line of a reference from which nothing can be read is refused. -/
theorem refused_referenceLine (unread : references? (trim (toString reference).toList) = none) :
    Refused (dropReturn ('#' :: ':' :: ' ' :: (toString reference).toList)) := by
  intro reading number
  have failed (draft : Draft) : ∃ fault,
      draft.addComment (':' :: trimEnd (' ' :: (toString reference).toList)) = .error fault := by
    rw [Draft.addComment, trim_trimEnd_blank (by decide), unread]
    exact ⟨_, rfl⟩
  rw [Reading.add, trim_dropReturn, read_referenceLine]
  cases fields : reading.draft.hasFields with
  | false =>
    obtain ⟨fault, failed⟩ := failed reading.draft
    refine ⟨.line number fault, ?_⟩
    simp only [bind, Except.bind, Bool.false_eq_true, if_false, pure, Except.pure, failed,
      Except.mapError]
  | true =>
    -- Closing the entry above may fail, too.
    cases closed : reading.close with
    | error fault => exact ⟨fault, by simp only [mapError_ok, bind, Except.bind, if_true]⟩
    | ok next =>
      obtain ⟨fault, failed⟩ := failed next.draft
      refine ⟨.line number fault, ?_⟩
      simp only [bind, Except.bind, if_true, failed, Except.mapError]

/-- Nothing can be read from a reference to a file with a blank name. -/
theorem references?_of_blank (blank : trimStart reference.file.toList = []) :
    references? (trim (toString reference).toList) = none := by
  have noColon := not_mem_toDigits_colon reference.line
  have visible : ∀ c ∈ ':' :: Nat.toDigits 10 reference.line, isBlank c = false :=
    List.forall_mem_cons.2 ⟨by decide, fun _ member =>
      isBlank_of_isDigit (isDigit_of_mem_toDigits member)⟩
  -- What is left of it begins with the colon, and is one word.
  have spelled : trim (toString reference).toList = ':' :: Nat.toDigits 10 reference.line := by
    rw [toList_reference, trim, trimStart, List.dropWhile_append_of_pos
      (List.dropWhile_eq_nil_iff.1 blank), ← trimStart, ← trim, trim_of_visible visible]
  have unread : reference? (':' :: Nat.toDigits 10 reference.line) = none :=
    (reference?_colon noColon []).trans (if_pos rfl)
  rw [spelled, references?, words_of_visible (List.cons_ne_nil _ _) visible]
  simp only [List.mapM_cons, unread]
  rfl

end

theorem EndsLine.append {first second : List Char} (left : EndsLine first)
    (right : EndsLine second) : EndsLine (first ++ second) := by
  obtain ⟨front, ended⟩ := left
  obtain ⟨behind, ended'⟩ := right
  refine ⟨front ++ behind, ?_⟩
  rw [← List.cons_append, ended, List.append_assoc, List.singleton_append, ended',
    List.append_assoc]

theorem endsLine_flatMap {α : Type} {items : List α} {text : α → List Char}
    (each : ∀ item ∈ items, EndsLine (text item)) : EndsLine (items.flatMap text) := by
  induction items with
  | nil => exact ⟨[], rfl⟩
  | cons item items ih =>
    rw [List.flatMap_cons]
    exact (each item (.head _)).append (ih fun other member => each other (.tail _ member))

theorem endsLine_append_singleton (text : List Char) : EndsLine (text ++ ['\n']) :=
  ⟨'\n' :: text, rfl⟩

/-- The references of entries stand on lines of their own. -/
theorem mem_lines_write {entries : List Entry} {entry : Entry} {reference : Reference}
    (member : entry ∈ entries) (inside : reference ∈ entry.references)
    (plain : '\n' ∉ reference.file.toList) :
    dropReturn ('#' :: ':' :: ' ' :: (toString reference).toList) ∈ lines (write entries) := by
  obtain ⟨before, after, rfl⟩ := List.append_of_mem member
  obtain ⟨first, rest, references⟩ := List.append_of_mem inside
  -- The notes and references in front of this one are whole lines.
  have comments (sign : String) (comments : List String) :
      EndsLine (comments.flatMap (writeComment sign)) :=
    endsLine_flatMap fun _ _ => endsLine_flatMap fun _ _ => endsLine_append_singleton _
  have referenceLines : EndsLine
      (first.flatMap fun reference => s!"#: {reference}\n".toList) := by
    refine endsLine_flatMap fun other _ => ?_
    rw [toList_referenceLine]
    exact endsLine_append_singleton _
  -- A line feed stands in front of the line, at the end of the block so far.
  obtain ⟨front, ended⟩ := ((comments "# " entry.translatorComments).append
    (comments "#. " entry.developerComments)).append referenceLines
  obtain ⟨behind, block⟩ : ∃ behind, writeEntry entry =
      (front ++ ['\n']) ++ (s!"#: {reference}\n".toList ++ behind) := by
    refine ⟨(rest.flatMap fun reference => s!"#: {reference}\n".toList) ++ writeFlags entry ++
      (entry.message.context.map (writeField "msgctxt")).getD [] ++
      writeField "msgid" entry.message.text ++
      (entry.message.plural.map (writeField "msgid_plural")).getD [] ++
      writeTranslation entry.translation, ?_⟩
    rw [← ended, writeEntry, references, List.flatMap_append, List.flatMap_cons]
    simp only [List.cons_append, List.append_assoc]
  -- The line of the reference stands between the blocks before and those after it.
  obtain ⟨start, whole⟩ : ∃ start, write (before ++ entry :: after) = start ++ '\n' ::
      ('#' :: ':' :: ' ' :: (toString reference).toList ++ '\n' ::
        (behind ++ after.flatMap writeEntry)) := by
    refine ⟨header ++ before.flatMap writeEntry ++ front, ?_⟩
    rw [write, List.flatMap_append, List.flatMap_cons, block, toList_referenceLine]
    simp only [List.cons_append, List.append_assoc, List.nil_append]
  rw [whole]
  refine mem_lines_of_behind ?_ start
  rw [lines_line (not_mem_referenceLine plain)]
  exact .head _

/-- A catalog is refused that has a reference to a file with a blank name. -/
theorem parse_write_of_blank {entries : List Entry} {entry : Entry} {reference : Reference}
    (member : entry ∈ entries) (inside : reference ∈ entry.references)
    (plain : '\n' ∉ reference.file.toList) (blank : trimStart reference.file.toList = []) :
    ∃ fault, parse (write entries) = .error fault :=
  parse_of_refused (refused_referenceLine (references?_of_blank blank))
    (mem_lines_write member inside plain)

end MessageCatalog.Po
