import MessageCatalog.Proofs.Po.Parsed

/-! A catalog that was read and written again does not change any more. -/

namespace MessageCatalog.Po

/-- An empty comment has no line. -/
theorem flatMap_writeComment_filter (sign : String) (comments : List String) :
    (comments.filter fun comment => !comment.isEmpty).flatMap (writeComment sign) =
      comments.flatMap (writeComment sign) := by
  -- Only the empty comments are left out, none of which has a line to write.
  induction comments with
  | nil => rfl
  | cons comment comments ih =>
    by_cases empty : comment = ""
    · rw [empty, List.filter_cons_of_neg (by decide), ih]
      rfl
    · rw [List.filter_cons_of_pos (by simpa using empty), List.flatMap_cons, ih, List.flatMap_cons]

/-- Empty comments are not written. -/
theorem write_withoutEmptyComments (entries : List Entry) :
    write (entries.map Entry.withoutEmptyComments) = write entries := by
  -- An empty comment has no lines, so nothing is written for it.
  have each (entry : Entry) : writeEntry entry.withoutEmptyComments = writeEntry entry := by
    unfold writeEntry Entry.withoutEmptyComments
    dsimp only
    rw [flatMap_writeComment_filter, flatMap_writeComment_filter]
    rfl
  rw [write, write, List.flatMap_map]
  exact congrArg (header ++ ·) (List.flatMap_congr fun entry _ => each entry)

/-- What is read from a catalog is read again from what is written of it, but for empty comments, and
is written as before. -/
theorem parse_write_of_parse {text : List Char} {entries : List Entry}
    (parsed : parse text = .ok entries) :
    parse (write entries) = .ok (entries.map Entry.withoutEmptyComments) ∧
      write (entries.map Entry.withoutEmptyComments) = write entries := by
  -- A reader trims all that it reads, so that nothing is left to trim when it reads it again.
  have settled := settled_of_parse parsed
  have reread : entries.map reread = entries.map Entry.withoutEmptyComments :=
    List.map_congr_left fun entry member => (settled entry member).reread_eq
  refine ⟨?_, write_withoutEmptyComments entries⟩
  rw [parse_write fun entry member => (settled entry member).writable, reread]

/-- A text as a person may leave it: blanks around lines, an empty comment, a file name with a blank
and a sign before its line, two references in a line, a flag without text, a repeated keyword, an
escape that means nothing and a form that was left out. -/
private def handEdited : List Char :=
  ("#\n #  two \n#: my file.js:+04 \n#: a.js:1\tb.js:2\n#, fuzzy ,,new\n" ++
    "msgctxt \"k\"\nmsgctxt \"\"\nmsgid \"\\q\"\nmsgid_plural \"c\"\nmsgstr[1] \"x\"\n\"y\"").toList

/-- What is read from it. -/
private def handEditedEntry : Entry where
  message := ⟨some "k", "\\q", some "c"⟩
  translation := .forms ["", "xy"]
  references := [⟨"my file.js", 4⟩, ⟨"a.js", 1⟩, ⟨"b.js", 2⟩]
  translatorComments := ["", " two"]
  flags := ["fuzzy"]
  status := some .new

/-- Such a text loses its empty comment when it is written, and nothing else. -/
theorem parse_write_of_parse_handEdited :
    parse handEdited = .ok [handEditedEntry] ∧
      parse (write [handEditedEntry]) = .ok [{ handEditedEntry with translatorComments := [" two"] }] ∧
      write [{ handEditedEntry with translatorComments := [" two"] }] = write [handEditedEntry] := by
  have parsed : parse handEdited = .ok [handEditedEntry] := by decide +kernel
  have cleared : [handEditedEntry].map Entry.withoutEmptyComments =
      [{ handEditedEntry with translatorComments := [" two"] }] := by decide
  obtain ⟨again, same⟩ := parse_write_of_parse parsed
  rw [cleared] at again same
  exact ⟨parsed, again, same⟩

end MessageCatalog.Po
