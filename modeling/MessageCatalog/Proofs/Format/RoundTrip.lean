import MessageCatalog.Proofs.Entry.SortedDocument
import MessageCatalog.Proofs.Format

/-! What is written in one of the two document forms is read back: always in the plain form, and in the
wide form when no text holds a separator, which the wide form does not let stand in a string. -/

namespace MessageCatalog

/-- Spaces and tabs are blanks. -/
theorem Json.Style.blank_of_spaces {style : Style} (indented : ∀ c ∈ style.indent, c = ' ' ∨ c = '\t') :
    style.Blank := by
  intro c member
  rcases indented c member with rfl | rfl <;> rfl

/-- An entry that has every part, with controls, quotes and characters beyond ASCII in its texts. -/
def curiousEntry (line : Nat) : Entry where
  message := ⟨some "", "\"a\\b\"\n\t\x00\x7f/\u2027", some "é 😀"⟩
  translation := .forms ["", "x\r\ny", "null"]
  references := [⟨"src/odd name.js", line⟩, ⟨"", 0⟩]
  developerComments := ["", "# {}"]
  translatorComments := ["// no comment"]
  flags := ["fuzzy, c-format"]
  status := some .unused

/-- An entry whose text holds a separator of lines. -/
def brokenEntry : Entry where
  message := ⟨none, "a\u2028b", none⟩
  translation := .single ""

/-- A style with tabs, carriage returns and no end of the last line. -/
def curiousStyle : Json.Style := ⟨['\t', ' '], true, false⟩

/-- The curious style is indented by a tab and a space. -/
theorem curiousStyle_indent : ∀ c ∈ curiousStyle.indent, c = ' ' ∨ c = '\t' := by
  simp [curiousStyle]

section

variable {style : Json.Style} {entries : List Entry}

/-- Entries that pass are written in the plain form and read back as they are. -/
theorem Format.parse_stringify_json (indented : ∀ c ∈ style.indent, c = ' ' ∨ c = '\t')
    (valid : ∀ entry ∈ entries, entry.validate = .ok ())
    (small : ∀ entry ∈ entries, ∀ reference ∈ entry.references, reference.line < 2 ^ 64) :
    ∃ text, json.stringify style entries = .ok text ∧ json.parse text = .ok entries := by
  have flawless : ∀ entry ∈ entries, entry.defect? = none :=
    fun entry member => Entry.validate_eq_ok.1 (valid entry member)
  have counted : ∀ entry ∈ entries, ∀ reference ∈ entry.references, reference.line ≤ maxCount :=
    fun entry member reference inside => Nat.le_pred_of_lt (small entry member reference inside)
  exact ⟨_, stringify_of_valid .json style flawless,
    parse_write_json (Json.Style.blank_of_spaces indented) flawless counted⟩

/-- Curious entries are read back, the one with a separator and the largest line among them. -/
theorem Format.parse_stringify_json_curious :
    ∃ text, json.stringify curiousStyle [curiousEntry (2 ^ 64 - 1), brokenEntry] = .ok text ∧
      json.parse text = .ok [curiousEntry (2 ^ 64 - 1), brokenEntry] := by
  refine parse_stringify_json curiousStyle_indent ?_ ?_
  · simp only [List.forall_mem_cons]
    exact ⟨rfl, rfl, nofun⟩
  · decide

/-- The sorted documents of entries have numbers in the form of numbers. -/
theorem Entry.numbered_sortedDocuments (entries : List Entry) :
    (Json.Value.array (entries.map Entry.sortedDocument)).Numbered := by
  rw [Json.Value.Numbered, Json.Value.numberedItems_iff, List.forall_mem_map]
  exact fun entry _ => entry.numbered_sortedDocument

/-- What is written in the wide form is read back when no text holds a separator, and is no document
at all when one does. -/
theorem Format.parse_write_json5 (indented : style.Blank)
    (valid : ∀ entry ∈ entries, entry.defect? = none)
    (small : ∀ entry ∈ entries, ∀ reference ∈ entry.references, reference.line ≤ 2 ^ 53) :
    json5.parse (String.ofList (json5.write style entries)) =
      if (entries.flatMap Entry.texts).all Json5.isUnbroken then .ok entries else .error .json5 := by
  -- An array begins with a bracket, so that its text is not taken for a blank one.
  have begins : ∃ tail, Json5.write style (.array (entries.map Entry.sortedDocument)) = '[' :: tail := by
    cases entries <;> exact ⟨_, rfl⟩
  obtain ⟨tail, begins⟩ := begins
  rw [parse, write, String.toList_ofList, trim_ne_nil begins (by decide),
    Json5.read?_write indented (Entry.numbered_sortedDocuments entries), Json5.unlessBroken,
    Entry.all_texts_sortedDocuments]
  cases (entries.flatMap Entry.texts).all Json5.isUnbroken with
  | true => exact Entry.listOfDocument_sortedDocument valid small .json5
  | false => rfl

/-- Entries that pass are written in the wide form, and are read back as they are exactly when no text
of theirs holds a separator. -/
theorem Format.parse_stringify_json5 (indented : ∀ c ∈ style.indent, c = ' ' ∨ c = '\t')
    (valid : ∀ entry ∈ entries, entry.validate = .ok ())
    (small : ∀ entry ∈ entries, ∀ reference ∈ entry.references, reference.line ≤ 2 ^ 53) :
    ∃ text, json5.stringify style entries = .ok text ∧
      json5.parse text =
        if (entries.flatMap Entry.texts).all Json5.isUnbroken then .ok entries else .error .json5 := by
  have flawless : ∀ entry ∈ entries, entry.defect? = none :=
    fun entry member => Entry.validate_eq_ok.1 (valid entry member)
  exact ⟨_, stringify_of_valid .json5 style flawless,
    parse_write_json5 (Json.Style.blank_of_spaces indented) flawless small⟩

/-- A curious entry is read back with the largest line that is a double. -/
theorem Format.parse_stringify_json5_curious :
    ∃ text, json5.stringify curiousStyle [curiousEntry (2 ^ 53)] = .ok text ∧
      json5.parse text = .ok [curiousEntry (2 ^ 53)] := by
  have valid : ∀ entry ∈ [curiousEntry (2 ^ 53)], entry.validate = .ok () := by
    rw [List.forall_mem_singleton]
    rfl
  obtain ⟨text, written, read⟩ := parse_stringify_json5 curiousStyle_indent valid (by decide)
  exact ⟨text, written, read.trans (if_pos (by decide))⟩

/-- Not all entries are read back: one with a separator is written and then not read. -/
theorem Format.not_parse_stringify_json5 :
    ¬ ∀ (style : Json.Style) (entries : List Entry), (∀ c ∈ style.indent, c = ' ' ∨ c = '\t') →
      (∀ entry ∈ entries, entry.validate = .ok ()) →
      (∀ entry ∈ entries, ∀ reference ∈ entry.references, reference.line ≤ 2 ^ 53) →
      ∃ text, json5.stringify style entries = .ok text ∧ json5.parse text = .ok entries := by
  intro always
  have valid : ∀ entry ∈ [brokenEntry], entry.validate = .ok () := by
    rw [List.forall_mem_singleton]
    rfl
  have flawless : ∀ entry ∈ [brokenEntry], entry.defect? = none := by decide
  obtain ⟨text, written, read⟩ :=
    always curiousStyle [brokenEntry] curiousStyle_indent valid (by decide)
  rw [stringify_of_valid .json5 curiousStyle flawless] at written
  cases written
  have blank : curiousStyle.Blank := Json.Style.blank_of_spaces curiousStyle_indent
  -- The text of the entry holds a separator, at which its string breaks off.
  rw [parse_write_json5 blank flawless (by decide), if_neg (by decide)] at read
  cases read

end

end MessageCatalog
