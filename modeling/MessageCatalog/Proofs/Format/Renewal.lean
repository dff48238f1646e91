import MessageCatalog.Proofs.Entry.MergeRules
import MessageCatalog.Proofs.Format.RoundTrip
import MessageCatalog.Proofs.Json.LineEnds
import MessageCatalog.Proofs.Po.Refused
import MessageCatalog.Proofs.Po.Rewrite

/-! A catalog text that was brought up to date is the same when it is brought up to date again. -/

namespace MessageCatalog

/-- A stored text brought up to date with the messages in use: the merged entries and their text, whose
lines end as those of the stored one. -/
def Format.renew (format : Format) (style : Json.Style) (live : LiveMessages) (pluralForms : Nat)
    (stored : String) : Except CatalogFault (List Entry × String) := do
  let merged := merge (← format.parse stored) live pluralForms
  let text ← format.stringify { style with crlf := Json.usesCrlf stored.toList } merged
  return (merged, text)

/-- A text can be brought up to date when its entries can be read and the merged ones written. -/
theorem Format.renew_eq_ok {format : Format} {style : Json.Style} {live : LiveMessages}
    {pluralForms : Nat} {stored text : String} {merged : List Entry} :
    format.renew style live pluralForms stored = .ok (merged, text) ↔
      ∃ entries, format.parse stored = .ok entries ∧ merged = merge entries live pluralForms ∧
        format.stringify { style with crlf := Json.usesCrlf stored.toList } merged = .ok text := by
  rw [renew, bind_eq_ok]
  refine exists_congr fun entries => and_congr_right fun _ => ?_
  rw [bind_eq_ok]
  constructor
  · rintro ⟨text, written, ⟨⟩⟩
    exact ⟨rfl, written⟩
  · rintro ⟨rfl, written⟩
    exact ⟨text, written, rfl⟩

/-- A text cannot be brought up to date when it is no catalog or the merged entries do not pass. -/
theorem Format.renew_eq_error {format : Format} {style : Json.Style} {live : LiveMessages}
    {pluralForms : Nat} {stored : String} {fault : CatalogFault} :
    format.renew style live pluralForms stored = .error fault ↔
      format.parse stored = .error fault ∨ ∃ entries, format.parse stored = .ok entries ∧
        validateAll (merge entries live pluralForms) = .error fault := by
  rw [renew, bind_eq_error]
  refine or_congr_right (exists_congr fun entries => and_congr_right fun _ => ?_)
  rw [bind_eq_error, stringify_eq_error]
  exact or_iff_left fun ⟨_, _, failed⟩ => nomatch failed

section

variable {test : Reference → Prop} {live : LiveMessages} {pluralForms : Nat} {stored : List Entry}

/-- What is merged of an entry without its empty comments, whatever its references are, is what is merged
of the entry, without its empty comments. -/
theorem mergeKey_cleared (references : Entry → List Reference) (stored : Option Entry) (key : Key) :
    mergeKey live pluralForms (stored.map fun entry => entry.cleared (references entry)) key =
      (mergeKey live pluralForms stored key).map Entry.withoutEmptyComments := by
  cases stored with
  | none => cases inUse : live.messages.get? key <;> simp only [mergeKey, inUse] <;> rfl
  | some old =>
    -- The translation is the same, and so the same case of the merge applies.
    rw [Option.map_some]
    cases done : old.isTranslated with
    | true =>
      have kept := filter_isTranslated done
      have kept' : (some (old.cleared (references old))).filter Entry.isTranslated =
          some (old.cleared (references old)) := filter_isTranslated done
      cases inUse : live.messages.get? key <;> simp only [mergeKey, inUse, kept, kept'] <;> rfl
    | false =>
      have dropped : (some old).filter Entry.isTranslated = none := by
        rw [Option.filter_some, done]
        rfl
      have dropped' : (some (old.cleared (references old))).filter Entry.isTranslated = none := by
        rw [Option.filter_some, show (old.cleared (references old)).isTranslated = false from done]
        rfl
      cases inUse : live.messages.get? key <;> simp only [mergeKey, inUse, dropped, dropped'] <;> rfl

/-- The entry that counts for a key is found among entries with the same keys. -/
theorem lastStored_map {retell : Entry → Entry} (keys : ∀ entry, (retell entry).key = entry.key)
    (stored : List Entry) (key : Key) :
    lastStored (stored.map retell) key = (lastStored stored key).map retell := by
  rw [lastStored, ← List.map_reverse, List.find?_map]
  simp only [Function.comp_def, keys]
  rfl

/-- What is merged of entries without their empty comments, whatever their references are, is what is
merged of the entries, without their empty comments. -/
theorem merge_cleared (sound : live.Sound test) (references : Entry → List Reference) :
    merge (stored.map fun entry => entry.cleared (references entry)) live pluralForms =
      (merge stored live pluralForms).map Entry.withoutEmptyComments := by
  have ascending : ((merge stored live pluralForms).map Entry.withoutEmptyComments).Pairwise
      fun a b => compare a.key b.key = .lt :=
    List.pairwise_map.2 (ascending_merge sound stored pluralForms)
  -- Both lists ascend, so it is enough that they have the same entries.
  refine SortedMap.eq_of_ascending Entry.key (ascending_merge sound _ _) ascending fun entry => ?_
  have keys (entry : Entry) : (entry.cleared (references entry)).key = entry.key := rfl
  rw [mem_merge sound, lastStored_map keys, mergeKey_cleared, List.mem_map, Option.map_eq_some_iff]
  refine exists_congr fun old => and_congr_left ?_
  rintro rfl
  have same : old.withoutEmptyComments.key = old.key := rfl
  rw [same]
  exact (mem_merge sound).symm

end

namespace Po

/-- Flags and comments of merged entries are those of stored ones. -/
theorem notes_merge {stored : List Entry} (settled : ∀ entry ∈ stored, Settled entry)
    (live : LiveMessages) (pluralForms : Nat) :
    ∀ entry ∈ merge stored live pluralForms,
      SettledNotes [] entry.developerComments entry.translatorComments entry.flags := by
  intro entry member
  obtain ⟨key, -, made⟩ := List.mem_filterMap.1 member
  rw [get?_entriesByKey_eq] at made
  have known {old : Entry} (found : lastStored stored key = some old) :
      SettledNotes [] old.developerComments old.translatorComments old.flags := by
    have notes := (settled old (lastStored_eq_some found).1).notes
    exact ⟨nofun, notes.developer, notes.translator, notes.flags⟩
  -- A kept entry has the notes of the stored one, and a new one for a stored key has them, too.
  rcases mergeKey_eq_some made with ⟨old, references, status, found, -, rfl, -⟩ | ⟨message, -, rfl⟩
  · have notes := known found
    exact notes
  · cases found : lastStored stored key with
    | none => exact ⟨nofun, nofun, nofun, nofun⟩
    | some old =>
      have notes := known found
      exact notes

end Po

/-- Without its empty comments an entry has none. -/
theorem Entry.withoutEmptyComments_withoutEmptyComments (entry : Entry) :
    entry.withoutEmptyComments.withoutEmptyComments = entry.withoutEmptyComments := by
  simp [withoutEmptyComments]

/-- An indentation by a width consists of spaces. -/
theorem Json.Style.spaces_ofWidth {width : Nat} {c : Char} (member : c ∈ (ofWidth width).indent) :
    c = ' ' :=
  List.eq_of_mem_replicate member

/-- An indentation by a width holds no carriage return. -/
theorem Json.Style.not_mem_indent_ofWidth (width : Nat) : '\r' ∉ (ofWidth width).indent :=
  fun member => absurd (spaces_ofWidth member) (by decide)

namespace Format

/-- A reference that a catalog text can hold: its file has a name without line feeds, and its line is not
out of range. -/
def Holds : Format → Reference → Prop
  | po, reference => '\n' ∉ reference.file.toList ∧ reference.line ≤ maxCount
  | json, reference => reference.line ≤ maxCount
  | json5, reference => reference.line ≤ 2 ^ 53

/-- The catalog texts for some messages in use can be read back whatever they translate: they do not have
the wide form, and no reference is to a file with a blank name. -/
def Rereads (format : Format) (live : LiveMessages) : Prop :=
  format ≠ .json5 ∧ (format = .po → live.Sound Reference.Legible)

section

variable {width : Nat} {live : LiveMessages} {pluralForms : Nat} {stored text : String}
  {merged : List Entry}

/-- Blocks of lines that were brought up to date stay as they are, if their references can be read. -/
theorem renew_renew_po {style : Json.Style} {test : Reference → Prop} (sound : live.Sound test)
    (counted : pluralForms ≤ maxCount)
    (renewed : po.renew style live pluralForms stored = .ok (merged, text))
    (legible : ∀ entry ∈ merged, ∀ reference ∈ entry.references, reference.Legible) :
    po.renew style live pluralForms text =
      .ok (merged.map Entry.withoutEmptyComments, text) := by
  obtain ⟨entries, parsed, rfl, written⟩ := renew_eq_ok.1 renewed
  obtain ⟨⟨⟩, passed, ⟨⟩⟩ := bind_eq_ok.1 written
  have valid := validateAll_eq_ok.1 passed
  have settled := settled_of_parse parsed
  have regular := Po.regular_merge (fun entry member => (settled entry member).writable.toRegular)
    live counted
  -- What is read back has its own references, which do not count, and lacks empty comments.
  have reread : (merge entries live pluralForms).map Po.reread =
      (merge entries live pluralForms).map fun entry =>
        entry.cleared (Po.rereadReferences entry.references) :=
    List.map_congr_left fun entry member =>
      Po.reread_eq_of_notes (Po.notes_merge settled live pluralForms entry member)
  rw [renew_eq_ok]
  refine ⟨_, parse_write_po _ fun entry member => (regular entry member).writable (valid entry member)
    (legible entry member), ?_, ?_⟩
  · rw [reread, merge_cleared sound, merge_merge sound]
  · have valid' : ∀ entry ∈ (merge entries live pluralForms).map Entry.withoutEmptyComments,
        entry.defect? = none := List.forall_mem_map.2 valid
    rw [stringify_of_valid _ _ valid', write, Po.write_withoutEmptyComments]
    rfl

/-- Blocks of lines that were brought up to date cannot be read again, if one of their references is to a
file with a blank name. -/
theorem renew_of_blank {style : Json.Style}
    (renewed : po.renew style live pluralForms stored = .ok (merged, text)) {entry : Entry}
    {reference : Reference} (member : entry ∈ merged) (inside : reference ∈ entry.references)
    (plain : '\n' ∉ reference.file.toList) (blank : trimStart reference.file.toList = []) :
    ∃ fault, po.renew style live pluralForms text = .error fault := by
  obtain ⟨entries, -, rfl, written⟩ := renew_eq_ok.1 renewed
  obtain ⟨⟨⟩, -, ⟨⟩⟩ := bind_eq_ok.1 written
  obtain ⟨fault, refused⟩ := Po.parse_write_of_blank member inside plain blank
  refine ⟨fault, ?_⟩
  rw [renew, parse_blocks, refused]
  rfl

/-- Entries that were merged are written as before when they are read back from a text whose lines end
as those of the stored one. -/
theorem renew_of_parse {format : Format} {style : Json.Style} {test : Reference → Prop}
    (sound : live.Sound test)
    (renewed : format.renew style live pluralForms stored = .ok (merged, text))
    (read : format.parse text = .ok merged)
    (feeds : Json.usesCrlf text.toList = Json.usesCrlf stored.toList) :
    format.renew style live pluralForms text = .ok (merged, text) := by
  obtain ⟨entries, -, rfl, written⟩ := renew_eq_ok.1 renewed
  rw [renew_eq_ok]
  refine ⟨_, read, (merge_merge sound).symm, ?_⟩
  rw [feeds]
  exact written

/-- The plain form that was brought up to date stays as it is. -/
theorem renew_renew_json (sound : live.Sound json.Holds)
    (renewed : json.renew (.ofWidth width) live pluralForms stored = .ok (merged, text)) :
    json.renew (.ofWidth width) live pluralForms text = .ok (merged, text) := by
  obtain ⟨entries, parsed, rfl, written⟩ := renew_eq_ok.1 renewed
  obtain ⟨⟨⟩, passed, ⟨⟩⟩ := bind_eq_ok.1 written
  -- What was written reads back as it was merged, with line ends of the same kind.
  refine renew_of_parse sound renewed ?_ ?_
  · refine parse_write_json (fun c member => ?_) (validateAll_eq_ok.1 passed)
      fun entry member => references_merge sound member
    rw [Json.Style.spaces_ofWidth member]
    rfl
  · rw [String.toList_ofList]
    refine Json.usesCrlf_write ?_ ?_ (Entry.numbered_documents _)
    · rfl
    · exact Json.Style.not_mem_indent_ofWidth width

/-- The wide form that was brought up to date stays as it is, or cannot be read. -/
theorem renew_renew_json5 (sound : live.Sound json5.Holds)
    (renewed : json5.renew (.ofWidth width) live pluralForms stored = .ok (merged, text)) :
    json5.renew (.ofWidth width) live pluralForms text =
      if (merged.flatMap Entry.texts).all Json5.isUnbroken then .ok (merged, text)
      else .error .json5 := by
  obtain ⟨entries, parsed, rfl, written⟩ := renew_eq_ok.1 renewed
  obtain ⟨⟨⟩, passed, ⟨⟩⟩ := bind_eq_ok.1 written
  -- The indent is of blanks, whatever the line ends are.
  have indented : Json.Style.Blank { Json.Style.ofWidth width with
      crlf := Json.usesCrlf stored.toList } := by
    intro c member
    rw [Json.Style.spaces_ofWidth member]
    rfl
  -- The text reads back unless a string holds a separator, which the wide form breaks off at.
  have read := parse_write_json5 indented (validateAll_eq_ok.1 passed)
    fun entry member => references_merge sound member
  split
  · rename_i whole
    rw [if_pos whole] at read
    refine renew_of_parse sound renewed read ?_
    rw [String.toList_ofList]
    refine Json5.usesCrlf_write ?_ ?_ (Entry.numbered_sortedDocuments _)
    · rfl
    · exact Json.Style.not_mem_indent_ofWidth width
  · -- What cannot be read cannot be brought up to date.
    rename_i broken
    rw [if_neg broken] at read
    rw [renew, read]
    rfl

/-- A catalog text that was brought up to date is the same when it is brought up to date again, with the
same entries but for empty comments, or it cannot be read. -/
theorem renew_renew {format : Format} (sound : live.Sound format.Holds)
    (counted : pluralForms ≤ maxCount)
    (renewed : format.renew (.ofWidth width) live pluralForms stored = .ok (merged, text)) :
    (∃ again, format.renew (.ofWidth width) live pluralForms text = .ok (again, text) ∧
      again.map Entry.withoutEmptyComments = merged.map Entry.withoutEmptyComments) ∨
    ¬ format.Rereads live ∧ ∃ fault,
      format.renew (.ofWidth width) live pluralForms text = .error fault := by
  -- Each format has a reason of its own for which its text may not be read again.
  cases format with
  | po =>
    by_cases legible : ∀ entry ∈ merged, ∀ reference ∈ entry.references, reference.Legible
    · refine .inl ⟨_, renew_renew_po sound counted renewed legible, ?_⟩
      rw [List.map_map]
      exact List.map_congr_left fun entry _ => entry.withoutEmptyComments_withoutEmptyComments
    · -- Some reference is not legible, which can only be because its file has a blank name.
      obtain ⟨entries, -, rfl, -⟩ := renew_eq_ok.1 renewed
      push Not at legible
      obtain ⟨entry, member, reference, inside, illegible⟩ := legible
      obtain ⟨plain, small⟩ := references_merge sound member reference inside
      have blank : trimStart reference.file.toList = [] := by
        rw [trimStart, List.dropWhile_eq_nil_iff]
        intro c within
        by_contra visible
        exact illegible ⟨plain, ⟨c, within, by simpa using visible⟩, small⟩
      refine .inr ⟨fun rereads => ?_, renew_of_blank renewed member inside plain blank⟩
      exact illegible (references_merge (rereads.2 rfl) member reference inside)
  -- A document is read back whatever its strings are.
  | json => exact .inl ⟨_, renew_renew_json sound renewed, rfl⟩
  | json5 =>
    have again := renew_renew_json5 sound renewed
    split at again
    · exact .inl ⟨_, again, rfl⟩
    · exact .inr ⟨fun rereads => rereads.1 rfl, _, again⟩

end

end Format

end MessageCatalog
