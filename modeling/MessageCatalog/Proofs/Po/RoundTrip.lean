import MessageCatalog.Proofs.Entry.Fault
import MessageCatalog.Proofs.Po.Reference

/-! A catalog of entries in which a reader trims nothing is read back as it was. -/

namespace MessageCatalog.Po

/-- A valid entry in which there is nothing for a reader to trim or to take for something else: file
names without blanks, flags and comments that keep to one piece, and numbers in 64 bits. -/
structure Trimmed (entry : Entry) : Prop where
  /-- The entry can be in a catalog. -/
  valid : entry.validate = .ok ()
  /-- Files have names without blanks. -/
  files : ∀ reference ∈ entry.references,
    reference.file ≠ "" ∧ ∀ c ∈ reference.file.toList, isBlank c = false
  /-- Lines are counted in 64 bits. -/
  lines : ∀ reference ∈ entry.references, reference.line ≤ maxCount
  /-- Flags are not empty and hold no separator. -/
  flags : ∀ flag ∈ entry.flags, flag ≠ "" ∧ ',' ∉ flag.toList ∧ '\n' ∉ flag.toList
  /-- Flags have no blanks at their ends. -/
  flagEnds : ∀ flag ∈ entry.flags, trim flag.toList = flag.toList
  /-- A status is no flag. -/
  noStatus : ∀ flag ∈ entry.flags, flag ≠ "new" ∧ flag ≠ "unused"
  /-- Comments are single lines with some text. -/
  comments : ∀ comment ∈ entry.translatorComments ++ entry.developerComments,
    comment ≠ "" ∧ '\n' ∉ comment.toList
  /-- Comments for translators have no blanks at their end. -/
  translatorEnds : ∀ comment ∈ entry.translatorComments, trimEnd comment.toList = comment.toList
  /-- Comments by developers have no blanks at either end. -/
  developerEnds : ∀ comment ∈ entry.developerComments, trim comment.toList = comment.toList
  /-- Forms are counted in 64 bits. -/
  forms : ∀ texts, entry.translation = .forms texts → texts.length ≤ maxCount

/-- An entry in which nothing is trimmed is settled. -/
theorem Trimmed.settled {entry : Entry} (trimmed : Trimmed entry) : Settled entry where
  valid := Entry.validate_eq_ok.1 trimmed.valid
  forms := fun texts forms => Nat.le_succ_of_le (trimmed.forms texts forms)
  notes := by
    -- The four kinds of notes: references, the comments of developers and of translators, and flags.
    constructor
    · intro reference member
      obtain ⟨nonempty, visible⟩ := trimmed.files reference member
      exact settledReference_of_visible nonempty visible (trimmed.lines reference member)
    · intro comment member
      obtain ⟨-, single⟩ := trimmed.comments comment (List.mem_append_right _ member)
      exact ⟨single, trimmed.developerEnds comment member⟩
    · intro comment member
      obtain ⟨-, single⟩ := trimmed.comments comment (List.mem_append_left _ member)
      exact ⟨single, trimmed.translatorEnds comment member⟩
    · intro flag member
      obtain ⟨nonempty, plain, single⟩ := trimmed.flags flag member
      obtain ⟨notNew, notUnused⟩ := trimmed.noStatus flag member
      have noStatus : Status.ofName? flag = none := by simp [Status.ofName?, notNew, notUnused]
      exact ⟨nonempty, plain, single, trimmed.flagEnds flag member, noStatus⟩

/-- An entry in which nothing is trimmed is read back as it is. -/
theorem reread_eq {entry : Entry} (trimmed : Trimmed entry) : reread entry = entry := by
  -- None of its comments is empty.
  have some (comments : List String)
      (part : ∀ comment ∈ comments, comment ∈ entry.translatorComments ++ entry.developerComments) :
      comments.filter (fun comment => !comment.isEmpty) = comments := by
    refine List.filter_eq_self.2 fun comment member => ?_
    simpa using (trimmed.comments comment (part comment member)).1
  rw [trimmed.settled.reread_eq, Entry.withoutEmptyComments,
    some entry.developerComments fun _ => List.mem_append_right _,
    some entry.translatorComments fun _ => List.mem_append_left _]

/-- An entry in which nothing is trimmed can be read back from its block. -/
theorem Trimmed.writable {entry : Entry} (trimmed : Trimmed entry) : Writable entry :=
  trimmed.settled.writable

/-- A catalog of entries in which nothing is trimmed is read back as it was written, whatever their
messages and translations are. -/
theorem parse_write_trimmed {entries : List Entry} (trimmed : ∀ entry ∈ entries, Trimmed entry) :
    parse (write entries) = .ok entries := by
  -- What is read back is known for all entries that can be written; here it is the same entry.
  have same : entries.map reread = entries := by
    rw [List.map_congr_left fun entry member => reread_eq (trimmed entry member), List.map_id']
  rw [parse_write fun entry member => (trimmed entry member).writable, same]

/-- An entry whose texts look like other parts of a catalog. -/
private def curious : Entry where
  message := ⟨some "#, fuzzy", "msgid \"\\n\"\t\r\n", some "two\nlines\n"⟩
  translation := .forms ["", "\x07#~ msgstr"]
  references := [⟨"a:b.js", 3⟩]
  developerComments := ["\"quoted\""]
  translatorComments := [" indented"]
  flags := ["c-format"]
  status := some .unused

/-- Nothing is trimmed in it. -/
private theorem trimmed_curious : Trimmed curious where
  valid := rfl
  files := by
    intro reference member
    obtain rfl := List.mem_singleton.1 member
    -- The colon of the name is no blank, and the line stands behind the last one.
    have visible : "a:b.js".toList.all (fun c => !isBlank c) = true := rfl
    refine ⟨by decide, fun c inside => ?_⟩
    simpa using List.all_eq_true.1 visible c inside
  lines := List.forall_mem_singleton.2 (by decide)
  flags := List.forall_mem_singleton.2 ⟨by decide, by decide, by decide⟩
  flagEnds := List.forall_mem_singleton.2 (by decide)
  noStatus := List.forall_mem_singleton.2 (by decide)
  comments := by
    intro comment member
    -- There is a note of a translator and one of a developer.
    rcases List.mem_cons.1 member with rfl | member
    · exact ⟨by decide, by decide⟩
    · obtain rfl := List.mem_singleton.1 member
      exact ⟨by decide, by decide⟩
  translatorEnds := List.forall_mem_singleton.2 (by decide)
  developerEnds := List.forall_mem_singleton.2 (by decide)
  forms := by
    rintro texts ⟨⟩
    decide

/-- Such an entry is read back with its quotes, controls and signs. -/
theorem parse_write_trimmed_curious :
    (∀ entry ∈ [curious], Trimmed entry) ∧ parse (write [curious]) = .ok [curious] := by
  have trimmed : ∀ entry ∈ [curious], Trimmed entry :=
    fun entry member => List.mem_singleton.1 member ▸ trimmed_curious
  exact ⟨trimmed, parse_write_trimmed trimmed⟩

end MessageCatalog.Po
