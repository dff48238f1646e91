import Mathlib.Data.List.SplitBy
import MessageCatalog.Proofs.Po.Catalog

/-! Notes in which a reader finds nothing to trim, and takes nothing for something else, are read back as
they are, except for empty comments. -/

namespace MessageCatalog

/-- An entry without its empty comments. -/
def Entry.withoutEmptyComments (entry : Entry) : Entry :=
  { entry with
    developerComments := entry.developerComments.filter fun comment => !comment.isEmpty
    translatorComments := entry.translatorComments.filter fun comment => !comment.isEmpty }

/-- An entry without its empty comments, and with other references. -/
def Entry.cleared (entry : Entry) (references : List Reference) : Entry :=
  { entry.withoutEmptyComments with references }

namespace Po

/-- A flag that is read back as it is. -/
structure SettledFlag (flag : String) : Prop where
  nonempty : flag ≠ ""
  plain : ',' ∉ flag.toList
  single : '\n' ∉ flag.toList
  kept : trim flag.toList = flag.toList
  noStatus : Status.ofName? flag = none

/-- A comment of one line in which nothing is trimmed. -/
structure SettledComment (trimmed : List Char → List Char) (comment : String) : Prop where
  single : '\n' ∉ comment.toList
  kept : trimmed comment.toList = comment.toList

/-- A reference that is read back from its own line as it is. -/
structure SettledReference (reference : Reference) : Prop where
  single : '\n' ∉ reference.file.toList
  found : references? (trim (toString reference).toList) = some [reference]

/-- The notes of an entry that are read back as they are. -/
structure SettledNotes (references : List Reference) (developer translator flags : List String) :
    Prop where
  references : ∀ reference ∈ references, SettledReference reference
  developer : ∀ comment ∈ developer, SettledComment trim comment
  translator : ∀ comment ∈ translator, SettledComment trimEnd comment
  flags : ∀ flag ∈ flags, SettledFlag flag

/-- A valid entry whose notes are read back as they are and whose forms are counted. -/
structure Settled (entry : Entry) : Prop where
  valid : entry.defect? = none
  forms : ∀ texts, entry.translation = .forms texts → texts.length ≤ maxCount + 1
  notes : SettledNotes entry.references entry.developerComments entry.translatorComments entry.flags

/-- A text that is not empty has characters. -/
theorem toList_ne_nil {text : String} (nonempty : text ≠ "") : text.toList ≠ [] :=
  fun none => nonempty (String.toList_eq_nil_iff.1 none)

/-- Without line feeds there is one line. -/
theorem lines_of_single {text : List Char} (nonempty : text ≠ []) (single : '\n' ∉ text) :
    lines text = [text] := by
  -- The line that was begun takes up all characters, whatever is in it already.
  suffices general : ∀ begun, begun ++ text ≠ [] →
      linesAfter begun text = [begun.reverse ++ text] from general [] nonempty
  clear nonempty
  induction text with
  | nil =>
    intro begun nonempty
    rw [List.append_nil] at nonempty
    simp [linesAfter, nonempty]
  | cons c text ih =>
    intro begun _
    have other : c ≠ '\n' := by
      rintro rfl
      exact single (.head _)
    rw [linesAfter_other other, ih (fun member => single (.tail _ member)) _ (by simp)]
    simp

/-- Comments of one line each are read back when trimming changes none, but for the empty ones, which
have no line. -/
theorem rereadComments_eq {trimmed : List Char → List Char} {comments : List String}
    (settled : ∀ comment ∈ comments, SettledComment trimmed comment) :
    rereadComments trimmed comments = comments.filter fun comment => !comment.isEmpty := by
  -- Each other comment is one line of the catalog.
  induction comments with
  | nil => rfl
  | cons comment comments ih =>
    obtain ⟨single, kept⟩ := settled comment (.head _)
    have others := ih fun other member => settled other (.tail _ member)
    unfold rereadComments at others ⊢
    rw [List.flatMap_cons, others]
    by_cases empty : comment = ""
    · rw [empty]
      rfl
    · rw [lines_of_single (toList_ne_nil empty) single, List.map_singleton, kept,
        String.ofList_toList, List.filter_cons_of_pos (by simpa using empty)]
      rfl

/-- References that are read back one by one are read back together. -/
theorem rereadReferences_eq {references : List Reference}
    (settled : ∀ reference ∈ references, SettledReference reference) :
    rereadReferences references = references := by
  -- By induction on the references, each of which is read from a line of its own.
  induction references with
  | nil => rfl
  | cons reference references ih =>
    have others := ih fun other member => settled other (.tail _ member)
    unfold rereadReferences at others ⊢
    rw [List.flatMap_cons, (settled reference (.head _)).found, others]
    rfl

/-- Up to a comma there is one piece. -/
theorem splitCommas_piece {piece : List Char} (plain : ',' ∉ piece) (rest : List Char) :
    splitCommas (piece ++ ',' :: rest) = piece :: splitCommas rest := by
  -- Every character of the piece is kept in front of the rest of it.
  induction piece with
  | nil => simp [splitCommas]
  | cons c piece ih =>
    have other : c ≠ ',' := by
      rintro rfl
      exact plain (.head _)
    rw [List.cons_append, splitCommas, if_neg other, ih fun member => plain (.tail _ member)]

/-- Without commas there is one piece. -/
theorem splitCommas_single {piece : List Char} (plain : ',' ∉ piece) :
    splitCommas piece = [piece] := by
  -- The end of the text ends the only piece.
  induction piece with
  | nil => rfl
  | cons c piece ih =>
    have other : c ≠ ',' := by
      rintro rfl
      exact plain (.head _)
    rw [splitCommas, if_neg other, ih fun member => plain (.tail _ member)]

/-- The pieces of joined flags are the flags, each behind a blank. -/
theorem splitCommas_intercalate {flag : String} {flags : List String}
    (plain : ∀ other ∈ flag :: flags, ',' ∉ other.toList) :
    splitCommas (' ' :: (", ".intercalate (flag :: flags)).toList) =
      (flag :: flags).map fun other => ' ' :: other.toList := by
  -- The induction is on the flags behind the first one.
  induction flags generalizing flag with
  | nil =>
    rw [String.intercalate_singleton]
    refine splitCommas_single ?_
    rintro (- | ⟨-, member⟩)
    exact plain flag (.head _) member
  | cons second flags ih =>
    -- The comma of the separator ends the first piece, and its blank begins the next one.
    have spelled : ' ' :: (", ".intercalate (flag :: second :: flags)).toList =
        (' ' :: flag.toList) ++ ',' :: ' ' :: (", ".intercalate (second :: flags)).toList := by
      rw [String.intercalate_cons_cons]
      simp
    have first : ',' ∉ ' ' :: flag.toList := by
      rintro (- | ⟨-, member⟩)
      exact plain flag (.head _) member
    rw [spelled, splitCommas_piece first, ih fun other member => plain other (.tail _ member)]
    rfl

/-- What ends with a text that keeps its end keeps it too. -/
theorem trimEnd_append_of_kept {text : List Char} (nonempty : text ≠ [])
    (kept : trimEnd text = text) (front : List Char) : trimEnd (front ++ text) = front ++ text := by
  -- Trimming stops at the text that keeps its end, which is not empty.
  induction front with
  | nil => exact kept
  | cons c front ih =>
    rw [List.cons_append, trimEnd_cons_eq, ih, if_neg]
    simp [nonempty]

/-- Trimming the start of a text that is not trimmed at all changes nothing. -/
theorem trimEnd_of_trim {text : List Char} (kept : trim text = text) : trimEnd text = text := by
  rw [← kept, trim, trimEnd_trimEnd]

/-- Joined flags keep their end. -/
theorem trimEnd_intercalate {flag : String} {flags : List String}
    (nonempty : ∀ other ∈ flag :: flags, other ≠ "")
    (kept : ∀ other ∈ flag :: flags, trim other.toList = other.toList) :
    trimEnd (", ".intercalate (flag :: flags)).toList = (", ".intercalate (flag :: flags)).toList ∧
      (", ".intercalate (flag :: flags)).toList ≠ [] := by
  -- The last flag is the end of the joined text.
  induction flags generalizing flag with
  | nil =>
    rw [String.intercalate_singleton]
    exact ⟨trimEnd_of_trim (kept flag (.head _)), toList_ne_nil (nonempty flag (.head _))⟩
  | cons second flags ih =>
    obtain ⟨same, more⟩ := ih (fun other member => nonempty other (.tail _ member))
      (fun other member => kept other (.tail _ member))
    rw [String.intercalate_cons_cons, String.toList_append]
    exact ⟨trimEnd_append_of_kept more same _, by simp⟩

/-- A settled flag is kept. -/
theorem addFlag_kept (draft : Draft) {flag : String} (settled : SettledFlag flag) :
    draft.addFlag (' ' :: flag.toList) = { draft with flags := draft.flags ++ [flag] } := by
  -- The blank is the one of the separator.
  have trimmed : trim (' ' :: flag.toList) = flag.toList := by
    rw [trim, trimStart, List.dropWhile_cons, if_pos (by decide), ← trimStart, ← trim, settled.kept]
  unfold Draft.addFlag
  rw [trimmed, String.ofList_toList]
  simp [settled.nonempty, settled.noStatus]

/-- Settled flags are kept in their order. -/
theorem foldl_addFlag_kept (draft : Draft) {flags : List String}
    (settled : ∀ flag ∈ flags, SettledFlag flag) :
    (flags.map fun flag => ' ' :: flag.toList).foldl Draft.addFlag draft =
      { draft with flags := draft.flags ++ flags } := by
  -- Flags are added one behind the other.
  induction flags generalizing draft with
  | nil => simp
  | cons flag flags ih =>
    rw [List.map_cons, List.foldl_cons, addFlag_kept draft (settled flag (.head _)),
      ih _ fun other member => settled other (.tail _ member)]
    simp

/-- The word of a status is read as that status. -/
theorem addFlag_status (draft : Draft) (status : Status) :
    draft.addFlag (' ' :: status.name.toList) = { draft with status := some status } := by
  cases status <;> rfl

/-- The flags that are written are added one by one. -/
theorem rereadFlags_eq_foldl {entry : Entry} {flags : List String}
    (written : (entry.status.map Status.name).toList ++ entry.flags = flags)
    (nonempty : ∀ flag ∈ flags, flag ≠ "") (plain : ∀ flag ∈ flags, ',' ∉ flag.toList)
    (kept : ∀ flag ∈ flags, trim flag.toList = flag.toList) :
    rereadFlags entry = (flags.map fun flag => ' ' :: flag.toList).foldl Draft.addFlag {} := by
  -- The last flag keeps the end of the line, so trimming takes nothing away.
  rw [rereadFlags, written]
  cases flags with
  | nil => rfl
  | cons flag flags =>
    obtain ⟨same, more⟩ := trimEnd_intercalate nonempty kept
    dsimp only
    have end_kept := trimEnd_append_of_kept more same [' ']
    rw [List.singleton_append] at end_kept
    rw [end_kept, splitCommas_intercalate plain]

/-- The words of statuses are flags that are not trimmed. -/
theorem name_of_status (status : Status) :
    status.name ≠ "" ∧ ',' ∉ status.name.toList ∧ trim status.name.toList = status.name.toList := by
  cases status <;> exact ⟨by decide, by decide, by decide⟩

/-- Flags and status are read back. -/
theorem rereadFlags_eq {entry : Entry} (settled : ∀ flag ∈ entry.flags, SettledFlag flag) :
    (rereadFlags entry).flags = entry.flags ∧ (rereadFlags entry).status = entry.status := by
  have each (flag : String)
      (member : flag ∈ (entry.status.map Status.name).toList ++ entry.flags) :
      flag ≠ "" ∧ ',' ∉ flag.toList ∧ trim flag.toList = flag.toList := by
    rcases List.mem_append.1 member with isStatus | isFlag
    · obtain ⟨status, -, rfl⟩ := Option.map_eq_some_iff.1 (Option.mem_toList.1 isStatus)
      exact name_of_status status
    · have flagged := settled flag isFlag
      exact ⟨flagged.nonempty, flagged.plain, flagged.kept⟩
  have added := rereadFlags_eq_foldl rfl (fun flag member => (each flag member).1)
    (fun flag member => (each flag member).2.1) (fun flag member => (each flag member).2.2)
  -- The status comes first, and the flags are none.
  rw [added, List.map_append, List.foldl_append, foldl_addFlag_kept _ settled]
  cases entry.status with
  | none => exact ⟨rfl, rfl⟩
  | some status =>
    have first : ((some status).map Status.name).toList.map (fun flag => ' ' :: flag.toList) =
        [' ' :: status.name.toList] := rfl
    rw [first, List.foldl_cons, List.foldl_nil, addFlag_status]
    exact ⟨rfl, rfl⟩

/-- An entry whose flags and comments are read back as they are is read back without its empty
comments, and with what is read of its references. -/
theorem reread_eq_of_notes {entry : Entry}
    (notes : SettledNotes [] entry.developerComments entry.translatorComments entry.flags) :
    reread entry = entry.cleared (rereadReferences entry.references) := by
  -- Messages and translations are read back in any case, so only the notes are compared.
  obtain ⟨-, developer, translator, flags⟩ := notes
  obtain ⟨sameFlags, sameStatus⟩ := rereadFlags_eq flags
  rw [reread, sameFlags, sameStatus, rereadComments_eq translator, rereadComments_eq developer]
  rfl

/-- A settled entry is read back without its empty comments. -/
theorem Settled.reread_eq {entry : Entry} (settled : Settled entry) :
    reread entry = entry.withoutEmptyComments := by
  obtain ⟨references, developer, translator, flags⟩ := settled.notes
  rw [reread_eq_of_notes ⟨nofun, developer, translator, flags⟩, rereadReferences_eq references]
  rfl

/-- A settled entry can be read back from its block. -/
theorem Settled.writable {entry : Entry} (settled : Settled entry) : Writable entry where
  flags := fun flag member => (settled.notes.flags flag member).single
  forms := settled.forms
  valid := settled.valid
  references := fun reference member => by
    obtain ⟨single, found⟩ := settled.notes.references reference member
    exact ⟨single, by rw [found]; rfl⟩

end Po

end MessageCatalog
