import Mathlib.Data.List.TakeWhile
import MessageCatalog.Proofs.Po.Reading

/-! The block of an entry is read back as that entry, with its comments, flags and references as a reader
trims them. -/

namespace MessageCatalog.Po

/-- Comments as they are read back: one for each line, trimmed in some way. -/
def rereadComments (trimmed : List Char → List Char) (comments : List String) : List String :=
  comments.flatMap fun comment => (lines comment.toList).map fun line => String.ofList (trimmed line)

/-- References as they are read back: a file name with blanks may be taken for several. -/
def rereadReferences (references : List Reference) : List Reference :=
  references.flatMap fun reference => (references? (trim (toString reference).toList)).getD []

/-- Flags and status as they are read back. -/
def rereadFlags (entry : Entry) : Draft :=
  match (entry.status.map Status.name).toList ++ entry.flags with
  | [] => {}
  | flags => (splitCommas (trimEnd (' ' :: (", ".intercalate flags).toList))).foldl Draft.addFlag {}

/-- An entry as it is read back. -/
def reread (entry : Entry) : Entry :=
  { entry with
    references := rereadReferences entry.references
    developerComments := rereadComments trim entry.developerComments
    translatorComments := rereadComments trimEnd entry.translatorComments
    flags := (rereadFlags entry).flags
    status := (rereadFlags entry).status }

section

variable {entries : List Entry} {draft : Draft}

/-- What is noted in lines of comments, when each line is noted in one list of the draft. -/
theorem adds_comments (note : Draft → List String → Draft) {sign : String}
    {trimmed : List Char → List Char}
    (each : ∀ draft, draft.hasFields = false → ∀ line, '\n' ∉ line →
      Adds ⟨entries, draft⟩ (sign.toList ++ line ++ ['\n'])
        ⟨entries, note draft [String.ofList (trimmed line)]⟩)
    (keeps : ∀ draft notes, (note draft notes).hasFields = draft.hasFields)
    (nothing : ∀ draft, note draft [] = draft)
    (joins : ∀ draft first second, note (note draft first) second = note draft (first ++ second))
    (early : draft.hasFields = false) (comments : List String) :
    Adds ⟨entries, draft⟩ (comments.flatMap (writeComment sign))
      ⟨entries, note draft (rereadComments trimmed comments)⟩ := by
  -- A comment is written line by line: one induction on its lines, and one on the comments.
  have ofLines (plain : List (List Char)) (lineFree : ∀ line ∈ plain, '\n' ∉ line) (draft : Draft)
      (early : draft.hasFields = false) :
      Adds ⟨entries, draft⟩ (plain.flatMap fun line => sign.toList ++ line ++ ['\n'])
        ⟨entries, note draft (plain.map fun line => String.ofList (trimmed line))⟩ := by
    induction plain generalizing draft with
    | nil =>
      rw [List.map_nil, nothing]
      exact adds_nothing _
    | cons line plain ih =>
      have first := each draft early line (lineFree line (.head _))
      have room := (keeps draft [String.ofList (trimmed line)]).trans early
      have others := ih (fun line member => lineFree line (.tail _ member)) _ room
      rw [joins] at others
      exact first.append others
  induction comments generalizing draft with
  | nil =>
    change Adds ⟨entries, draft⟩ [] ⟨entries, note draft []⟩
    rw [nothing]
    exact adds_nothing _
  | cons comment comments ih =>
    have first := ofLines (lines comment.toList) (fun _ => not_mem_of_mem_lines) draft early
    let notes := (lines comment.toList).map fun line => String.ofList (trimmed line)
    -- The comment as a whole adds what its lines add.
    have others := ih ((keeps draft notes).trans early)
    rw [joins] at others
    exact first.append others

/-- A comment for translators is added by each of its lines. -/
theorem adds_translatorComments (early : draft.hasFields = false) (comments : List String) :
    Adds ⟨entries, draft⟩ (comments.flatMap (writeComment "# "))
      ⟨entries, { draft with
        translatorComments := draft.translatorComments ++ rereadComments trimEnd comments }⟩ := by
  refine adds_comments (fun draft notes =>
    { draft with translatorComments := draft.translatorComments ++ notes }) ?_ (fun _ _ => rfl)
    (fun draft => by simp) (fun draft first second => by simp) early comments
  intro draft early line plain
  -- The line loses the blanks at its end, and the one blank behind the sign.
  have whole : trim ('#' :: ' ' :: line) = '#' :: trimEnd (' ' :: line) := by
    rw [trim, trimStart_cons (by decide), trimEnd_cons (by decide)]
  refine adds_comment ?_ ((congrArg Line.read whole).trans rfl) early ?_
  · rintro (- | ⟨-, - | ⟨-, member⟩⟩)
    exact plain member
  · rw [trimEnd_cons_eq]
    split
    · rename_i both
      rw [both.1]
      rfl
    · rfl

/-- A comment by developers is added by each of its lines. -/
theorem adds_developerComments (early : draft.hasFields = false) (comments : List String) :
    Adds ⟨entries, draft⟩ (comments.flatMap (writeComment "#. "))
      ⟨entries, { draft with
        developerComments := draft.developerComments ++ rereadComments trim comments }⟩ := by
  refine adds_comments (fun draft notes =>
    { draft with developerComments := draft.developerComments ++ notes }) ?_ (fun _ _ => rfl)
    (fun draft => by simp) (fun draft first second => by simp) early comments
  intro draft early line plain
  -- The line is trimmed at its end first, and at its start behind the sign.
  have whole : trim ('#' :: '.' :: ' ' :: line) = '#' :: '.' :: trimEnd (' ' :: line) := by
    rw [trim, trimStart_cons (by decide), trimEnd_cons (by decide), trimEnd_cons (by decide)]
  have behind : trimStart (trimEnd (' ' :: line)) = trim line := by
    rw [← trimEnd_trimEnd, ← trim_eq, trim_trimEnd_blank (by decide)]
  refine adds_comment ?_ ((congrArg Line.read whole).trans rfl) early ?_
  · rintro (- | ⟨-, - | ⟨-, - | ⟨-, member⟩⟩⟩)
    exact plain member
  · rw [← behind]
    rfl

/-- A reference is spelled as it is told. -/
theorem toList_reference (reference : Reference) :
    (toString reference).toList =
      reference.file.toList ++ ':' :: Nat.toDigits 10 reference.line := by
  simp [toString]

/-- A reference that can be read back from its own line. -/
def Readable (reference : Reference) : Prop :=
  '\n' ∉ reference.file.toList ∧ (references? (trim (toString reference).toList)).isSome = true

/-- A reference has its file in front of the last colon and its line behind it. -/
theorem reference?_colon {line : List Char} (noColon : ':' ∉ line) (file : List Char) :
    reference? (file ++ ':' :: line) =
      if file = [] then none else (count? line).map fun count => ⟨String.ofList file, count⟩ := by
  -- The text is searched from its end, where the line stands before the colon.
  have passed : ∀ c ∈ line.reverse, (c != ':') = true := by
    intro c member
    rw [bne_iff_ne]
    rintro rfl
    exact noColon (List.mem_reverse.1 member)
  have reversed : (file ++ ':' :: line).reverse = line.reverse ++ ':' :: file.reverse := by simp
  have behind : (line.reverse ++ ':' :: file.reverse).dropWhile (· != ':') = ':' :: file.reverse := by
    rw [List.dropWhile_append_of_pos passed, List.dropWhile_cons, if_neg (by decide)]
  have front : (line.reverse ++ ':' :: file.reverse).takeWhile (· != ':') = line.reverse := by
    rw [List.takeWhile_append_of_pos passed, List.takeWhile_cons, if_neg (by decide),
      List.append_nil]
  rw [reference?, reversed, behind, front, List.reverse_reverse]
  simp

/-- The digits of a line hold no colon. -/
theorem not_mem_toDigits_colon (line : Nat) : ':' ∉ Nat.toDigits 10 line :=
  fun member => absurd (isDigit_of_mem_toDigits member) (by decide)

/-- A reference is found in front of and behind the last colon. -/
theorem reference?_eq_some {file : List Char} (nonempty : file ≠ []) {line : Nat}
    (small : line ≤ maxCount) :
    reference? (file ++ ':' :: Nat.toDigits 10 line) = some ⟨String.ofList file, line⟩ := by
  rw [reference?_colon (not_mem_toDigits_colon line), if_neg nonempty, count?_toDigits small]
  rfl

/-- Only the start of a file is trimmed with a reference, which ends in a digit. -/
theorem trim_reference {reference : Reference} (nonempty : trimStart reference.file.toList ≠ []) :
    trim (toString reference).toList =
      trimStart reference.file.toList ++ ':' :: Nat.toDigits 10 reference.line := by
  obtain ⟨digits, last, spelled⟩ : ∃ digits last, Nat.toDigits 10 reference.line = digits ++ [last] :=
    ⟨_, _, (List.dropLast_concat_getLast Nat.toDigits_ne_nil).symm⟩
  have inside : last ∈ Nat.toDigits 10 reference.line := by simp [spelled]
  have endsVisible : isBlank last = false := isBlank_of_isDigit (isDigit_of_mem_toDigits inside)
  -- A visible character of the file stops the trimming at the start.
  have started : trimStart (reference.file.toList ++ ':' :: Nat.toDigits 10 reference.line) =
      trimStart reference.file.toList ++ ':' :: Nat.toDigits 10 reference.line := by
    rw [trimStart, List.dropWhile_append, if_neg]
    · rfl
    · rw [List.isEmpty_iff]
      exact nonempty
  rw [toList_reference, trim, started, spelled, ← List.cons_append, ← List.append_assoc,
    trimEnd_append_singleton endsVisible]

/-- A reference can be read back when its file has a name on one line, and its line is a count. -/
theorem readable_of_named {reference : Reference} (plain : '\n' ∉ reference.file.toList)
    (visible : ∃ c ∈ reference.file.toList, isBlank c = false)
    (small : reference.line ≤ maxCount) : Readable reference := by
  refine ⟨plain, ?_⟩
  -- A character that is no blank stays, and so the name does not vanish.
  have nonempty : trimStart reference.file.toList ≠ [] := by
    intro none
    obtain ⟨c, member, visible⟩ := visible
    have blank := List.dropWhile_eq_nil_iff.1 none c member
    rw [visible] at blank
    cases blank
  rw [trim_reference nonempty]
  unfold references?
  split
  · rfl
  · rw [reference?_eq_some nonempty small]
    rfl

/-- The line of a reference. -/
theorem toList_referenceLine (reference : Reference) :
    s!"#: {reference}\n".toList = '#' :: ':' :: ' ' :: (toString reference).toList ++ ['\n'] := by
  simp [toString]

/-- The comment that the line of a reference is. -/
theorem read_referenceLine (reference : Reference) :
    Line.read (trim ('#' :: ':' :: ' ' :: (toString reference).toList)) =
      .ok (.comment (':' :: trimEnd (' ' :: (toString reference).toList))) := by
  rw [trim, trimStart_cons (by decide), trimEnd_cons (by decide), trimEnd_cons (by decide)]
  rfl

/-- The line of a reference holds no line feed when the name of its file does not. -/
theorem not_mem_referenceLine {reference : Reference} (plain : '\n' ∉ reference.file.toList) :
    '\n' ∉ '#' :: ':' :: ' ' :: (toString reference).toList := by
  rw [toList_reference]
  rintro (- | ⟨-, - | ⟨-, - | ⟨-, member⟩⟩⟩)
  rcases List.mem_append.1 member with inFile | - | ⟨-, digit⟩
  · exact plain inFile
  · exact absurd (isDigit_of_mem_toDigits digit) (by decide)

/-- References are added by their lines. -/
theorem adds_references {references : List Reference}
    (readable : ∀ reference ∈ references, Readable reference) (early : draft.hasFields = false) :
    Adds ⟨entries, draft⟩ (references.flatMap fun reference => s!"#: {reference}\n".toList)
      ⟨entries, { draft with references := draft.references ++ rereadReferences references }⟩ := by
  -- By induction on the references, each of which is one line, maybe read as several references.
  induction references generalizing draft with
  | nil =>
    have same : draft.references ++ rereadReferences [] = draft.references := List.append_nil _
    rw [same]
    exact adds_nothing _
  | cons reference references ih =>
    obtain ⟨plain, isSome⟩ := readable reference (.head _)
    obtain ⟨read, found⟩ := Option.isSome_iff_exists.1 isSome
    have first : Adds ⟨entries, draft⟩ s!"#: {reference}\n".toList
        ⟨entries, { draft with references := draft.references ++ read }⟩ := by
      rw [toList_referenceLine]
      refine adds_comment (not_mem_referenceLine plain) (read_referenceLine reference) early ?_
      rw [Draft.addComment, trim_trimEnd_blank (by decide), found]
    have room : Draft.hasFields { draft with references := draft.references ++ read } = false :=
      early
    have others := ih (fun reference member => readable reference (.tail _ member)) room
    have both := first.append others
    simpa [rereadReferences, found] using both

/-- A flag is added without regard to the rest of a draft. -/
theorem addFlag_eq {draft small : Draft} (sameFlags : small.flags = draft.flags)
    (sameStatus : small.status = draft.status) (flag : List Char) :
    draft.addFlag flag = { draft with
      flags := (small.addFlag flag).flags, status := (small.addFlag flag).status } := by
  -- A blank flag is left out, one that names a status sets it, and any other goes to the end.
  unfold Draft.addFlag
  dsimp only
  split
  · rw [sameFlags, sameStatus]
  · split
    · rw [sameFlags]
    · rw [sameFlags, sameStatus]

/-- Several flags are added without regard to the rest of a draft. -/
theorem foldl_addFlag_eq {draft small : Draft} (sameFlags : small.flags = draft.flags)
    (sameStatus : small.status = draft.status) (flags : List (List Char)) :
    flags.foldl Draft.addFlag draft = { draft with
      flags := (flags.foldl Draft.addFlag small).flags
      status := (flags.foldl Draft.addFlag small).status } := by
  -- By induction on the flags; the other fields of a draft have no part in it.
  induction flags generalizing draft small with
  | nil => rw [List.foldl_nil, List.foldl_nil, sameFlags, sameStatus]
  | cons flag flags ih =>
    rw [List.foldl_cons, List.foldl_cons, addFlag_eq sameFlags sameStatus]
    exact ih rfl rfl

/-- Texts joined by a separator hold a character only where one of them or the separator does. -/
theorem not_mem_intercalate {c : Char} {separator : String} {texts : List String}
    (between : c ∉ separator.toList) (each : ∀ text ∈ texts, c ∉ text.toList) :
    c ∉ (separator.intercalate texts).toList := by
  -- By induction on the texts; the separator stands between the first one and the others.
  induction texts with
  | nil => simp
  | cons text texts ih =>
    have first := each text (.head _)
    have others := ih fun text member => each text (.tail _ member)
    cases texts with
    | nil => rwa [String.intercalate_singleton]
    | cons second texts =>
      rw [String.intercalate_cons_cons, String.toList_append, String.toList_append,
        List.mem_append, List.mem_append]
      rintro ((inFirst | inSeparator) | inOthers)
      · exact first inFirst
      · exact between inSeparator
      · exact others inOthers

/-- Flags are added by their line, when there are any. -/
theorem adds_writeFlags {entry : Entry} (plain : ∀ flag ∈ entry.flags, '\n' ∉ flag.toList)
    (early : draft.hasFields = false) (noFlags : draft.flags = []) (noStatus : draft.status = none) :
    Adds ⟨entries, draft⟩ (writeFlags entry)
      ⟨entries, { draft with
        flags := (rereadFlags entry).flags, status := (rereadFlags entry).status }⟩ := by
  unfold writeFlags rereadFlags
  -- The status is written among the flags, and its name has no line feed either.
  have lineFree : ∀ flag ∈ (entry.status.map Status.name).toList ++ entry.flags,
      '\n' ∉ flag.toList := by
    intro flag member
    rcases List.mem_append.1 member with isStatus | isFlag
    · obtain ⟨status, -, rfl⟩ := Option.map_eq_some_iff.1 (Option.mem_toList.1 isStatus)
      cases status <;> decide
    · exact plain flag isFlag
  generalize (entry.status.map Status.name).toList ++ entry.flags = flags at lineFree
  cases flags with
  | nil =>
    have same : { draft with flags := [], status := none } = draft := by
      rw [← noFlags, ← noStatus]
    dsimp only
    rw [same]
    exact adds_nothing _
  | cons flag flags =>
    dsimp only
    -- Nothing but its lack of line feeds matters of the line that the flags make up.
    generalize listed : ", ".intercalate (flag :: flags) = text
    have textFree : '\n' ∉ text.toList := by
      rw [← listed]
      exact not_mem_intercalate (by decide) lineFree
    have line : ("#, " ++ text ++ "\n").toList = '#' :: ',' :: ' ' :: text.toList ++ ['\n'] := by
      simp
    have whole : trim ('#' :: ',' :: ' ' :: text.toList) =
        '#' :: ',' :: trimEnd (' ' :: text.toList) := by
      rw [trim, trimStart_cons (by decide), trimEnd_cons (by decide), trimEnd_cons (by decide)]
    rw [line]
    -- The line is noted as flags, one by one, and they make up both lists of the draft.
    refine adds_comment ?_ ((congrArg Line.read whole).trans rfl) early ?_
    · rintro (- | ⟨-, - | ⟨-, - | ⟨-, member⟩⟩⟩)
      exact textFree member
    · exact congrArg Except.ok (foldl_addFlag_eq noFlags.symm noStatus.symm _)

end

end MessageCatalog.Po
