import MessageCatalog.Proofs.Entry.Fault
import MessageCatalog.Proofs.Po.Reference

/-! References are read back from the lines that they are written on, but for those to a file whose name
looks like several references. -/

namespace MessageCatalog.Po

/-- A file name that looks like several references once its line is behind it: it has several words and
ends with the last one, and each of the others is a reference by itself. -/
def looksLikeSeveral (file : List Char) : Bool :=
  decide (1 < (words file).length) && file.getLast?.any (fun c => !isBlank c) &&
    (words file).dropLast.all fun word => (reference? word).isSome

/-- A reference that fits on a line: the name of its file is not empty, begins with no blank and holds
no line feed, and its line is a count. -/
structure FitsLine (reference : Reference) : Prop where
  nonempty : reference.file ≠ ""
  start : ∀ c ∈ reference.file.toList.head?, isBlank c = false
  single : '\n' ∉ reference.file.toList
  counted : reference.line ≤ maxCount

/-- A text that begins with no blank has a word. -/
theorem words_ne_nil {text : List Char} (nonempty : text ≠ [])
    (start : ∀ c ∈ text.head?, isBlank c = false) : words text ≠ [] := by
  obtain ⟨c, rest, rfl⟩ := List.exists_cons_of_ne_nil nonempty
  -- The characters up to the first blank are a run of their own, and no blank is among them.
  let visible := fun c => !isBlank c
  have first : (c :: rest).takeWhile visible = c :: rest.takeWhile visible :=
    List.takeWhile_cons_of_pos (by simp [visible, start c rfl])
  have spelled : ∀ d ∈ (c :: rest).takeWhile visible, isBlank d = false := fun d member => by
    simpa [visible] using List.mem_takeWhile_imp member
  have apart : ∀ d ∈ ((c :: rest).takeWhile visible).getLast?,
      ∀ e ∈ ((c :: rest).dropWhile visible).head?, (isBlank d == isBlank e) = false := by
    intro d atEnd e atStart
    have stops := List.head?_dropWhile_not visible (c :: rest)
    rw [Option.mem_def.1 atStart] at stops
    rw [spelled d (List.mem_of_getLast? atEnd)]
    simpa [visible] using stops
  rw [← List.takeWhile_append_dropWhile (p := visible) (l := c :: rest), words,
    List.splitBy_append apart, List.filter_append, ← words,
    words_of_visible (by rw [first]; exact List.cons_ne_nil _ _) spelled]
  exact List.cons_ne_nil _ _

section

variable {front last : List Char}

/-- A name that ends in a blank does not look like several references. -/
theorem looksLikeSeveral_of_blank (ends : ∀ c ∈ front.getLast?, isBlank c = true) :
    looksLikeSeveral front = false := by
  have noWord : front.getLast?.any (fun c => !isBlank c) = false := by
    cases atEnd : front.getLast? with
    | none => rfl
    | some c => simp [ends c atEnd]
  rw [looksLikeSeveral, noWord, Bool.and_false, Bool.false_and]

/-- A name that ends in a word looks like several references when there are words before it and each of
them is a reference. -/
theorem looksLikeSeveral_append (ends : ∀ c ∈ front.getLast?, isBlank c = true)
    (nonempty : last ≠ []) (visible : ∀ c ∈ last, isBlank c = false) :
    looksLikeSeveral (front ++ last) =
      (!(words front).isEmpty && (words front).all fun word => (reference? word).isSome) := by
  have endsInWord : (front ++ last).getLast?.any (fun c => !isBlank c) = true := by
    obtain ⟨c, atEnd⟩ := Option.isSome_iff_exists.1 (List.getLast?_isSome.2 nonempty)
    rw [List.getLast?_append, atEnd]
    simp [visible c (List.mem_of_getLast? atEnd)]
  rw [looksLikeSeveral, endsInWord, words_append ends nonempty visible, List.dropLast_concat]
  cases words front <;> simp

end

section

variable {reference : Reference}

/-- The digits of a line hold no blank. -/
theorem visible_toDigits (line : Nat) : ∀ c ∈ Nat.toDigits 10 line, isBlank c = false :=
  fun _ member => isBlank_of_isDigit (isDigit_of_mem_toDigits member)

/-- Nothing is trimmed from a reference that fits on a line. -/
theorem FitsLine.trim_eq (fits : FitsLine reference) :
    trim (toString reference).toList =
      reference.file.toList ++ ':' :: Nat.toDigits 10 reference.line := by
  have kept : trimStart reference.file.toList = reference.file.toList := by
    obtain ⟨c, rest, spelled⟩ := List.exists_cons_of_ne_nil (toList_ne_nil fits.nonempty)
    rw [spelled, trimStart_cons (fits.start c (by rw [spelled]; rfl))]
  rw [trim_reference (by rw [kept]; exact toList_ne_nil fits.nonempty), kept]

/-- A reference to a file whose name looks like several is read as several. -/
theorem references?_of_several (fits : FitsLine reference)
    (several : looksLikeSeveral reference.file.toList = true) :
    ∃ references, references? (trim (toString reference).toList) = some references ∧
      1 < references.length := by
  obtain ⟨front, last, spelled, ends, visible⟩ := exists_lastWord reference.file.toList
  have lastWord : last ≠ [] := by
    rintro rfl
    rw [spelled, List.append_nil, looksLikeSeveral_of_blank ends] at several
    cases several
  rw [spelled, looksLikeSeveral_append ends lastWord visible, Bool.and_eq_true,
    Bool.not_eq_true', List.isEmpty_eq_false_iff, List.all_eq_true] at several
  obtain ⟨some_word, each⟩ := several
  -- All words are read, the last one with the line.
  have all : ∀ word ∈ words front ++ [last ++ ':' :: Nat.toDigits 10 reference.line],
      (reference? word).isSome = true := by
    refine List.forall_mem_append.2 ⟨each, ?_⟩
    rw [List.forall_mem_singleton, reference?_eq_some lastWord fits.counted]
    rfl
  obtain ⟨references, read, length⟩ := exists_mapM_eq_some all
  refine ⟨references, ?_, ?_⟩
  · rw [fits.trim_eq, references?, spelled, words_line ends visible (visible_toDigits _), read]
  · rw [length, List.length_append, List.length_singleton]
    exact Nat.lt_add_of_pos_left (List.length_pos_of_ne_nil some_word)

/-- A reference to a file whose name does not look like several is read back. -/
theorem settledReference_of_single (fits : FitsLine reference)
    (single : looksLikeSeveral reference.file.toList = false) : SettledReference reference := by
  obtain ⟨front, last, spelled, ends, visible⟩ := exists_lastWord reference.file.toList
  -- A file that is one word holds no blank, and is read back by its last colon.
  by_cases oneWord : front = []
  · rw [oneWord, List.nil_append] at spelled
    exact settledReference_of_visible fits.nonempty (spelled ▸ visible) fits.counted
  -- Some word is no reference: the last one if it is nothing but the line, and else one before it.
  obtain ⟨word, member, unread⟩ : ∃ word ∈ words front ++
      [last ++ ':' :: Nat.toDigits 10 reference.line], reference? word = none := by
    by_cases lastWord : last = []
    · have unread : reference? (':' :: Nat.toDigits 10 reference.line) = none :=
        (reference?_colon (not_mem_toDigits_colon _) []).trans (if_pos rfl)
      exact ⟨_, List.mem_append_right _ (.head _), by rw [lastWord, List.nil_append, unread]⟩
    · have start : ∀ c ∈ front.head?, isBlank c = false := fun c member =>
        fits.start c (by rw [spelled, List.head?_append, Option.mem_def.1 member]; rfl)
      have some_word : (words front).isEmpty = false :=
        List.isEmpty_eq_false_iff.2 (words_ne_nil oneWord start)
      rw [spelled, looksLikeSeveral_append ends lastWord visible, some_word, Bool.not_false,
        Bool.true_and, List.all_eq_false] at single
      obtain ⟨word, member, unread⟩ := single
      exact ⟨word, List.mem_append_left _ member, by simpa using unread⟩
  -- So the line is not read as several references, but as one.
  have failed : (words (reference.file.toList ++ ':' ::
      Nat.toDigits 10 reference.line)).mapM reference? = none := by
    rw [spelled, words_line ends visible (visible_toDigits _)]
    exact mapM_eq_none_iff.2 ⟨word, member, unread⟩
  refine ⟨fits.single, ?_⟩
  rw [fits.trim_eq, references?, failed,
    reference?_eq_some (toList_ne_nil fits.nonempty) fits.counted, String.ofList_toList]
  rfl

/-- What is read from the line of a reference is that reference just when the name of its file does not
look like several. -/
theorem references?_eq_singleton_iff (fits : FitsLine reference) :
    references? (trim (toString reference).toList) = some [reference] ↔
      looksLikeSeveral reference.file.toList = false := by
  refine ⟨fun same => ?_, fun single => (settledReference_of_single fits single).found⟩
  by_contra several
  obtain ⟨references, read, length⟩ := references?_of_several fits (eq_true_of_ne_false several)
  rw [same] at read
  cases read
  exact absurd length (Nat.lt_irrefl 1)

end

/-- References are read back together just when none of them is to a file whose name looks like
several. -/
theorem rereadReferences_eq_iff {references : List Reference}
    (fits : ∀ reference ∈ references, FitsLine reference) :
    rereadReferences references = references ↔
      ∀ reference ∈ references, looksLikeSeveral reference.file.toList = false := by
  -- One reference at least is read from each line, so that none of the lines may give more.
  have nonempty : ∀ reference ∈ references,
      (references? (trim (toString reference).toList)).getD [] ≠ [] := by
    intro reference member
    by_cases several : looksLikeSeveral reference.file.toList = true
    · obtain ⟨found, read, length⟩ := references?_of_several (fits reference member) several
      rw [read]
      exact List.ne_nil_of_length_pos (Nat.zero_lt_of_lt length)
    · rw [(settledReference_of_single (fits reference member) (eq_false_of_ne_true several)).found]
      exact List.cons_ne_nil reference []
  have whole : rereadReferences references = references.map id ↔ ∀ reference ∈ references,
      (references? (trim (toString reference).toList)).getD [] = [id reference] :=
    flatMap_eq_map_iff nonempty
  rw [List.map_id] at whole
  refine whole.trans (forall₂_congr fun reference member => ?_)
  rw [← references?_eq_singleton_iff (fits reference member)]
  cases read : references? (trim (toString reference).toList) <;> simp

/-- The references of an entry are read back from its lines just when none of them is to a file whose
name looks like several references, whatever else the catalog holds. -/
theorem references_of_parse_write {entries : List Entry}
    (valid : ∀ entry ∈ entries, entry.validate = .ok ())
    (regular : ∀ entry ∈ entries, Regular entry)
    (fits : ∀ entry ∈ entries, ∀ reference ∈ entry.references, FitsLine reference) :
    ∃ read, parse (write entries) = .ok read ∧
      List.Forall₂ (fun entry again => again.references = entry.references ↔
        ∀ reference ∈ entry.references, looksLikeSeveral reference.file.toList = false)
        entries read := by
  -- A name that begins with no blank can be read back, whether as one reference or as several.
  have writable : ∀ entry ∈ entries, Writable entry := by
    intro entry member
    refine ⟨regular entry member, Entry.validate_eq_ok.1 (valid entry member), ?_⟩
    intro reference inside
    obtain ⟨nonempty, start, single, counted⟩ := fits entry member reference inside
    obtain ⟨c, rest, spelled⟩ := List.exists_cons_of_ne_nil (toList_ne_nil nonempty)
    exact readable_of_named single ⟨c, by rw [spelled]; exact .head _, start c (by rw [spelled]; rfl)⟩
      counted
  refine ⟨entries.map reread, parse_write writable, ?_⟩
  rw [List.forall₂_map_right_iff, List.forall₂_same]
  exact fun entry member => rereadReferences_eq_iff (fits entry member)

/-- A message that is used in files with blanks, colons and digits in their names. -/
private def oddlyUsed : Entry where
  message := ⟨none, "A", none⟩
  translation := .single ""
  references := [⟨"my dir/a:b 3.js", 4⟩, ⟨"x:1 ", 2⟩, ⟨"12", maxCount⟩]

/-- A message that is used in a file whose name looks like a reference and the start of another one. -/
private def ambiguouslyUsed : Entry where
  message := ⟨none, "B", none⟩
  translation := .single ""
  references := [⟨"src/a.js:3 src/b.js", 10⟩]

/-- Nothing else is in the way of reading them back. -/
private theorem fitsLine_used : ∀ entry ∈ [oddlyUsed, ambiguouslyUsed],
    entry.validate = .ok () ∧ Regular entry ∧
      ∀ reference ∈ entry.references, FitsLine reference := by
  have fits (file : String) (line : Nat) (nonempty : file ≠ "")
      (start : file.toList.head?.all (fun c => !isBlank c) = true) (single : '\n' ∉ file.toList)
      (counted : line ≤ maxCount) : FitsLine ⟨file, line⟩ :=
    ⟨nonempty, fun c first => by simpa [Option.mem_def.1 first] using start, single, counted⟩
  -- The first entry has three references, and the other one has one.
  refine List.forall_mem_cons.2 ⟨⟨rfl, ⟨nofun, nofun⟩, ?_⟩, List.forall_mem_singleton.2
    ⟨rfl, ⟨nofun, nofun⟩, List.forall_mem_singleton.2 ?_⟩⟩
  · refine List.forall_mem_cons.2 ⟨?_, List.forall_mem_cons.2 ⟨?_, List.forall_mem_singleton.2 ?_⟩⟩
    · exact fits _ _ (by decide) (by decide) (by decide) (by decide)
    · exact fits _ _ (by decide) (by decide) (by decide) (by decide)
    · exact fits _ _ (by decide) (by decide) (by decide) (Nat.le_refl _)
  · exact fits _ _ (by decide) (by decide) (by decide) (by decide)

/-- The first message keeps its references, and the second one does not. -/
theorem references_of_parse_write_used :
    (∀ entry ∈ [oddlyUsed, ambiguouslyUsed], entry.validate = .ok () ∧ Regular entry ∧
      ∀ reference ∈ entry.references, FitsLine reference) ∧
    ∃ odd ambiguous, parse (write [oddlyUsed, ambiguouslyUsed]) = .ok [odd, ambiguous] ∧
      odd.references = oddlyUsed.references ∧
      ambiguous.references ≠ ambiguouslyUsed.references := by
  refine ⟨fitsLine_used, ?_⟩
  obtain ⟨read, parsed, each⟩ := references_of_parse_write
    (fun entry member => (fitsLine_used entry member).1)
    (fun entry member => (fitsLine_used entry member).2.1)
    (fun entry member => (fitsLine_used entry member).2.2)
  obtain _ | ⟨first, _ | ⟨second, _ | _⟩⟩ := each
  refine ⟨_, _, parsed, first.2 (by decide +kernel), fun same => ?_⟩
  exact absurd (second.1 same) (by decide +kernel)

/-- Not all references are read back: the line of one to a file whose name looks like several is read as
those. -/
theorem not_references_of_parse_write :
    (∀ reference ∈ ambiguouslyUsed.references, FitsLine reference) ∧
    ∃ again, parse (write [ambiguouslyUsed]) = .ok [again] ∧
      again.references = [⟨"src/a.js", 3⟩, ⟨"src/b.js", 10⟩] ∧
      again.references ≠ ambiguouslyUsed.references := by
  obtain ⟨-, -, fits⟩ := fitsLine_used ambiguouslyUsed (.tail _ (.head _))
  have parsed : parse (write [ambiguouslyUsed]) = .ok [{ ambiguouslyUsed with
      references := [⟨"src/a.js", 3⟩, ⟨"src/b.js", 10⟩] }] := by decide +kernel
  exact ⟨fits, _, parsed, rfl, by decide⟩

end MessageCatalog.Po
