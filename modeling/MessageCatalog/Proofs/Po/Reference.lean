import MessageCatalog.Proofs.Po.Settled
import MessageCatalog.Proofs.Text.Pieces

/-! References that are read from a line are read back from lines of their own. -/

namespace MessageCatalog.Po

/-- Without blanks there is one word. -/
theorem words_of_visible {text : List Char} (nonempty : text ≠ [])
    (visible : ∀ c ∈ text, isBlank c = false) : words text = [text] := by
  -- All characters are of one kind, so they are one run, and that is kept.
  have alike : text.IsChain fun a b => (isBlank a == isBlank b) = true := by
    refine List.Pairwise.isChain (List.pairwise_iff_forall_sublist.2 fun {a b} pair => ?_)
    rw [visible a (pair.subset (.head _)), visible b (pair.subset (.tail _ (.head _)))]
    rfl
  have single : text.any isBlank = false := by
    rw [List.any_eq_false]
    intro c member
    simp [visible c member]
  rw [words, List.splitBy_of_isChain nonempty alike]
  simp [single]

/-- A text that begins and ends with other characters than blanks is not trimmed. -/
theorem trim_of_visible {text : List Char} (visible : ∀ c ∈ text, isBlank c = false) :
    trim text = text := by
  -- Neither the first nor the last character is a blank.
  have start : trimStart text = text := by
    cases text with
    | nil => rfl
    | cons c text => exact trimStart_cons (visible c (.head _)) text
  rw [trim, start]
  rcases List.eq_nil_or_concat text with rfl | ⟨front, c, rfl⟩
  · rfl
  · rw [List.concat_eq_append] at visible ⊢
    exact trimEnd_append_singleton (visible c (by simp)) front

/-- A reference to a file without blanks is read back. -/
theorem settledReference_of_visible {reference : Reference} (nonempty : reference.file ≠ "")
    (visible : ∀ c ∈ reference.file.toList, isBlank c = false) (small : reference.line ≤ maxCount) :
    SettledReference reference := by
  -- Neither the file nor the digits of the line hold a blank, so the reference is one word.
  have spelledVisible : ∀ c ∈ (toString reference).toList, isBlank c = false := by
    intro c member
    rw [toList_reference] at member
    rcases List.mem_append.1 member with inFile | - | ⟨-, digit⟩
    · exact visible c inFile
    · decide
    · exact isBlank_of_isDigit (isDigit_of_mem_toDigits digit)
  have named := reference?_eq_some (toList_ne_nil nonempty) small
  rw [← toList_reference, String.ofList_toList] at named
  constructor
  · exact fun inside => absurd (visible _ inside) (by decide)
  · rw [trim_of_visible spelledVisible, references?,
      words_of_visible (by rw [toList_reference]; simp) spelledVisible]
    simp [named]

/-- A word holds no blank. -/
theorem visible_of_mem_words {text word : List Char} (member : word ∈ words text) :
    ∀ c ∈ word, isBlank c = false := by
  -- Runs that hold a blank are left out.
  have kept := (List.mem_filter.1 member).2
  intro c inside
  simpa using List.any_eq_false.1 (by simpa using kept) c inside

/-- A text ends with the characters behind its last blank. -/
theorem exists_lastWord (text : List Char) :
    ∃ front last, text = front ++ last ∧ (∀ c ∈ front.getLast?, isBlank c = true) ∧
      ∀ c ∈ last, isBlank c = false := by
  -- By induction from the end of the text; a blank there ends the search.
  induction text using List.reverseRecOn with
  | nil => exact ⟨[], [], rfl, by simp, List.forall_mem_nil _⟩
  | append_singleton text c ih =>
    cases blank : isBlank c with
    | true =>
      exact ⟨text ++ [c], [], (List.append_nil _).symm, by simp [blank], List.forall_mem_nil _⟩
    | false =>
      obtain ⟨front, last, spelled, ends, visible⟩ := ih
      refine ⟨front, last ++ [c], by rw [spelled, List.append_assoc], ends, ?_⟩
      exact List.forall_mem_append.2 ⟨visible, by simp [blank]⟩

/-- Visible characters behind a blank are a word of their own. -/
theorem words_append {front last : List Char} (ends : ∀ c ∈ front.getLast?, isBlank c = true)
    (nonempty : last ≠ []) (visible : ∀ c ∈ last, isBlank c = false) :
    words (front ++ last) = words front ++ [last] := by
  have apart : ∀ c ∈ front.getLast?, ∀ d ∈ last.head?, (isBlank c == isBlank d) = false := by
    intro c atEnd d atStart
    rw [ends c atEnd, visible d (List.mem_of_mem_head? atStart)]
    rfl
  rw [← words_of_visible nonempty visible, words, List.splitBy_append apart, List.filter_append]
  rfl

/-- A reference is spelled as a file, a colon and a count. -/
theorem spelled_of_reference? {text : List Char} {reference : Reference}
    (found : reference? text = some reference) :
    ∃ line, text = reference.file.toList ++ ':' :: line ∧ reference.file ≠ "" ∧ ':' ∉ line ∧
      count? line = some reference.line := by
  by_cases colon : ':' ∈ text.reverse
  · -- The text is split where the first colon stands from behind.
    obtain ⟨line, file, reversed, noColon⟩ := List.eq_append_cons_of_mem colon
    have spelled : text = file.reverse ++ ':' :: line.reverse := by
      rw [← List.reverse_reverse text, reversed]
      simp
    have plain : ':' ∉ line.reverse := fun member => noColon (List.mem_reverse.1 member)
    rw [spelled, reference?_colon plain] at found
    split at found
    · cases found
    · -- The file is not empty, and the count was read from behind the colon.
      rename_i nonempty
      obtain ⟨count, counted, same⟩ := Option.map_eq_some_iff.1 found
      cases same
      refine ⟨line.reverse, by rw [String.toList_ofList, spelled], ?_, plain, counted⟩
      rw [Ne, ← String.toList_eq_nil_iff, String.toList_ofList]
      exact nonempty
  · -- Without a colon nothing stands in front of the line.
    have passed : ∀ c ∈ text.reverse, (c != ':') = true := by
      intro c member
      rw [bne_iff_ne]
      rintro rfl
      exact colon member
    rw [reference?, List.dropWhile_eq_nil_iff.2 passed] at found
    cases found

/-- A count is written without blanks. -/
theorem visible_of_count? {digits : List Char} {n : Nat} (counted : count? digits = some n) :
    ∀ c ∈ digits, isBlank c = false := by
  intro c member
  rcases isDigit_of_count? counted c member with rfl | digit
  · decide
  · exact isBlank_of_isDigit digit

/-- The line of a reference belongs to the last word of its file. -/
theorem words_line {front last line : List Char} (ends : ∀ c ∈ front.getLast?, isBlank c = true)
    (visible : ∀ c ∈ last, isBlank c = false) (lineVisible : ∀ c ∈ line, isBlank c = false) :
    words (front ++ last ++ ':' :: line) = words front ++ [last ++ ':' :: line] := by
  rw [List.append_assoc]
  refine words_append ends (by simp) ?_
  exact List.forall_mem_append.2 ⟨visible, List.forall_mem_cons.2 ⟨by decide, lineVisible⟩⟩

/-- Where a text with blanks is no list of references, it is none with another line either. -/
theorem mapM_reference?_eq_none {file line other : List Char} {count : Nat} (noColon : ':' ∉ line)
    (counted : count? line = some count) (otherColon : ':' ∉ other)
    (visible : ∀ c ∈ other, isBlank c = false)
    (failed : (words (file ++ ':' :: line)).mapM reference? = none) :
    (words (file ++ ':' :: other)).mapM reference? = none := by
  -- Only the last word changes, and it is no reference only when the colon is its first character.
  obtain ⟨front, last, rfl, ends, lastVisible⟩ := exists_lastWord file
  rw [mapM_eq_none_iff, words_line ends lastVisible (visible_of_count? counted)] at failed
  rw [mapM_eq_none_iff, words_line ends lastVisible visible]
  obtain ⟨word, member, none⟩ := failed
  rcases List.mem_append.1 member with earlier | atEnd
  · exact ⟨word, List.mem_append_left _ earlier, none⟩
  · rw [List.mem_singleton.1 atEnd, reference?_colon noColon, counted] at none
    have first : last = [] := by simpa using none
    refine ⟨_, List.mem_append_right _ (.head _), ?_⟩
    rw [reference?_colon otherColon, if_pos first]

/-- A reference that is read from a line is read back from a line of its own. -/
theorem settledReference_of_references? {text : List Char} {references : List Reference}
    (single : '\n' ∉ text) (found : references? (trim text) = some references) :
    ∀ reference ∈ references, SettledReference reference := by
  unfold references? at found
  split at found
  · -- Each word is a reference, and holds no blank.
    rename_i read
    cases found
    intro reference member
    obtain ⟨word, inside, same⟩ := exists_of_mem_mapM read reference member
    obtain ⟨line, spelled, nonempty, -, counted⟩ := spelled_of_reference? same
    refine settledReference_of_visible nonempty (fun c inFile => ?_) (count?_le counted)
    exact visible_of_mem_words inside c (spelled ▸ List.mem_append_left _ inFile)
  · -- The whole text is one reference, and is so again with the digits of its line.
    rename_i failed
    obtain ⟨reference, same, rfl⟩ := Option.map_eq_some_iff.1 found
    rw [List.forall_mem_singleton]
    obtain ⟨line, spelled, nonempty, noColon, counted⟩ := spelled_of_reference? same
    have small := count?_le counted
    -- The text has been trimmed, and so its file begins with no blank.
    have whole : trimStart reference.file.toList = reference.file.toList := by
      obtain ⟨c, rest, file⟩ := List.exists_cons_of_ne_nil (toList_ne_nil nonempty)
      rw [file, List.cons_append] at spelled
      rw [file, trimStart_cons (isBlank_of_trim spelled)]
    have some_file : trimStart reference.file.toList ≠ [] := by
      rw [whole]
      exact toList_ne_nil nonempty
    -- On a line of its own it is read once more, first as several references and then as one.
    constructor
    · exact fun inFile => single (mem_of_mem_trim (spelled ▸ List.mem_append_left _ inFile))
    · rw [spelled] at failed
      have digits : ∀ c ∈ Nat.toDigits 10 reference.line, isBlank c = false :=
        fun _ member => isBlank_of_isDigit (isDigit_of_mem_toDigits member)
      rw [trim_reference some_file, whole, references?, mapM_reference?_eq_none noColon counted
        (not_mem_toDigits_colon _) digits failed, reference?_eq_some (toList_ne_nil nonempty) small,
        String.ofList_toList]
      rfl

end MessageCatalog.Po
