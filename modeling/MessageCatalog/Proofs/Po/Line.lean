import MessageCatalog.Po.Line
import MessageCatalog.Proofs.Text.Lines
import MessageCatalog.Proofs.Text.Number

/-! A quoted text, behind a keyword or alone, is read back from its line. -/

namespace MessageCatalog.Po

/-- Any character but a backslash is read as it stands. -/
theorem unescape_cons {c : Char} (plain : c ≠ '\\') (rest : List Char) :
    unescape (c :: rest) = c :: unescape rest := by
  cases rest with
  | nil => rfl
  | cons d rest => rw [unescape, if_neg plain]

/-- An escape is read as the character that it stands for. -/
theorem unescape_escape_cons {d e : Char} (known : escaped? d = some e) (rest : List Char) :
    unescape ('\\' :: d :: rest) = e :: unescape rest := by
  rw [unescape, if_pos rfl, known]

/-- A text is read back from between its quotes. -/
theorem unescape_escape (text : List Char) : unescape (escape text) = text := by
  induction text with
  | nil => rfl
  | cons c text ih =>
    rw [escape, List.flatMap_cons, ← escape]
    -- Five characters are written as an escape, and all others as they are.
    unfold escapeChar
    split
    · rename_i same
      rw [same, List.cons_append, List.cons_append, List.nil_append,
        unescape_escape_cons rfl, ih]
    · rename_i plain
      repeat' split
      all_goals first
        | rename_i same
          rw [same, List.cons_append, List.cons_append, List.nil_append,
            unescape_escape_cons rfl, ih]
        | rw [List.singleton_append, unescape_cons plain, ih]

/-- No line feed stands between quotes. -/
theorem not_mem_escape (text : List Char) : '\n' ∉ escape text := by
  intro member
  obtain ⟨c, -, inside⟩ := List.mem_flatMap.1 member
  -- The cases are those of the escapes; a line feed itself becomes a backslash and a letter.
  unfold escapeChar at inside
  split at inside
  · simp at inside
  · split at inside
    · simp at inside
    · split at inside
      · simp at inside
      · rename_i other
        repeat' split at inside
        all_goals simp only [List.mem_cons, List.not_mem_nil, or_false] at inside
        · rcases inside with same | same <;> cases same
        · rcases inside with same | same <;> cases same
        · exact other inside.symm

/-- A text between quotes. -/
def inQuotes (text : List Char) : List Char := '"' :: (escape text ++ ['"'])

/-- The text between quotes is found. -/
theorem betweenQuotes?_inQuotes (text : List Char) :
    betweenQuotes? (inQuotes text) = some (escape text) := by
  rw [inQuotes, betweenQuotes?, List.reverse_append, List.reverse_singleton,
    List.singleton_append]
  exact congrArg some (List.reverse_reverse _)

/-- A text between quotes is a line by itself. -/
theorem not_mem_inQuotes (text : List Char) : '\n' ∉ inQuotes text := by
  rw [inQuotes, List.mem_cons, List.mem_append, List.mem_singleton]
  rintro (same | inside | same)
  · cases same
  · exact not_mem_escape text inside
  · cases same

/-- A text that begins and ends in other characters has no blanks around it. -/
theorem trim_between {first last : Char} (visible : isBlank first = false)
    (visible' : isBlank last = false) (text : List Char) :
    trim (first :: (text ++ [last])) = first :: (text ++ [last]) := by
  rw [trim, trimStart_cons visible, trimEnd_cons visible, trimEnd_append_singleton visible']

/-- A quoted text by itself continues a field. -/
theorem read_inQuotes (text : List Char) :
    Line.read (trim (inQuotes text)) = .ok (.continuation text) := by
  -- A quote begins no keyword, so that only the last case of a line is left.
  have noKeyword : keywordLine? (inQuotes text) = none := rfl
  have quotes : betweenQuotes? (inQuotes text) = some (escape text) := betweenQuotes?_inQuotes text
  rw [inQuotes] at noKeyword quotes ⊢
  rw [trim_between (by decide) (by decide), Line.read.eq_def, noKeyword, quotes]
  exact congrArg (fun value => Except.ok (Line.continuation value)) (unescape_escape text)

/-- A keyword stands at the start of a line with its own name only, apart from the one that is the start
of another one. -/
theorem isPrefixOf?_name (keyword other : Keyword) {c : Char} (sign : c = ' ' ∨ c = '[')
    (rest : List Char) :
    other.name.toList.isPrefixOf? (keyword.name.toList ++ c :: rest) =
      if other = keyword then some (c :: rest)
      else if other = .msgid ∧ keyword = .msgidPlural then some ("_plural".toList ++ c :: rest)
      else none := by
  -- With a blank or a bracket behind `msgid`, the line does not begin with `msgid_plural` as well.
  rcases sign with rfl | rfl <;> cases keyword <;> cases other <;> rfl

/-- What stands behind a keyword: maybe an index, and a quoted text. -/
def behindKeyword? (keyword : Keyword) (behind : List Char) :
    Option (Keyword × Option (List Char) × List Char) :=
  match bracketed? behind with
  | some (digits, behind) => (quotedBehindBlank? behind).map fun text => (keyword, some digits, text)
  | none => (quotedBehindBlank? behind).map fun text => (keyword, none, text)

/-- A line has the first keyword that it begins with and behind which something can be read. -/
theorem keywordLine?_eq_findSome? (line : List Char) :
    keywordLine? line = Keyword.all.findSome? fun keyword =>
      (keyword.name.toList.isPrefixOf? line).bind (behindKeyword? keyword) := by
  unfold keywordLine? behindKeyword?
  refine congrArg (List.findSome? · Keyword.all) (funext fun keyword => ?_)
  -- Both ask for an index first, and for the quoted text behind it.
  cases keyword.name.toList.isPrefixOf? line with
  | none => rfl
  | some behind =>
    simp only [Option.bind_eq_bind, Option.bind_some]
    cases bracketed? behind with
    | none => exact (Option.map_eq_bind ..).symm
    | some index => exact (Option.map_eq_bind ..).symm

/-- A keyword at the start of a line is the first one that is found there. -/
theorem keywordLine?_of_behind (keyword : Keyword) {c : Char} (sign : c = ' ' ∨ c = '[')
    {rest : List Char} {found : Keyword × Option (List Char) × List Char}
    (read : behindKeyword? keyword (c :: rest) = some found) :
    keywordLine? (keyword.name.toList ++ c :: rest) = some found := by
  have stands (other : Keyword) := isPrefixOf?_name keyword other sign rest
  have same : keyword.name.toList.isPrefixOf? (keyword.name.toList ++ c :: rest) =
      some (c :: rest) := by rw [stands, if_pos rfl]
  -- Its own name is found, and what stands behind it can be read.
  have taken : (keyword.name.toList.isPrefixOf? (keyword.name.toList ++ c :: rest)).bind
      (behindKeyword? keyword) = some found := by rw [same, Option.bind_some, read]
  rw [keywordLine?_eq_findSome?, List.findSome?_eq_some_iff]
  -- The keywords that are tried before are no start of this one.
  cases keyword with
  | msgctxt => exact ⟨[], _, _, rfl, taken, fun _ member => absurd member List.not_mem_nil⟩
  | msgidPlural =>
    refine ⟨[.msgctxt], _, _, rfl, taken, ?_⟩
    intro other earlier
    rw [List.mem_singleton.1 earlier, stands]
    rfl
  | msgid =>
    refine ⟨[.msgctxt, .msgidPlural], _, _, rfl, taken, ?_⟩
    intro other earlier
    rw [stands]
    simp only [List.mem_cons, List.not_mem_nil, or_false] at earlier
    rcases earlier with rfl | rfl <;> rfl
  | msgstr =>
    refine ⟨[.msgctxt, .msgidPlural, .msgid], _, _, rfl, taken, ?_⟩
    intro other earlier
    rw [stands]
    simp only [List.mem_cons, List.not_mem_nil, or_false] at earlier
    rcases earlier with rfl | rfl | rfl <;> rfl

/-- A quoted text behind a blank is found. -/
theorem quotedBehindBlank?_inQuotes (text : List Char) :
    quotedBehindBlank? (' ' :: inQuotes text) = some (escape text) := by
  rw [quotedBehindBlank?, if_pos (by decide), inQuotes, trimStart_cons (by decide), ← inQuotes,
    betweenQuotes?_inQuotes]

/-- A keyword and a quoted text behind a blank. -/
theorem keywordLine?_plain (keyword : Keyword) (text : List Char) :
    keywordLine? (keyword.name.toList ++ ' ' :: inQuotes text) =
      some (keyword, none, escape text) := by
  have noIndex : bracketed? (' ' :: inQuotes text) = none := rfl
  apply keywordLine?_of_behind keyword (.inl rfl)
  rw [behindKeyword?, noIndex, quotedBehindBlank?_inQuotes]
  rfl

/-- Decimal digits of ASCII are decimal digits. -/
theorem isDecimalDigit_of_isDigit {c : Char} (digit : c.isDigit = true) :
    isDecimalDigit c = true := by
  have ascii : c.toNat < 0x80 := by
    simp only [Char.isDigit, ge_iff_le, Bool.and_eq_true, decide_eq_true_eq] at digit
    have upper : c.toNat ≤ '9'.toNat := digit.2
    exact Nat.lt_of_le_of_lt upper (by decide)
  rw [isDecimalDigit, if_pos ascii, digit]

/-- Digits between brackets are found. -/
theorem bracketed?_digits {digits : List Char} (nonempty : digits ≠ [])
    (all : ∀ c ∈ digits, c.isDigit = true) (rest : List Char) :
    bracketed? ('[' :: (digits ++ ']' :: rest)) = some (digits, rest) := by
  -- The run of digits ends at the bracket, which is no digit itself.
  have decimal : ∀ c ∈ digits, isDecimalDigit c = true := fun c member =>
    isDecimalDigit_of_isDigit (all c member)
  have stop : ¬ isDecimalDigit ']' = true := by decide
  have taken : (digits ++ ']' :: rest).takeWhile isDecimalDigit = digits := by
    rw [List.takeWhile_append_of_pos decimal, List.takeWhile_cons_of_neg stop, List.append_nil]
  have dropped : (digits ++ ']' :: rest).dropWhile isDecimalDigit = ']' :: rest := by
    rw [List.dropWhile_append_of_pos decimal, List.dropWhile_cons_of_neg stop]
  obtain ⟨c, digits, rfl⟩ := List.exists_cons_of_ne_nil nonempty
  rw [bracketed?, taken, dropped]
  rfl

/-- A keyword with an index, and a quoted text behind a blank. -/
theorem keywordLine?_indexed (keyword : Keyword) {digits : List Char} (nonempty : digits ≠ [])
    (all : ∀ c ∈ digits, c.isDigit = true) (text : List Char) :
    keywordLine? (keyword.name.toList ++ '[' :: (digits ++ ']' :: ' ' :: inQuotes text)) =
      some (keyword, some digits, escape text) := by
  apply keywordLine?_of_behind keyword (.inr rfl)
  rw [behindKeyword?, bracketed?_digits nonempty all]
  dsimp only
  rw [quotedBehindBlank?_inQuotes]
  rfl

/-- The keyword with which a field is written. -/
def Field.keyword : Field → String
  | context => "msgctxt"
  | text => "msgid"
  | plural => "msgid_plural"
  | translation => "msgstr"
  | form index => s!"msgstr[{index}]"

/-- An index of a form is a count. -/
def Field.Fits : Field → Prop
  | form index => index ≤ maxCount
  | _ => True

/-- A field's keyword with a quoted text is a line by itself. -/
theorem not_mem_keyword (field : Field) : '\n' ∉ field.keyword.toList := by
  cases field with
  | form index =>
    intro member
    have spelled : (Field.form index).keyword.toList =
        "msgstr[".toList ++ Nat.toDigits 10 index ++ "]".toList := by
      simp [Field.keyword, toString]
    rw [spelled, List.mem_append, List.mem_append] at member
    -- The characters are those of the brackets, of the name and of a number.
    rcases member with (start | digit) | stop
    · exact absurd start (by decide)
    · exact absurd (isDigit_of_mem_toDigits digit) (by decide)
    · exact absurd stop (by decide)
  | _ => decide

/-- A line that begins with a keyword is read as its field. -/
theorem read_of_keywordLine {line tail : List Char} (start : line = 'm' :: tail)
    {keyword : Keyword} {digits : Option (List Char)} {text : List Char} {field : Field}
    (found : keywordLine? line = some (keyword, digits, escape text))
    (named : fieldOf keyword digits = .ok field) : Line.read line = .ok (.field field text) := by
  subst start
  rw [Line.read.eq_def, found]
  dsimp only
  rw [named, unescape_escape]
  rfl

/-- A field is read back from the line of its keyword. -/
theorem read_keyword {field : Field} (fits : field.Fits) (text : List Char) :
    Line.read (trim (field.keyword.toList ++ ' ' :: inQuotes text)) = .ok (.field field text) := by
  -- The line begins with a letter and ends in a quote, and so trimming does nothing to it.
  have whole (tail : List Char) : trim ('m' :: (tail ++ ' ' :: inQuotes text)) =
      'm' :: (tail ++ ' ' :: inQuotes text) := by
    have between : trim ('m' :: (tail ++ ' ' :: '"' :: escape text ++ ['"'])) = _ :=
      trim_between (by decide) (by decide) (tail ++ ' ' :: '"' :: escape text)
    simpa only [inQuotes, List.append_assoc, List.cons_append] using between
  -- The plain keywords are four, and the fifth has an index in brackets.
  cases field with
  | context =>
    have line := whole "sgctxt".toList
    refine (congrArg Line.read line).trans ?_
    exact read_of_keywordLine rfl (keywordLine?_plain .msgctxt text) rfl
  | text =>
    have line := whole "sgid".toList
    refine (congrArg Line.read line).trans ?_
    exact read_of_keywordLine rfl (keywordLine?_plain .msgid text) rfl
  | plural =>
    have line := whole "sgid_plural".toList
    refine (congrArg Line.read line).trans ?_
    exact read_of_keywordLine rfl (keywordLine?_plain .msgidPlural text) rfl
  | translation =>
    have line := whole "sgstr".toList
    refine (congrArg Line.read line).trans ?_
    exact read_of_keywordLine rfl (keywordLine?_plain .msgstr text) rfl
  | form index =>
    have spelled : (Field.form index).keyword.toList ++ ' ' :: inQuotes text =
        'm' :: ("sgstr[".toList ++ Nat.toDigits 10 index ++ "]".toList ++ ' ' :: inQuotes text) := by
      simp [Field.keyword, toString]
    have found := keywordLine?_indexed .msgstr (Nat.toDigits_ne_nil (n := index) (b := 10))
      (fun _ => isDigit_of_mem_toDigits) text
    -- The index is read as the count that it was written from.
    have named : fieldOf .msgstr (some (Nat.toDigits 10 index)) = .ok (.form index) := by
      rw [fieldOf, count?_toDigits fits]
    have start : Keyword.msgstr.name.toList ++
        '[' :: (Nat.toDigits 10 index ++ ']' :: ' ' :: inQuotes text) =
          'm' :: ("sgstr[".toList ++ Nat.toDigits 10 index ++ "]".toList ++
            ' ' :: inQuotes text) := by
      simp [Keyword.name]
    rw [spelled, whole]
    exact read_of_keywordLine rfl (start ▸ found) named

end MessageCatalog.Po
