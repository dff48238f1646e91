import MessageCatalog.Proofs.Json.Layout
import MessageCatalog.Proofs.Json.StringUnit
import MessageCatalog.Proofs.Json.Token
import MessageCatalog.Proofs.Text.Number

/-! A document is read back from its text, whatever the style that it is written in. -/

namespace MessageCatalog.Json

/-- A number as it is written. -/
def IsNumeral (literal : List Char) : Prop :=
  isNumber literal = true ∧ ∀ c ∈ literal, isNumberChar c = true

/-- A digit is a character of numbers. -/
theorem isNumberChar_of_isDigit {c : Char} (digit : c.isDigit = true) :
    isNumberChar c = true := by
  simp [isNumberChar, digit]

/-- The digits of a number other than zero begin with another digit than zero. -/
theorem toDigits_of_pos {n : Nat} (positive : 0 < n) :
    ∃ c digits, Nat.toDigits 10 n = c :: digits ∧ c ≠ '0' := by
  -- By strong induction on the number: without its last digit it begins with the same one.
  induction n using Nat.strongRecOn with
  | ind n ih =>
    by_cases small : n < 10
    · refine ⟨n.digitChar, [], Nat.toDigits_of_lt_base small, ?_⟩
      rcases n with _ | _ | _ | _ | _ | _ | _ | _ | _ | _ | n
      · omega
      all_goals first | decide | omega
    · obtain ⟨c, digits, spelled, other⟩ := ih (n / 10) (by omega) (by omega)
      refine ⟨c, digits ++ [(n % 10).digitChar], ?_, other⟩
      rw [Nat.toDigits_of_base_le (by decide) (by omega), spelled]
      rfl

/-- A number without a sign and without a zero in front. -/
theorem isNumber_cons {c : Char} (noSign : c ≠ '-') (noZero : c ≠ '0') (digits : List Char) :
    isNumber (c :: digits) = (c.isDigit && isFraction (digits.dropWhile Char.isDigit)) := by
  rw [isNumber]
  · exact noZero
  · rintro _ ⟨⟩
    exact noSign rfl

/-- The digits of a count are a number. -/
theorem isNumeral_toDigits (n : Nat) : IsNumeral (Nat.toDigits 10 n) := by
  refine ⟨?_, fun c member => isNumberChar_of_isDigit (isDigit_of_mem_toDigits member)⟩
  rcases Nat.eq_zero_or_pos n with rfl | positive
  · rfl
  · obtain ⟨c, digits, spelled, other⟩ := toDigits_of_pos positive
    -- Behind the first digit, which is not zero, there are only digits, so no fraction is left.
    have all : ∀ d ∈ c :: digits, d.isDigit = true := by
      rw [← spelled]
      exact fun d => isDigit_of_mem_toDigits
    have noSign : c ≠ '-' := by
      rintro rfl
      exact absurd (all '-' (.head _)) (by decide)
    have none : digits.dropWhile Char.isDigit = [] := by
      have passed : (digits ++ []).dropWhile Char.isDigit = [].dropWhile Char.isDigit :=
        List.dropWhile_append_of_pos fun d member => all d (.tail _ member)
      simpa using passed
    rw [spelled, isNumber_cons noSign other, all c (.head _), none]
    rfl

/-- A digit is no letter. -/
theorem isAlpha_of_isDigit {c : Char} (digit : c.isDigit = true) : c.isAlpha = false := by
  simp only [Char.isDigit, ge_iff_le, Bool.and_eq_true, decide_eq_true_eq] at digit
  -- Digits come before the letters of both cases.
  have lower : 0x30 ≤ c.toNat := digit.1
  have upper : c.toNat ≤ 0x39 := digit.2
  cases letter : c.isAlpha with
  | false => rfl
  | true =>
    have cases : (decide ('A' ≤ c ∧ c ≤ 'Z') || decide ('a' ≤ c) && decide (c ≤ 'z')) = true := letter
    simp only [Bool.or_eq_true, Bool.and_eq_true, decide_eq_true_eq] at cases
    rcases cases with ⟨above, -⟩ | ⟨above, -⟩
    · have above : 0x41 ≤ c.toNat := above
      omega
    · have above : 0x61 ≤ c.toNat := above
      omega

/-- A number begins with no letter. -/
theorem isAlpha_of_isNumber {c : Char} {digits : List Char}
    (number : isNumber (c :: digits) = true) : c.isAlpha = false := by
  -- A number begins with its sign, with a zero, or with another digit.
  by_cases sign : c = '-'
  · rw [sign]
    rfl
  by_cases zero : c = '0'
  · rw [zero]
    rfl
  rw [isNumber_cons sign zero, Bool.and_eq_true] at number
  exact isAlpha_of_isDigit number.1

/-- What may stand behind a number or a word: nothing, or another character. -/
def Ends (rest : List Char) : Prop :=
  ∀ c tail, rest = c :: tail → isNumberChar c = false ∧ c.isAlpha = false

/-- A run of characters of one class ends where another character stands. -/
theorem span_of_ends {p : Char → Bool} {run rest : List Char} (inside : ∀ c ∈ run, p c = true)
    (outside : ∀ c tail, rest = c :: tail → p c = false) :
    (run ++ rest).takeWhile p = run ∧ (run ++ rest).dropWhile p = rest := by
  -- The run is taken whole, and what stands behind it stops at its first character.
  rw [List.takeWhile_append_of_pos inside, List.dropWhile_append_of_pos inside]
  cases rest with
  | nil => simp
  | cons c tail =>
    have stop := outside c tail rfl
    simp [stop]

/-- A number is one token. -/
theorem plainToken?_number {literal : List Char} (numeral : IsNumeral literal) {rest : List Char}
    (ends : Ends rest) :
    plainToken? (literal ++ rest) = some (.number literal, rest) := by
  -- A numeral begins with no letter, and so the word case is passed by.
  obtain ⟨number, inside⟩ := numeral
  obtain ⟨taken, dropped⟩ := span_of_ends inside fun c tail same => (ends c tail same).1
  cases literal with
  | nil => cases number
  | cons c digits =>
    have noLetter := isAlpha_of_isNumber number
    have numberChar := inside c (.head _)
    rw [List.cons_append] at taken dropped ⊢
    rw [plainToken?, numberChar, noLetter]
    · dsimp only
      rw [taken, dropped, number]
      rfl
    all_goals
      rintro rfl
      exact absurd numberChar (by decide)

/-- A word is one token. -/
theorem plainToken?_word {c : Char} {word : List Char} (inside : ∀ d ∈ c :: word, d.isAlpha = true)
    {rest : List Char} (ends : Ends rest) :
    plainToken? (c :: word ++ rest) = some (.word (c :: word) none, rest) := by
  -- The run of letters and digits stops where the word ends.
  obtain ⟨taken, dropped⟩ := span_of_ends inside fun c tail same => (ends c tail same).2
  have letter := inside c (.head _)
  rw [List.cons_append] at taken dropped ⊢
  rw [plainToken?, letter]
  · dsimp only
    rw [taken, dropped, Bool.not_true, Bool.and_false]
    rfl
  all_goals
    rintro rfl
    exact absurd letter (by decide)

section

variable {reading : Reading (Option String)}

/-- The token behind some blanks is added to the reading. -/
theorem readFrom?_token {gap text behind : List Char} {token : Token (Option String)}
    (blank : ∀ c ∈ gap, isGap c = true) (visible : ∀ c tail, text = c :: tail → isGap c = false)
    (taken : plainToken? text = some (token, behind)) :
    plain.readFrom? reading (gap ++ text) =
      (reading.add .plain token).bind fun next => plain.readFrom? next behind := by
  have skipped : plain.skip? (gap ++ text) = some text :=
    congrArg some (span_of_ends blank visible).2
  cases text with
  | nil => cases taken
  | cons c tail => exact plain.readFrom?_of_token skipped taken

/-- Behind the last token only blanks may stand. -/
theorem readFrom?_end {gap : List Char} (blank : ∀ c ∈ gap, isGap c = true) :
    plain.readFrom? reading gap = reading.value? := by
  have skipped : plain.skip? gap = some [] := by
    have nothing : ∀ c tail, [] = c :: tail → isGap c = false := nofun
    have passed := (span_of_ends blank nothing).2
    rw [List.append_nil] at passed
    exact congrArg some passed
  exact plain.readFrom?_of_end skipped

/-- The token at the start of a text is added to the reading. -/
theorem readFrom?_start {c : Char} {tail behind : List Char} {token : Token (Option String)}
    (visible : isGap c = false) (taken : plainToken? (c :: tail) = some (token, behind)) :
    plain.readFrom? reading (c :: tail) =
      (reading.add .plain token).bind fun next => plain.readFrom? next behind := by
  have noGap : ∀ c ∈ ([] : List Char), isGap c = true := nofun
  refine readFrom?_token noGap ?_ taken
  rintro _ _ ⟨⟩
  exact visible

end

/-- Lines are indented by blanks. -/
def Style.Blank (style : Style) : Prop := ∀ c ∈ style.indent, isGap c = true

section

variable {style : Style}

/-- Between tokens of different lines there are blanks only. -/
theorem Style.Blank.line (blank : style.Blank) {depth : Nat} {c : Char}
    (member : c ∈ style.line depth) : isGap c = true := by
  rcases List.mem_append.1 member with inNewline | inIndent
  · rw [newline] at inNewline
    split at inNewline
    · rcases inNewline with - | ⟨-, - | ⟨-, ⟨⟩⟩⟩ <;> rfl
    · rw [List.mem_singleton.1 inNewline]
      rfl
  · obtain ⟨indent, repeated, inside⟩ := List.mem_flatten.1 inIndent
    rw [List.eq_of_mem_replicate repeated] at inside
    exact blank c inside

/-- A number may stand in front of the end of a line. -/
theorem ends_line (depth : Nat) (rest : List Char) : Ends (style.line depth ++ rest) := by
  intro c tail same
  rw [Style.line, Style.newline] at same
  split at same <;> cases same <;> exact ⟨rfl, rfl⟩

/-- A number may stand in front of a comma. -/
theorem ends_comma (rest : List Char) : Ends (',' :: rest) := by
  rintro _ _ ⟨⟩
  exact ⟨rfl, rfl⟩

end

mutual

/-- All numbers of a value are written as numbers. -/
def Value.Numbered {τ : Type} : Value τ → Prop
  | .number literal => IsNumeral literal
  | .array items => NumberedItems items
  | .object members => NumberedMembers members
  | _ => True

/-- All numbers of some items are written as numbers. -/
def Value.NumberedItems {τ : Type} : List (Value τ) → Prop
  | [] => True
  | item :: items => item.Numbered ∧ NumberedItems items

/-- All numbers of some members are written as numbers. -/
def Value.NumberedMembers {τ : Type} : List (τ × Value τ) → Prop
  | [] => True
  | (_, value) :: members => value.Numbered ∧ NumberedMembers members

end

section

variable {style : Style}

/-- A string takes its place where a value is due. -/
theorem readFrom?_string {reading : Reading (Option String)} {frames : List (Frame (Option String))}
    (awaits : Awaits .plain reading frames) {gap : List Char} (blank : ∀ c ∈ gap, isGap c = true)
    (text : String) (rest : List Char) :
    plain.readFrom? reading (gap ++ (writeString text ++ rest)) =
      (place (.string (some text)) frames).bind fun next => plain.readFrom? next rest := by
  rw [readFrom?_token blank ?_ (plainToken?_writeString text rest),
    awaits (.string (some text)) nofun]
  · rfl
  · rintro _ _ ⟨⟩
    rfl

/-- A word takes its place as the value that it stands for. -/
theorem readFrom?_word {reading : Reading (Option String)} {frames : List (Frame (Option String))}
    (awaits : Awaits .plain reading frames) {gap : List Char} (blank : ∀ c ∈ gap, isGap c = true)
    {c : Char} {word : List Char} (letters : ∀ d ∈ c :: word, d.isAlpha = true)
    (visible : isGap c = false)
    {value : Value (Option String)} (known : wordValue? .plain (c :: word) = some value)
    {rest : List Char} (ends : Ends rest) :
    plain.readFrom? reading (gap ++ (c :: word ++ rest)) =
      (place value frames).bind fun next => plain.readFrom? next rest := by
  rw [readFrom?_token blank ?_ (plainToken?_word letters ends),
    awaits (.word (c :: word) none) nofun]
  · rw [beginValue, known]
    rfl
  · rintro _ _ ⟨⟩
    exact visible

/-- A number takes its place where a value is due. -/
theorem readFrom?_number {reading : Reading (Option String)} {frames : List (Frame (Option String))}
    (awaits : Awaits .plain reading frames) {gap : List Char} (blank : ∀ c ∈ gap, isGap c = true)
    {literal : List Char} (numeral : IsNumeral literal) {rest : List Char} (ends : Ends rest) :
    plain.readFrom? reading (gap ++ (literal ++ rest)) =
      (place (.number literal) frames).bind fun next => plain.readFrom? next rest := by
  rw [readFrom?_token blank ?_ (plainToken?_number numeral ends),
    awaits (.number literal) nofun]
  · rfl
  · intro c tail same
    obtain ⟨number, inside⟩ := numeral
    cases literal with
    | nil => cases number
    | cons d digits =>
      cases same
      have numberChar := inside c (.head _)
      cases gapChar : isGap c with
      | false => rfl
      | true =>
        simp only [isGap, Bool.or_eq_true, beq_iff_eq] at gapChar
        -- None of the four blanks is a character of numbers.
        rcases gapChar with ((rfl | rfl) | rfl) | rfl <;> exact absurd numberChar (by decide)

/-- A bracket begins an array where a value is due. -/
theorem readFrom?_beginArray {reading : Reading (Option String)}
    {frames : List (Frame (Option String))} (awaits : Awaits .plain reading frames)
    {gap : List Char} (blank : ∀ c ∈ gap, isGap c = true) (rest : List Char) :
    plain.readFrom? reading (gap ++ '[' :: rest) =
      plain.readFrom? (.inside .firstItem (.array [] :: frames)) rest := by
  have taken : plainToken? ('[' :: rest) = some (.beginArray, rest) := rfl
  rw [readFrom?_token blank ?_ taken, awaits .beginArray nofun]
  · rfl
  · rintro _ _ ⟨⟩
    rfl

/-- A brace begins an object where a value is due. -/
theorem readFrom?_beginObject {reading : Reading (Option String)}
    {frames : List (Frame (Option String))} (awaits : Awaits .plain reading frames)
    {gap : List Char} (blank : ∀ c ∈ gap, isGap c = true) (rest : List Char) :
    plain.readFrom? reading (gap ++ '\x7b' :: rest) =
      plain.readFrom? (.inside .firstMember (.object [] :: frames)) rest := by
  have taken : plainToken? ('\x7b' :: rest) = some (.beginObject, rest) := rfl
  rw [readFrom?_token blank ?_ taken, awaits .beginObject nofun]
  · rfl
  · rintro _ _ ⟨⟩
    rfl

/-- The end of an array closes it. -/
theorem readFrom?_endArray {items : List (Value (Option String))}
    {frames : List (Frame (Option String))} {due : Due} (closes : due = .firstItem ∨ due = .separator)
    {gap : List Char} (blank : ∀ c ∈ gap, isGap c = true) (rest : List Char) :
    plain.readFrom? (.inside due (.array items :: frames)) (gap ++ ']' :: rest) =
      (place (.array items.reverse) frames).bind fun next => plain.readFrom? next rest := by
  -- An empty array ends where its first item is due, and any other one behind an item.
  have closed : Reading.add .plain .endArray (.inside due (.array items :: frames)) =
      place (.array items.reverse) frames := by
    rcases closes with rfl | rfl
    · exact Option.or_none
    · rfl
  have taken : plainToken? (']' :: rest) = some (.endArray, rest) := rfl
  rw [readFrom?_token blank ?_ taken, closed]
  rintro _ _ ⟨⟩
  rfl

/-- The end of an object closes it. -/
theorem readFrom?_endObject {members : List (Option String × Value (Option String))}
    {frames : List (Frame (Option String))} {due : Due}
    (closes : due = .firstMember ∨ due = .separator)
    {gap : List Char} (blank : ∀ c ∈ gap, isGap c = true) (rest : List Char) :
    plain.readFrom? (.inside due (.object members :: frames)) (gap ++ '\x7d' :: rest) =
      (place (.object members.reverse) frames).bind fun next => plain.readFrom? next rest := by
  -- An object may end where its first member or a comma would stand.
  have closed : Reading.add .plain .endObject (.inside due (.object members :: frames)) =
      place (.object members.reverse) frames := by
    rcases closes with rfl | rfl
    · exact Option.or_none
    · rfl
  have taken : plainToken? ('\x7d' :: rest) = some (.endObject, rest) := rfl
  rw [readFrom?_token blank ?_ taken, closed]
  rintro _ _ ⟨⟩
  rfl

/-- The name of a member is followed by its value. -/
theorem readFrom?_name {members : List (Option String × Value (Option String))}
    {frames : List (Frame (Option String))} {due : Due} (begins : due = .firstMember ∨ due = .next)
    {gap : List Char} (blank : ∀ c ∈ gap, isGap c = true) (name : String) (rest : List Char) :
    plain.readFrom? (.inside due (.object members :: frames))
        (gap ++ (writeString name ++ ':' :: rest)) =
      plain.readFrom? (.inside .value (.member members (some name) :: frames)) rest := by
  -- The name and the colon behind it are two tokens.
  have named : Reading.add .plain (.string (some name)) (.inside due (.object members :: frames)) =
      some (.inside .colon (.member members (some name) :: frames)) := by
    rcases begins with rfl | rfl <;> rfl
  rw [readFrom?_token blank ?_ (plainToken?_writeString name _), named]
  · have taken : plainToken? (':' :: rest) = some (.colon, rest) := rfl
    exact (readFrom?_start rfl taken).trans rfl
  · rintro _ _ ⟨⟩
    rfl

/-- A comma leads on to the next item or member. -/
theorem readFrom?_comma (frames : List (Frame (Option String))) (rest : List Char) :
    plain.readFrom? (.inside .separator frames) (',' :: rest) =
      plain.readFrom? (.inside .next frames) rest := by
  have taken : plainToken? (',' :: rest) = some (.comma, rest) := rfl
  exact (readFrom?_start rfl taken).trans rfl

/-- A number may stand in front of what follows the first item of an array. -/
theorem ends_items (inner : Nat) (items : List (Value String)) (outer : Nat) (rest : List Char) :
    Ends (writeItems style inner items ++ (style.line outer ++ rest)) := by
  cases items with
  | nil => exact ends_line outer rest
  | cons _ _ => exact ends_comma _

/-- A number may stand in front of what follows the first member of an object. -/
theorem ends_members (inner : Nat) (members : List (String × Value String)) (outer : Nat)
    (rest : List Char) : Ends (writeMembers style inner members ++ (style.line outer ++ rest)) := by
  cases members with
  | nil => exact ends_line outer rest
  | cons _ _ => exact ends_comma _

mutual

/-- A value takes its place where one is due. -/
theorem readFrom?_writeAt (indented : style.Blank) (value : Value String)
    (numbered : value.Numbered) {reading : Reading (Option String)}
    {frames : List (Frame (Option String))} (awaits : Awaits .plain reading frames) (depth : Nat)
    {gap : List Char} (blank : ∀ c ∈ gap, isGap c = true) {rest : List Char} (ends : Ends rest) :
    plain.readFrom? reading (gap ++ (writeAt style depth value ++ rest)) =
      (place (value.mapStrings some) frames).bind fun next => plain.readFrom? next rest := by
  -- One case for each kind of value; what stands behind the value is any text that ends a number.
  match value with
  | .null => exact readFrom?_word awaits blank (List.all_eq_true.1 rfl) rfl rfl ends
  | .bool true => exact readFrom?_word awaits blank (List.all_eq_true.1 rfl) rfl rfl ends
  | .bool false => exact readFrom?_word awaits blank (List.all_eq_true.1 rfl) rfl rfl ends
  | .number literal =>
    rw [Value.Numbered] at numbered
    rw [Value.mapStrings]
    exact readFrom?_number awaits blank numbered ends
  | .string text => exact readFrom?_string awaits blank text rest
  -- An empty container is closed at once, on the line on which it began.
  | .array [] =>
    have noGap : ∀ c ∈ ([] : List Char), isGap c = true := nofun
    exact (readFrom?_beginArray awaits blank (']' :: rest)).trans
      (readFrom?_endArray (.inl rfl) noGap rest)
  | .array (item :: items) =>
    rw [writeAt_array_append, readFrom?_beginArray awaits blank,
      readFrom?_writeAt indented item numbered.1 (awaits_first .plain [] frames) (depth + 1)
        (fun _ => indented.line) (ends_items (depth + 1) items depth (']' :: rest))]
    show plain.readFrom? (.inside .separator (.array [item.mapStrings some] :: frames)) _ = _
    rw [readFrom?_writeItems indented items numbered.2 (depth + 1) (ends_line depth _),
      readFrom?_endArray (.inr rfl) (fun _ => indented.line), List.reverse_append,
      List.reverse_reverse]
    rfl
  | .object [] =>
    have noGap : ∀ c ∈ ([] : List Char), isGap c = true := nofun
    exact (readFrom?_beginObject awaits blank ('\x7d' :: rest)).trans
      (readFrom?_endObject (.inl rfl) noGap rest)
  -- The name is read first, and the value takes its place behind the colon.
  | .object ((name, value) :: members) =>
    rw [writeAt_object_append, readFrom?_beginObject awaits blank,
      readFrom?_name (.inl rfl) (fun _ => indented.line),
      readFrom?_writeAt indented value numbered.1 (awaits_value .plain _) (depth + 1)
        (List.all_eq_true.1 rfl) (ends_members (depth + 1) members depth ('\x7d' :: rest))]
    show plain.readFrom? (.inside .separator
      (.object [(some name, value.mapStrings some)] :: frames)) _ = _
    rw [readFrom?_writeMembers indented members numbered.2 (depth + 1) (ends_line depth _),
      readFrom?_endObject (.inr rfl) (fun _ => indented.line), List.reverse_append,
      List.reverse_reverse]
    rfl

/-- Further items join those of an array. -/
theorem readFrom?_writeItems (indented : style.Blank) (items : List (Value String))
    (numbered : Value.NumberedItems items) {earlier : List (Value (Option String))}
    {frames : List (Frame (Option String))} (depth : Nat) {rest : List Char} (ends : Ends rest) :
    plain.readFrom? (.inside .separator (.array earlier :: frames))
        (writeItems style depth items ++ rest) =
      plain.readFrom? (.inside .separator
        (.array ((Value.mapItems some items).reverse ++ earlier) :: frames)) rest := by
  match items with
  | [] => rfl
  | item :: items =>
    -- What follows the item is the next comma, or what ends the whole run.
    have behind : Ends (writeItems style depth items ++ rest) := by
      cases items with
      | nil => exact ends
      | cons _ _ => exact ends_comma _
    rw [writeItems_cons_append, readFrom?_comma,
      readFrom?_writeAt indented item numbered.1 (awaits_next .plain _ _) depth
        (fun _ => indented.line) behind]
    show plain.readFrom? (.inside .separator
      (.array (item.mapStrings some :: earlier) :: frames)) _ = _
    rw [readFrom?_writeItems indented items numbered.2 depth ends, Value.mapItems,
      List.reverse_cons, List.append_assoc]
    rfl

/-- Further members join those of an object. -/
theorem readFrom?_writeMembers (indented : style.Blank) (members : List (String × Value String))
    (numbered : Value.NumberedMembers members)
    {earlier : List (Option String × Value (Option String))}
    {frames : List (Frame (Option String))} (depth : Nat) {rest : List Char} (ends : Ends rest) :
    plain.readFrom? (.inside .separator (.object earlier :: frames))
        (writeMembers style depth members ++ rest) =
      plain.readFrom? (.inside .separator
        (.object ((Value.mapMembers some members).reverse ++ earlier) :: frames)) rest := by
  match members with
  | [] => rfl
  | (name, value) :: members =>
    -- What follows the value is the next comma, or what ends the whole run.
    have behind : Ends (writeMembers style depth members ++ rest) := by
      cases members with
      | nil => exact ends
      | cons _ _ => exact ends_comma _
    rw [writeMembers_cons_append, readFrom?_comma, readFrom?_name (.inr rfl) (fun _ => indented.line),
      readFrom?_writeAt indented value numbered.1 (awaits_value .plain _) depth
        (List.all_eq_true.1 rfl) behind]
    show plain.readFrom? (.inside .separator
      (.object ((some name, value.mapStrings some) :: earlier) :: frames)) _ = _
    rw [readFrom?_writeMembers indented members numbered.2 depth ends, Value.mapMembers,
      List.reverse_cons, List.append_assoc]
    rfl

end

/-- A document is read back from its text. -/
theorem read?_write (indented : style.Blank) {value : Value String} (numbered : value.Numbered) :
    plain.read? (write style value) = some (value.mapStrings some) := by
  -- Behind the value stands nothing but the end of the last line.
  have ending : ∀ c ∈ style.ending, isGap c = true := by
    intro c member
    rw [Style.ending] at member
    split at member
    · exact indented.line (List.mem_append_left (List.replicate 0 style.indent).flatten member)
    · cases member
  have ends : Ends style.ending := by
    rw [Style.ending]
    split
    · have behind : Ends (style.line 0 ++ []) := ends_line 0 []
      simpa [Style.line] using behind
    · exact nofun
  have noGap : ∀ c ∈ ([] : List Char), isGap c = true := nofun
  have read := readFrom?_writeAt indented value numbered (awaits_value .plain []) 0 noGap ends
  rw [List.nil_append] at read
  rw [Grammar.read?, write_eq, Reading.start, read]
  exact readFrom?_end ending

end

end MessageCatalog.Json
