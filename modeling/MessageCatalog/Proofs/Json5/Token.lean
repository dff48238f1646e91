import MessageCatalog.Proofs.Json5.Number
import MessageCatalog.Proofs.Json5.StringUnit

/-! The tokens of the wide form behind blanks: names without quotes, words and numbers. -/

namespace MessageCatalog.Json5

open Json (Token Reading joinUnits? unitText? standsFor_char span_of_ends)

/-- A character that begins no comment is a blank or the start of a token. -/
theorem skip?_cons {c : Char} (noSlash : c ≠ '/') (text : List Char) :
    skip? (c :: text) = if isGap c then skip? text else some (c :: text) := by
  rw [skip?.eq_def]
  split
  · rename_i same
    cases same
  -- Two kinds of comments, and a slash that begins none.
  iterate 3
    rename_i same
    cases same
    exact absurd rfl noSlash
  · rename_i same
    cases same
    rfl

/-- What stands behind blanks: nothing, or a token, which begins with neither a blank nor a slash. -/
def Starts (text : List Char) : Prop := ∀ c tail, text = c :: tail → c ≠ '/' ∧ isGap c = false

/-- A character other than these two kinds is the start of a token. -/
theorem starts_cons {c : Char} (visible : c ≠ '/' ∧ isGap c = false) (rest : List Char) :
    Starts (c :: rest) := by
  rintro _ _ ⟨⟩
  exact visible

/-- The blanks in front of a text are skipped. -/
theorem skip?_starts {gap text : List Char} (blank : ∀ c ∈ gap, isGap c = true)
    (starts : Starts text) : skip? (gap ++ text) = some text := by
  -- By induction on the blanks, each of which is skipped by itself.
  induction gap with
  | nil =>
    cases text with
    | nil => rw [List.nil_append, skip?.eq_def]
    | cons c tail =>
      obtain ⟨noSlash, visible⟩ := starts c tail rfl
      rw [List.nil_append, skip?_cons noSlash, visible]
      rfl
  | cons c gap ih =>
    have first := blank c (.head _)
    have noSlash : c ≠ '/' := by
      rintro rfl
      cases first
    rw [List.cons_append, skip?_cons noSlash, if_pos first,
      ih fun d member => blank d (.tail _ member)]

/-- What may stand behind a number or a name: nothing, or another character. -/
def Ends (rest : List Char) : Prop :=
  ∀ c tail, rest = c :: tail → isNumberChar c = false ∧ continuesName c = false ∧ c ≠ '\\'

/-- What holds of all characters of ASCII holds of one. -/
theorem of_ascii {p : Char → Bool} (all : ∀ n : Fin 128, p (Char.ofNat n) = true) {c : Char}
    (ascii : c.toNat < 128) : p c = true := by
  have at_c := all ⟨c.toNat, ascii⟩
  rwa [Char.ofNat_toNat] at at_c

/-- The first character of a plain name. -/
def beginsPlain (c : Char) : Bool := c.isAlpha || c == '_' || c == '$'

/-- A further character of a plain name. -/
def staysPlain (c : Char) : Bool := c.isAlphanum || c == '_' || c == '$'

/-- The characters of plain names are of ASCII. -/
theorem ascii_of_staysPlain {c : Char} (plain : staysPlain c = true) : c.toNat < 128 := by
  have classes : ((decide ('A' ≤ c ∧ c ≤ 'Z') || decide ('a' ≤ c) && decide (c ≤ 'z')) ||
      decide ('0' ≤ c) && decide (c ≤ '9') || c == '_' || c == '$') = true := plain
  simp only [Bool.or_eq_true, Bool.and_eq_true, decide_eq_true_eq, beq_iff_eq] at classes
  -- Letters and digits have a last one, and the two signs are known.
  rcases classes with (((⟨-, upper⟩ | ⟨-, upper⟩) | ⟨-, upper⟩) | same) | same
  iterate 3
    have upper : c.toNat ≤ _ := upper
    exact Nat.lt_of_le_of_lt upper (by decide)
  all_goals
    rw [same]
    decide

/-- A further character of a plain name goes on with it, and is neither a blank nor a backslash. -/
theorem continuesName_of_staysPlain {c : Char} (plain : staysPlain c = true) :
    continuesName c = true ∧ isGap c = false ∧ c ≠ '/' ∧ c ≠ '\\' := by
  -- All characters of ASCII are gone through, here and for the first character of a name.
  have each : (!staysPlain c || continuesName c && !isGap c && c != '/' && c != '\\') = true :=
    of_ascii (p := fun c => !staysPlain c || continuesName c && !isGap c && c != '/' && c != '\\')
      (by decide +kernel) (ascii_of_staysPlain plain)
  simpa [plain, and_assoc] using each

/-- A plain name holds no separator. -/
theorem isUnbroken_of_staysPlain {name : String} (plain : ∀ c ∈ name.toList, staysPlain c = true) :
    isUnbroken name = true := by
  refine List.all_eq_true.2 fun c member => ?_
  -- A separator is a blank.
  obtain ⟨-, visible, -⟩ := continuesName_of_staysPlain (plain c member)
  cases separator : isSeparator c with
  | false => rfl
  | true =>
    have either : c = '\u2028' ∨ c = '\u2029' := by simpa [isSeparator] using separator
    rcases either with rfl | rfl <;> cases visible

/-- The first character of a plain name may be a further one. -/
theorem staysPlain_of_beginsPlain {c : Char} (plain : beginsPlain c = true) :
    staysPlain c = true := by
  simp only [beginsPlain, Bool.or_eq_true] at plain
  rcases plain with (letter | score) | dollar
  · simp [staysPlain, Char.isAlphanum, letter]
  · simp [staysPlain, score]
  · simp [staysPlain, dollar]

/-- The first character of a plain name starts a name and no other token. -/
theorem startsName_of_beginsPlain {c : Char} (plain : beginsPlain c = true) :
    startsName c = true ∧ (isNumberChar c && !c.isAlpha) = false := by
  have each : (!beginsPlain c || startsName c && !(isNumberChar c && !c.isAlpha)) = true :=
    of_ascii (p := fun c => !beginsPlain c || startsName c && !(isNumberChar c && !c.isAlpha))
      (by decide +kernel) (ascii_of_staysPlain (staysPlain_of_beginsPlain plain))
  simpa only [plain, Bool.not_true, Bool.false_or, Bool.and_eq_true, Bool.not_eq_true'] using each

/-- A plain name is the start of a token. -/
theorem starts_word {c : Char} (plain : beginsPlain c = true) (text : List Char) :
    Starts (c :: text) := by
  obtain ⟨-, visible, noSlash, -⟩ := continuesName_of_staysPlain (staysPlain_of_beginsPlain plain)
  exact starts_cons ⟨noSlash, visible⟩ text

/-- A number is the start of a token. -/
theorem starts_number {literal : List Char} (numeral : IsNumeral literal) (rest : List Char) :
    Starts (literal ++ rest) := by
  obtain ⟨number, inside, -⟩ := numeral
  cases literal with
  | nil => cases number
  | cons c digits =>
    refine starts_cons ?_ _
    -- The first character is one of names, a point or a sign, none of which is a gap or a slash.
    have numberChar := inside c (.head _)
    simp only [isNumberChar, Bool.or_eq_true, beq_iff_eq] at numberChar
    rcases numberChar with ((plain | rfl) | rfl) | rfl
    · have stays : staysPlain c = true := by simp [staysPlain, plain]
      obtain ⟨-, visible, noSlash, -⟩ := continuesName_of_staysPlain stays
      exact ⟨noSlash, visible⟩
    all_goals exact ⟨by decide, rfl⟩

/-- A character that begins no escape goes on with a name or ends it. -/
theorem nameUnits?_cons {c : Char} (noEscape : c ≠ '\\') (first : Bool) (rest : List Char) :
    nameUnits? first (c :: rest) =
      if if first then startsName c else continuesName c then
        (nameUnits? false rest).map fun (units, behind) => (.char c :: units, behind)
      else if first then none else some ([], c :: rest) := by
  rw [nameUnits?]
  rintro _ rfl
  exact absurd rfl noEscape

/-- A name of plain characters goes on as far as they do. -/
theorem nameUnits?_plain {name : List Char} (plain : ∀ c ∈ name, staysPlain c = true)
    {rest : List Char} (ends : Ends rest) :
    nameUnits? false (name ++ rest) = some (name.map .char, rest) := by
  -- By induction on the name; behind it a character stands that goes on with no name.
  induction name with
  | nil =>
    cases rest with
    | nil => rw [List.nil_append, nameUnits?]; rfl
    | cons c tail =>
      obtain ⟨-, noPart, noEscape⟩ := ends c tail rfl
      rw [List.nil_append, nameUnits?_cons noEscape, noPart]
      rfl
  | cons c name ih =>
    obtain ⟨part, -, -, noEscape⟩ := continuesName_of_staysPlain (plain c (.head _))
    rw [List.cons_append, nameUnits?_cons noEscape, part, ih fun d member => plain d (.tail _ member)]
    rfl

/-- Characters join to the text that they make up. -/
theorem joinUnits?_char (text : List Char) : joinUnits? (text.map .char) = some text := by
  induction text with
  | nil => rfl
  | cons c text ih =>
    rw [List.map_cons, standsFor_char c, ih]
    rfl

/-- A plain name is one token, which spells itself. -/
theorem wideToken?_word {c : Char} {word : List Char} (begins : beginsPlain c = true)
    (stays : ∀ d ∈ word, staysPlain d = true) {rest : List Char} (ends : Ends rest) :
    wideToken? (c :: word ++ rest) =
      some (.word (c :: word) (some (String.ofList (c :: word))), rest) := by
  obtain ⟨starts, noNumber⟩ := startsName_of_beginsPlain begins
  obtain ⟨-, -, -, noEscape⟩ := continuesName_of_staysPlain (staysPlain_of_beginsPlain begins)
  have units : nameUnits? true (c :: (word ++ rest)) = some ((c :: word).map .char, rest) := by
    rw [nameUnits?_cons noEscape, if_pos rfl, if_pos starts, nameUnits?_plain stays ends]
    rfl
  -- The word is what was taken from the text, up to what is left.
  have spelled : (c :: (word ++ rest)).take ((c :: (word ++ rest)).length - rest.length) =
      c :: word := by
    rw [← List.cons_append, List.length_append, Nat.add_sub_cancel]
    exact List.take_left
  have told : unitText? ((c :: word).map .char) = some (String.ofList (c :: word)) := by
    rw [unitText?, joinUnits?_char]
    rfl
  -- The word begins with no sign, no quote and no digit, so it is the last kind of token.
  rw [List.cons_append, wideToken?, noNumber, if_neg, units]
  · dsimp only [Option.map_some, Bool.false_eq_true, if_false]
    rw [spelled, told]
    rfl
  · rintro (rfl | rfl) <;> cases starts
  all_goals
    rintro rfl
    cases starts

/-- A number is one token. -/
theorem wideToken?_number {literal : List Char} (numeral : IsNumeral literal) {rest : List Char}
    (ends : Ends rest) : wideToken? (literal ++ rest) = some (.number literal, rest) := by
  obtain ⟨number, inside, noLetter⟩ := numeral
  obtain ⟨taken, dropped⟩ := span_of_ends inside fun c tail same => (ends c tail same).1
  cases literal with
  | nil => cases number
  | cons c digits =>
    have numberChar := inside c (.head _)
    rw [List.cons_append] at taken dropped ⊢
    -- Neither a sign nor a quote begins a number, and no letter does.
    rw [wideToken?, numberChar, noLetter c digits rfl, if_neg]
    · dsimp only
      rw [taken, dropped, number]
      rfl
    · rintro (rfl | rfl) <;> cases numberChar
    all_goals
      rintro rfl
      cases numberChar

section

variable {reading : Reading (Option String)} {gap text behind : List Char}

/-- The token behind some blanks is added to the reading. -/
theorem readFrom?_token {token : Token (Option String)} (blank : ∀ c ∈ gap, isGap c = true)
    (starts : Starts text) (taken : wideToken? text = some (token, behind)) :
    wide.readFrom? reading (gap ++ text) =
      (reading.add wide.toDialect token).bind fun next => wide.readFrom? next behind := by
  cases text with
  | nil => cases taken
  | cons c tail => exact wide.readFrom?_of_token (skip?_starts blank starts) taken

/-- A text that goes on with no token behind some blanks has no value. -/
theorem readFrom?_noToken {c : Char} {tail : List Char} (blank : ∀ c ∈ gap, isGap c = true)
    (starts : Starts (c :: tail)) (refused : wideToken? (c :: tail) = none) :
    wide.readFrom? reading (gap ++ c :: tail) = none :=
  wide.readFrom?_of_noToken (skip?_starts blank starts) refused

/-- Behind the last token only blanks may stand. -/
theorem readFrom?_end (blank : ∀ c ∈ gap, isGap c = true) :
    wide.readFrom? reading gap = reading.value? := by
  have nothing : Starts [] := nofun
  have skipped := skip?_starts blank nothing
  rw [List.append_nil] at skipped
  exact wide.readFrom?_of_end skipped

end

end MessageCatalog.Json5
