import MessageCatalog.Json5.Text
import MessageCatalog.Proofs.Json.StringUnit

/-! A string that was written for the plain form is read in the wide one, unless it holds a separator of
lines or paragraphs, which ends a line there. -/

namespace MessageCatalog.Json5

open Json (StringUnit StandsFor standsFor_char standsFor_code fourHexDigits?_byte escapeChar
  joinUnits? unitText? writeString)

/-- A character that ends a line in the wide form and is written as it is. -/
def isSeparator (c : Char) : Bool := c == '\u2028' || c == '\u2029'

/-- A text without separators. -/
def isUnbroken (text : String) : Bool := text.toList.all fun c => !isSeparator c

/-- A string goes on behind a text with a unit in front of its other units. -/
def Yields (text : List Char) (unit : StringUnit) : Prop :=
  ∀ rest, stringUnits? '"' (text ++ rest) =
    (stringUnits? '"' rest).map fun (units, behind) => (unit :: units, behind)

/-- An escape yields the unit that it denotes. -/
theorem yields_of_escape {text : List Char} {unit : StringUnit}
    (escaped : ∀ rest, escape? (text ++ rest) = some (some unit, rest)) :
    Yields ('\\' :: text) unit := by
  intro rest
  rw [List.cons_append, stringUnits?, if_neg (by decide), if_pos rfl]
  -- What stands behind the backslash is read as an escape, so the other case cannot be.
  split
  · rename_i found
    rw [escaped] at found
    cases found
    rfl
  · rename_i none
    rw [escaped] at none
    cases none

/-- A letter or a sign behind a backslash yields the character that it denotes. -/
theorem yields_escape {d e : Char} (noEnd : endsLine d = false)
    (noCode : d ≠ '\r' ∧ d ≠ '0' ∧ d ≠ 'x' ∧ d ≠ 'u') (known : escaped? d = some e) :
    Yields ['\\', d] (.char e) := by
  obtain ⟨noReturn, noZero, noByte, noUnit⟩ := noCode
  apply yields_of_escape
  intro rest
  -- The character has no case of its own, so it is looked up.
  rw [List.singleton_append, escape?, noEnd, known]
  · rfl
  · rintro _ rfl
    exact absurd rfl noReturn
  · exact noZero
  · exact noByte
  · exact noUnit

/-- Four digits behind a backslash yield a code unit. -/
theorem yields_code {n : Nat} (byte : n < 256) :
    Yields ['\\', 'u', '0', '0', Nat.digitChar (n / 16), Nat.digitChar (n % 16)] (.code n) := by
  apply yields_of_escape
  intro rest
  have digits := fourHexDigits?_byte byte rest
  simp only [List.cons_append, List.nil_append, escape?, digits]
  rfl

/-- Any other character that ends no line yields itself. -/
theorem yields_char {c : Char} (noQuote : c ≠ '"') (noEscape : c ≠ '\\') (noEnd : endsLine c = false) :
    Yields [c] (.char c) := by
  intro rest
  rw [List.singleton_append, stringUnits?, if_neg noQuote, if_neg noEscape, noEnd]
  rfl

/-- Of the characters that end lines only separators are written as they are. -/
theorem endsLine_of_written {c : Char} (noFeed : c ≠ '\n') (noReturn : c ≠ '\r') :
    endsLine c = isSeparator c := by
  rw [endsLine, beq_eq_false_iff_ne.2 noFeed, beq_eq_false_iff_ne.2 noReturn]
  rfl

/-- A character other than a separator yields a unit that stands for it. -/
theorem yields_escapeChar {c : Char} (whole : isSeparator c = false) :
    ∃ unit, StandsFor unit c ∧ Yields (escapeChar c) unit := by
  -- A quote, a backslash and five controls have an escape of one letter, the other controls a code.
  unfold escapeChar
  split
  · rename_i same
    exact ⟨_, same ▸ standsFor_char _, yields_escape rfl (by decide) rfl⟩
  rename_i noQuote
  split
  · rename_i same
    exact ⟨_, same ▸ standsFor_char _, yields_escape rfl (by decide) rfl⟩
  rename_i noEscape
  iterate 2
    split
    · rename_i same
      exact ⟨_, same ▸ standsFor_char _, yields_escape rfl (by decide) rfl⟩
  split
  · rename_i same
    exact ⟨_, same ▸ standsFor_char _, yields_escape rfl (by decide) rfl⟩
  rename_i noFeed
  split
  · rename_i same
    exact ⟨_, same ▸ standsFor_char _, yields_escape rfl (by decide) rfl⟩
  rename_i noReturn
  split
  · rename_i same
    exact ⟨_, same ▸ standsFor_char _, yields_escape rfl (by decide) rfl⟩
  -- A control without a letter has a code, and any other character stands for itself.
  split
  · rename_i control
    exact ⟨_, standsFor_code (by omega), yields_code (by omega)⟩
  · have noEnd : endsLine c = false := (endsLine_of_written noFeed noReturn).trans whole
    exact ⟨_, standsFor_char c, yields_char noQuote noEscape noEnd⟩

/-- A separator ends the line, and a string does not go on behind it. -/
theorem stringUnits?_separator {c : Char} (separator : isSeparator c = true) (rest : List Char) :
    stringUnits? '"' (escapeChar c ++ rest) = none := by
  have either : c = '\u2028' ∨ c = '\u2029' := by simpa [isSeparator] using separator
  -- Both separators are written as they are, and neither may stand in a string.
  rcases either with rfl | rfl
  · have written : escapeChar '\u2028' = ['\u2028'] := by decide
    rw [written, List.singleton_append, stringUnits?]
    rfl
  · have written : escapeChar '\u2029' = ['\u2029'] := by decide
    rw [written, List.singleton_append, stringUnits?]
    rfl

/-- The characters of a text without separators are read back up to the quote behind them. -/
theorem stringUnits?_escaped {text : List Char} (whole : ∀ c ∈ text, isSeparator c = false)
    (rest : List Char) :
    ∃ units, stringUnits? '"' (text.flatMap escapeChar ++ '"' :: rest) = some (units, rest) ∧
      joinUnits? units = some text := by
  -- By induction on the text; each character gives one unit, which stands for it whatever follows.
  induction text with
  | nil => exact ⟨[], by rw [List.flatMap_nil, List.nil_append, stringUnits?, if_pos rfl], rfl⟩
  | cons c text ih =>
    obtain ⟨units, read, joined⟩ := ih fun d member => whole d (.tail _ member)
    obtain ⟨unit, stands, yields⟩ := yields_escapeChar (whole c (.head _))
    refine ⟨unit :: units, ?_, ?_⟩
    · rw [List.flatMap_cons, List.append_assoc, yields, read]
      rfl
    · rw [stands, joined]
      rfl

/-- A text with a separator is no string. -/
theorem stringUnits?_broken {text : List Char} (broken : ∃ c ∈ text, isSeparator c = true)
    (rest : List Char) : stringUnits? '"' (text.flatMap escapeChar ++ '"' :: rest) = none := by
  -- By induction on the text, which is read up to its first separator.
  induction text with
  | nil =>
    obtain ⟨c, member, -⟩ := broken
    cases member
  | cons c text ih =>
    rw [List.flatMap_cons, List.append_assoc]
    cases separator : isSeparator c with
    | true => exact stringUnits?_separator separator _
    | false =>
      obtain ⟨unit, -, yields⟩ := yields_escapeChar separator
      obtain ⟨d, member, found⟩ := broken
      rcases List.mem_cons.1 member with rfl | later
      · rw [separator] at found
        cases found
      · rw [yields, ih ⟨d, later, found⟩]
        rfl

/-- A string between quotes is one token when it holds no separator, and otherwise none. -/
theorem wideToken?_writeString (text : String) (rest : List Char) :
    wideToken? (writeString text ++ rest) =
      if isUnbroken text then some (.string (some text), rest) else none := by
  have spelled : writeString text ++ rest =
      '"' :: (text.toList.flatMap escapeChar ++ '"' :: rest) := by simp [writeString]
  have started (inner : List Char) : wideToken? ('"' :: inner) =
      (stringUnits? '"' inner).map fun (units, behind) => (.string (unitText? units), behind) := rfl
  rw [spelled, started]
  -- A separator breaks the string off, so that no token ends at the closing quote.
  cases whole : isUnbroken text with
  | true =>
    have each : ∀ c ∈ text.toList, isSeparator c = false := by
      simpa [isUnbroken] using whole
    obtain ⟨units, read, joined⟩ := stringUnits?_escaped each rest
    have told : unitText? units = some text := by
      rw [unitText?, joined, Option.map_some, String.ofList_toList]
    rw [read, Option.map_some]
    dsimp only
    rw [told]
    rfl
  | false =>
    have broken : ∃ c ∈ text.toList, isSeparator c = true := by
      simpa [isUnbroken] using whole
    rw [stringUnits?_broken broken rest]
    rfl

end MessageCatalog.Json5
