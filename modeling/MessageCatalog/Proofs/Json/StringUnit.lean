import MessageCatalog.Json.Layout
import MessageCatalog.Json.Text
import MessageCatalog.Proofs.Text.Number

/-! A string is read back from between its quotes, character by character. -/

namespace MessageCatalog.Json

/-- A unit that stands for a character by itself, whatever follows. -/
def StandsFor (unit : StringUnit) (c : Char) : Prop :=
  ∀ rest, joinUnits? (unit :: rest) = (joinUnits? rest).map (c :: ·)

/-- A character stands for itself. -/
theorem standsFor_char (c : Char) : StandsFor (.char c) c :=
  fun _ => joinUnits?.eq_2 ..

/-- A code unit below the surrogates stands for the character with that code point. -/
theorem standsFor_code {c : Char} (low : c.toNat < 0xD800) : StandsFor (.code c.toNat) c := by
  -- Only a leading surrogate is joined with the unit behind it, so the cases differ by that unit.
  intro rest
  have noLead : isLead c.toNat = false := by
    rw [isLead, decide_eq_false_iff_not]
    omega
  have known := charOfCode?_toNat c
  match rest with
  | [] =>
    show (charOfCode? c.toNat).map (fun c => [c]) = some [c]
    rw [known]
    rfl
  | .char d :: rest =>
    rw [joinUnits?, joinUnits?, known]
    cases joinUnits? rest <;> rfl
  | .code second :: rest =>
    rw [joinUnits?, noLead, known]
    cases joinUnits? (.code second :: rest) <;> rfl

/-- A byte has the value of the four digits that it is written as. -/
theorem fourHexDigits?_byte {n : Nat} (byte : n < 256) (rest : List Char) :
    fourHexDigits? ('0' :: '0' :: Nat.digitChar (n / 16) :: Nat.digitChar (n % 16) :: rest) =
      some (n, rest) := by
  have zero : hexDigit? '0' = some 0 := by decide
  have high := hexDigit?_digitChar (n := n / 16) (by omega)
  have low := hexDigit?_digitChar (n := n % 16) (by omega)
  -- The two zeros add nothing, and quotient and remainder make up the number.
  have whole : (0 * 16 + 0) * 16 + n / 16 = n / 16 := by omega
  have sum : n / 16 * 16 + n % 16 = n := by omega
  simp only [fourHexDigits?, zero, high, low, Option.bind_eq_bind, Option.bind_some, whole, sum]
  rfl

/-- A string goes on behind a text with a unit in front of its other units. -/
def Yields (text : List Char) (unit : StringUnit) : Prop :=
  ∀ rest, stringUnits? (text ++ rest) =
    (stringUnits? rest).map fun (units, behind) => (unit :: units, behind)

/-- A character behind a backslash yields the one that it denotes. -/
theorem yields_escape {d e : Char} (noCode : d ≠ 'u') (known : escaped? d = some e) :
    Yields ['\\', d] (.char e) := by
  intro rest
  rw [List.cons_append, List.singleton_append, stringUnits?, known]
  · cases stringUnits? rest <;> rfl
  · exact noCode

/-- Four digits behind a backslash yield a code unit. -/
theorem yields_code {n : Nat} (byte : n < 256) :
    Yields ['\\', 'u', '0', '0', Nat.digitChar (n / 16), Nat.digitChar (n % 16)] (.code n) := by
  intro rest
  have digits := fourHexDigits?_byte byte rest
  simp only [List.cons_append, List.nil_append]
  rw [stringUnits?.eq_3]
  -- The four digits are read, and so the other case of the escape is impossible.
  split
  · rename_i unit behind found
    rw [digits] at found
    cases found
    rfl
  · rename_i none
    rw [digits] at none
    cases none

/-- A character that is no control, quote or backslash yields itself. -/
theorem yields_char {c : Char} (noQuote : c ≠ '"') (noEscape : c ≠ '\\')
    (noControl : ¬ c.toNat < 0x20) : Yields [c] (.char c) := by
  intro rest
  -- None of the cases before the last one applies to such a character.
  rw [List.singleton_append, stringUnits?, if_neg]
  · rintro (escape | control)
    · exact noEscape escape
    · exact noControl control
  · exact noQuote
  · exact fun _ escape _ => noEscape escape
  · exact fun _ _ escape _ => noEscape escape

/-- A character as it is written yields a unit that stands for it. -/
theorem yields_escapeChar (c : Char) : ∃ unit, StandsFor unit c ∧ Yields (escapeChar c) unit := by
  -- A quote, a backslash and five controls have an escape of one letter, the other controls a code.
  unfold escapeChar
  split
  · rename_i same
    exact ⟨_, same ▸ standsFor_char _, yields_escape (by decide) rfl⟩
  rename_i noQuote
  split
  · rename_i same
    exact ⟨_, same ▸ standsFor_char _, yields_escape (by decide) rfl⟩
  rename_i noEscape
  iterate 5
    split
    · rename_i same
      exact ⟨_, same ▸ standsFor_char _, yields_escape (by decide) rfl⟩
  split
  · rename_i control
    exact ⟨_, standsFor_code (by omega), yields_code (by omega)⟩
  · rename_i noControl
    exact ⟨_, standsFor_char c, yields_char noQuote noEscape noControl⟩

/-- The characters of a text are read back up to the quote behind them. -/
theorem stringUnits?_escaped (text rest : List Char) :
    ∃ units, stringUnits? (text.flatMap escapeChar ++ '"' :: rest) = some (units, rest) ∧
      joinUnits? units = some text := by
  -- By induction on the text; each character gives one unit, which stands for it whatever follows.
  induction text with
  | nil => exact ⟨[], stringUnits?.eq_2 rest, rfl⟩
  | cons c text ih =>
    obtain ⟨units, read, joined⟩ := ih
    obtain ⟨unit, stands, yields⟩ := yields_escapeChar c
    refine ⟨unit :: units, ?_, ?_⟩
    · rw [List.flatMap_cons, List.append_assoc, yields, read]
      rfl
    · rw [stands, joined]
      rfl

/-- A string between quotes is one token. -/
theorem plainToken?_writeString (text : String) (rest : List Char) :
    plainToken? (writeString text ++ rest) = some (.string (some text), rest) := by
  obtain ⟨units, read, joined⟩ := stringUnits?_escaped text.toList rest
  have spelled : writeString text ++ rest =
      '"' :: (text.toList.flatMap escapeChar ++ '"' :: rest) := by simp [writeString]
  -- The units that are read join to the text that was written.
  have whole : unitText? units = some text := by
    rw [unitText?, joined, Option.map_some, String.ofList_toList]
  rw [spelled, plainToken?, read, Option.map_some]
  dsimp only
  rw [whole]

end MessageCatalog.Json
