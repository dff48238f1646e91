import MessageCatalog.Proofs.Source.Literal
import MessageCatalog.Proofs.Text.Number
import MessageCatalog.Proofs.Text.Pieces

/-! A text may be spelled with its characters as they are and with escapes for their code points, which are
decoded to the characters again, except for those that take two code units. -/

namespace MessageCatalog

/-- A hexadecimal digit in one of its cases. -/
structure HexDigit where
  value : Fin 16
  upper : Bool

namespace HexDigit

/-- The digit as it is written. -/
def char (digit : HexDigit) : Char :=
  if digit.upper then (Nat.digitChar digit.value).toUpper else Nat.digitChar digit.value

/-- The number that digits write, with the first one in the highest place. -/
def number (digits : List HexDigit) : Nat :=
  digits.foldl (fun value digit => value * 16 + digit.value.val) 0

/-- A digit has its value in either case. -/
theorem hexDigit?_char (digit : HexDigit) : hexDigit? digit.char = some digit.value.val := by
  obtain ⟨value, upper⟩ := digit
  -- A digit is read in either case; of capitals there are few enough to try them all.
  cases upper with
  | false => exact hexDigit?_digitChar value.isLt
  | true =>
    have capital : ∀ value : Fin 16,
        hexDigit? (Nat.digitChar value).toUpper = some value.val := by decide
    exact capital value

/-- Other characters are no digits. -/
theorem char_ne {c : Char} (noDigit : hexDigit? c = none) (digit : HexDigit) : digit.char ≠ c := by
  rintro rfl
  rw [hexDigit?_char] at noDigit
  cases noDigit

/-- Digits have the number that they write. -/
theorem hexNumber?_map_char {digits : List HexDigit} (nonempty : digits ≠ []) :
    hexNumber? (digits.map char) = some (number digits) := by
  have read (value : Nat) (digits : List HexDigit) :
      digitsFrom? hexDigit? 16 value (digits.map char) =
        some (digits.foldl (fun value digit => value * 16 + digit.value.val) value) := by
    induction digits generalizing value with
    | nil => rfl
    | cons digit digits ih =>
      rw [List.map_cons, digitsFrom?, hexDigit?_char]
      exact ih _
  obtain ⟨digit, digits, rfl⟩ := List.exists_cons_of_ne_nil nonempty
  -- The first digit is no sign.
  have noSign := char_ne (c := '+') (by decide) digit
  rw [hexNumber?, signedDigits?.eq_def, List.map_cons]
  split
  · contradiction
  · simp_all
  · simp_all
  · exact read 0 (digit :: digits)

end HexDigit

namespace Source

section

variable {digits : List HexDigit} (opening : List Char)

/-- Digits for the code point of a character are replaced by it. -/
theorem codePoint_of_toNat {c : Char} (nonempty : digits ≠ [])
    (code : HexDigit.number digits = c.toNat) :
    codePoint opening (digits.map HexDigit.char) = [c] := by
  rw [codePoint, HexDigit.hexNumber?_map_char nonempty, code, Option.bind_some, charOfCode?_toNat]

/-- Digits for a surrogate stay as they stand. -/
theorem codePoint_of_surrogate (nonempty : digits ≠ [])
    (surrogate : 0xD800 ≤ HexDigit.number digits ∧ HexDigit.number digits ≤ 0xDFFF) :
    codePoint opening (digits.map HexDigit.char) = opening ++ digits.map HexDigit.char := by
  have noChar : charOfCode? (HexDigit.number digits) = none := by
    rw [charOfCode?, if_neg]
    unfold Nat.isValidChar
    omega
  rw [codePoint, HexDigit.hexNumber?_map_char nonempty, Option.bind_some, noChar]

/-- Four digits behind a backslash and the letter for code units are decoded by themselves. -/
theorem decodeEscapes_unit (four : digits.length = 4) (rest : List Char) :
    decodeEscapes ('\\' :: 'u' :: (digits.map HexDigit.char ++ rest)) =
      codePoint ['\\', 'u'] (digits.map HexDigit.char) ++ decodeEscapes rest := by
  have length : (digits.map HexDigit.char).length = 4 := by rw [List.length_map, four]
  have noBrace (tail : List Char) : digits.map HexDigit.char ++ rest ≠ '{' :: tail := by
    obtain ⟨digit, digits, rfl⟩ := List.exists_cons_of_length_eq_add_one four
    intro same
    exact HexDigit.char_ne (c := '{') (by decide) digit (List.head_eq_of_cons_eq same)
  rw [decodeEscapes.eq_5 _ noBrace, List.take_left' length, List.drop_left' length]

/-- An escape for a surrogate stays as it stands. -/
theorem decodeEscapes_surrogate (four : digits.length = 4)
    (surrogate : 0xD800 ≤ HexDigit.number digits ∧ HexDigit.number digits ≤ 0xDFFF)
    (rest : List Char) :
    decodeEscapes ('\\' :: 'u' :: (digits.map HexDigit.char ++ rest)) =
      '\\' :: 'u' :: (digits.map HexDigit.char ++ decodeEscapes rest) := by
  have nonempty : digits ≠ [] := List.ne_nil_of_length_eq_add_one four
  rw [decodeEscapes_unit four, codePoint_of_surrogate _ nonempty surrogate]
  rfl

/-- Digits in braces are decoded to the character that has them as its code point. -/
theorem decodeEscapes_braced {c : Char} (nonempty : digits ≠ [])
    (code : HexDigit.number digits = c.toNat) (rest : List Char) :
    decodeEscapes ('\\' :: 'u' :: '{' :: (digits.map HexDigit.char ++ '}' :: rest)) =
      c :: decodeEscapes rest := by
  -- No digit is the closing brace.
  have inBraces : ∀ d ∈ digits.map HexDigit.char, (d != '}') = true := by
    intro d member
    obtain ⟨digit, -, rfl⟩ := List.mem_map.1 member
    exact bne_iff_ne.2 (HexDigit.char_ne (by decide) digit)
  rw [decodeEscapes.eq_4, List.takeWhile_append_of_pos inBraces,
    List.dropWhile_append_of_pos inBraces, List.takeWhile_cons_of_neg (by decide),
    List.dropWhile_cons_of_neg (by decide), List.append_nil, codePoint_of_toNat _ nonempty code]
  rfl

end

/-- Code points end with the planes that take two code units. -/
theorem toNat_lt (c : Char) : c.toNat < 0x110000 := by
  have valid : c.toNat.isValidChar := c.valid
  unfold Nat.isValidChar at valid
  omega

/-- The code units of sixteen bits for a character: one, or a pair of surrogates. -/
def codeUnits (c : Char) : List Nat :=
  if c.toNat < 0x10000 then [c.toNat]
  else [0xD800 + (c.toNat - 0x10000) / 0x400, 0xDC00 + (c.toNat - 0x10000) % 0x400]

/-- A character as it is spelled in a literal. -/
inductive Spelling where
  /-- As it is. -/
  | itself (c : Char) (plain : c ≠ '\\')
  /-- By two digits for its code point. -/
  | byte (c : Char) (high low : HexDigit) (code : HexDigit.number [high, low] = c.toNat)
  /-- By any number of digits in braces. -/
  | braced (c : Char) (digits : List HexDigit) (nonempty : digits ≠ [])
    (code : HexDigit.number digits = c.toNat)
  /-- By four digits for each of its code units. -/
  | units (c : Char) (escapes : List (List HexDigit)) (four : ∀ digits ∈ escapes, digits.length = 4)
    (codes : escapes.map HexDigit.number = codeUnits c)

namespace Spelling

/-- The character that is spelled. -/
def char : Spelling → Char
  | itself c _ => c
  | byte c _ _ _ => c
  | braced c _ _ _ => c
  | units c _ _ _ => c

/-- The characters that it is spelled with. -/
def written : Spelling → List Char
  | itself c _ => [c]
  | byte _ high low _ => ['\\', 'x', high.char, low.char]
  | braced _ digits _ _ => '\\' :: 'u' :: '{' :: (digits.map HexDigit.char ++ ['}'])
  | units _ escapes _ _ => escapes.flatMap fun digits => '\\' :: 'u' :: digits.map HexDigit.char

/-- Whether a character is spelled by a pair of surrogates. -/
def isPair : Spelling → Bool
  | units c _ _ _ => decide (0x10000 ≤ c.toNat)
  | _ => false

/-- What is decoded from the spelling of a character: the character, or the escapes of a pair as they
stand. -/
def decoded (spelling : Spelling) : List Char :=
  if spelling.isPair then spelling.written else [spelling.char]

/-- A character that is spelled by no pair is decoded, and a pair stays as it stands, whatever follows. -/
theorem decodeEscapes_written (spelling : Spelling) (rest : List Char) :
    decodeEscapes (spelling.written ++ rest) = spelling.decoded ++ decodeEscapes rest := by
  -- By the ways to spell a character: as itself, by a byte, in braces, or by units of sixteen bits.
  cases spelling with
  | itself c plain => exact decodeEscapes_plain plain
  | byte c high low code =>
    have decoded : codePoint ['\\', 'x'] [high.char, low.char] = [c] :=
      codePoint_of_toNat _ (List.cons_ne_nil high [low]) code
    exact (decodeEscapes.eq_3 _).trans (congrArg (· ++ decodeEscapes rest) decoded)
  -- The braces hold any number of digits, so the rest is given to the decoder as it stands.
  | braced c digits nonempty code =>
    have spelled : (braced c digits nonempty code).written ++ rest =
        '\\' :: 'u' :: '{' :: (digits.map HexDigit.char ++ '}' :: rest) := by simp [written]
    rw [spelled]
    exact decodeEscapes_braced nonempty code rest
  | units c escapes four codes =>
    by_cases wide : 0x10000 ≤ c.toNat
    · -- No surrogate is a character by itself, so that both escapes stay.
      have pair := codes.trans (if_neg (Nat.not_lt.2 wide))
      obtain ⟨lead, others, rfl, leads, rest'⟩ := List.map_eq_cons_iff.1 pair
      obtain ⟨trail, rfl, trails⟩ := List.map_eq_singleton_iff.1 rest'
      have below : c.toNat < 0x110000 := toNat_lt c
      have stays : (units c [lead, trail] four codes).decoded =
          (units c [lead, trail] four codes).written := if_pos (by simpa [isPair] using wide)
      have spelled (rest : List Char) : (units c [lead, trail] four codes).written ++ rest =
          '\\' :: 'u' :: (lead.map HexDigit.char ++
            '\\' :: 'u' :: (trail.map HexDigit.char ++ rest)) := by simp [written]
      rw [stays, spelled, spelled, decodeEscapes_surrogate (four lead (.head _)) (by omega),
        decodeEscapes_surrogate (four trail (.tail _ (.head _))) (by omega)]
    · -- One unit is a character by itself, and is decoded to it.
      have single := codes.trans (if_pos (Nat.not_le.1 wide))
      obtain ⟨digits, rfl, code⟩ := List.map_eq_singleton_iff.1 single
      have alone : (units c [digits] four codes).decoded = [c] := if_neg (by simpa [isPair] using wide)
      have nonempty : digits ≠ [] := List.ne_nil_of_length_eq_add_one (four digits (.head _))
      rw [alone, written, List.flatMap_singleton, List.cons_append, List.cons_append,
        decodeEscapes_unit (four digits (.head _)), codePoint_of_toNat _ nonempty code]

/-- A spelled text is decoded character by character. -/
theorem decodeEscapes_flatMap_written (spellings : List Spelling) :
    decodeEscapes (spellings.flatMap written) = spellings.flatMap decoded := by
  induction spellings with
  | nil => exact decodeEscapes.eq_1
  | cons spelling spellings ih =>
    rw [List.flatMap_cons, List.flatMap_cons, decodeEscapes_written, ih]

/-- A pair of surrogates is written with more than one character. -/
theorem one_lt_length_written {spelling : Spelling} (pair : spelling.isPair = true) :
    1 < spelling.written.length := by
  cases spelling with
  | units c escapes four codes =>
    rw [isPair, decide_eq_true_eq] at pair
    -- A pair has two units, so at least a second escape is written.
    obtain ⟨lead, others, rfl, -, -⟩ :=
      List.map_eq_cons_iff.1 (codes.trans (if_neg (Nat.not_lt.2 pair)))
    simp [written]
  | _ => cases pair

/-- The character alone is decoded from all spellings but pairs. -/
theorem decoded_eq_singleton_iff {spelling : Spelling} :
    spelling.decoded = [spelling.char] ↔ spelling.isPair = false := by
  rw [decoded]
  -- A pair stays as it is written, which is longer than one character.
  split
  · rename_i pair
    refine iff_of_false (fun same => ?_) (by rw [pair]; exact Bool.noConfusion)
    have long := one_lt_length_written pair
    rw [same] at long
    exact Nat.lt_irrefl 1 long
  · rename_i noPair
    exact iff_of_true rfl (eq_false_of_ne_true noPair)

/-- Something is decoded from each spelling. -/
theorem decoded_ne_nil (spelling : Spelling) : spelling.decoded ≠ [] := by
  rw [decoded]
  split
  · rename_i pair
    exact List.ne_nil_of_length_pos (Nat.zero_lt_of_lt (one_lt_length_written pair))
  · exact List.cons_ne_nil _ _

end Spelling

/-- Each character of a spelled text is decoded by itself, so that the text is what is decoded just when
none of its characters is spelled by a pair of surrogates. -/
theorem decodeEscapes_spelled (spellings : List Spelling) :
    decodeEscapes (spellings.flatMap Spelling.written) = spellings.flatMap Spelling.decoded ∧
    (decodeEscapes (spellings.flatMap Spelling.written) = spellings.map Spelling.char ↔
      ∀ spelling ∈ spellings, spelling.isPair = false) := by
  have decoded := Spelling.decodeEscapes_flatMap_written spellings
  refine ⟨decoded, ?_⟩
  rw [decoded, flatMap_eq_map_iff fun spelling _ => spelling.decoded_ne_nil]
  exact forall₂_congr fun spelling _ => Spelling.decoded_eq_singleton_iff

/-- Not every spelled text is decoded: a grinning face that is spelled by a pair of surrogates stays
spelled. -/
theorem not_decodeEscapes_spelled :
    ∃ spellings : List Spelling, spellings.map Spelling.char = ['😀'] ∧
      spellings.flatMap Spelling.written = "\\ud83d\\ude00".toList ∧
      decodeEscapes (spellings.flatMap Spelling.written) = "\\ud83d\\ude00".toList ∧
      decodeEscapes (spellings.flatMap Spelling.written) ≠ spellings.map Spelling.char := by
  let digits (values : List (Fin 16)) : List HexDigit := values.map (⟨·, false⟩)
  let face : Spelling := .units '😀' [digits [13, 8, 3, 13], digits [13, 14, 0, 0]]
    (by decide) (by decide)
  have written : [face].flatMap Spelling.written = "\\ud83d\\ude00".toList := by decide
  have stays : decodeEscapes ([face].flatMap Spelling.written) = "\\ud83d\\ude00".toList :=
    (Spelling.decodeEscapes_flatMap_written [face]).trans written
  refine ⟨[face], rfl, written, stays, ?_⟩
  rw [stays]
  decide

end Source

end MessageCatalog
