import Mathlib.Algebra.Group.Nat.Defs
import MessageCatalog.Json5.Number
import MessageCatalog.Proofs.Json.Text

/-! Numbers of the plain form are numbers of the wide one, and a count of at most 53 bits, which is a
double, is read back from its digits. -/

namespace MessageCatalog.Json5

/-- An integer is not rounded. -/
theorem roundHalfEven_one (n : Nat) : roundHalfEven n 1 = n := by
  simp [roundHalfEven, Nat.mod_one]

/-- The last binary place of an integer leaves 53 places for it. -/
theorem lastPlace_one {n : Nat} (positive : n ≠ 0) :
    lastPlace n 1 = max ((Nat.log2 n : Int) - 52) (-1074) := by
  -- The integer reaches the power of two that its length tells, so the estimate is right.
  have reaches : 1 <<< Nat.log2 n ≤ n := by
    rw [Nat.shiftLeft_eq, Nat.one_mul]
    exact Nat.log2_self_le positive
  have estimate : (Nat.log2 n : Int) - Nat.log2 1 = .ofNat (Nat.log2 n) := by
    have zero : Nat.log2 1 = 0 := by decide
    simp [zero]
  rw [lastPlace, estimate]
  dsimp only
  rw [if_pos (decide_eq_true reaches)]
  rfl

/-- The nearest double to an integer of at most 53 bits is that integer. -/
theorem truncatedDouble?_of_small {n : Nat} (positive : n ≠ 0) (small : n ≤ 2 ^ 53) :
    truncatedDouble? n 1 = some n := by
  rcases Nat.lt_or_eq_of_le small with below | largest
  · -- The last place is no higher than that of the units.
    have short : Nat.log2 n < 53 := (Nat.log2_lt positive).2 below
    obtain ⟨down, place⟩ : ∃ down : Nat, lastPlace n 1 = -(down : Int) := by
      refine ⟨52 - Nat.log2 n, ?_⟩
      rw [lastPlace_one positive]
      omega
    rw [truncatedDouble?, place]
    -- The place is not positive, so that nothing is rounded away.
    split
    · rename_i up same
      have zero : up = 0 := by
        have signed : -(down : Int) = up := same
        omega
      subst zero
      have unmoved : roundHalfEven n (1 <<< 0) <<< 0 = n := roundHalfEven_one n
      rw [unmoved]
      refine if_pos (Nat.lt_of_lt_of_le below ?_)
      apply Nat.pow_le_pow_right <;> decide
    · rw [roundHalfEven_one, Nat.shiftLeft_shiftRight]
  · -- The largest one has an odd place more, which is zero.
    subst largest
    decide +kernel

/-- Digits have the value of the number that they write. -/
theorem digitsValue_toDigits (n : Nat) : digitsValue (Nat.toDigits 10 n) = n := by
  have same (digits : List Char) : digitsValue digits = Nat.ofDigitChars 10 digits 0 := by
    unfold digitsValue Nat.ofDigitChars
    simp only [Nat.mul_comm]
  rw [same, Nat.ofDigitChars_ten_toDigits]

/-- The digits of an integer of at most 53 bits have its size. -/
theorem decimalSize?_toDigits {n : Nat} (small : n ≤ 2 ^ 53) :
    decimalSize? (Nat.toDigits 10 n) 0 = some n := by
  rcases Nat.eq_zero_or_pos n with rfl | positive
  · decide
  · -- There are no zeros in front, and no more than sixteen digits.
    obtain ⟨c, digits, spelled, other⟩ := Json.toDigits_of_pos positive
    have kept : (Nat.toDigits 10 n).dropWhile (· == '0') = Nat.toDigits 10 n := by
      rw [spelled, List.dropWhile_cons, if_neg (by simpa using other)]
    have some_digit : (Nat.toDigits 10 n).isEmpty = false := by
      rw [spelled]
      rfl
    have short : (Nat.toDigits 10 n).length ≤ 16 := by
      rw [Nat.length_toDigits_le_iff (by decide) (by decide)]
      omega
    -- With so few digits the size is that of the digits themselves.
    rw [decimalSize?.eq_def, kept]
    dsimp only
    rw [some_digit, if_neg (by decide), if_neg (by omega), if_neg (by omega)]
    show truncatedDouble? (digitsValue (Nat.toDigits 10 n) * Nat.pow 10 0) 1 = some n
    rw [digitsValue_toDigits, show Nat.pow 10 0 = 1 from rfl, Nat.mul_one]
    exact truncatedDouble?_of_small (Nat.ne_of_gt positive) small

/-- Digits without a point have the size of the integer that they write. -/
theorem unsignedSize?_of_digits {digits : List Char} (all : ∀ c ∈ digits, c.isDigit = true) :
    unsignedSize? digits = decimalSize? digits 0 := by
  have none : ∀ c tail, ([] : List Char) = c :: tail → c.isDigit = false := nofun
  obtain ⟨taken, dropped⟩ := Json.span_of_ends all none
  rw [List.append_nil] at taken dropped
  rw [unsignedSize?, taken, dropped]
  rfl

/-- An exponent follows a fraction, whose digits may be missing in the wide form. -/
theorem isExponent_of_isFraction (rest : List Char) :
    Json.isFraction rest = true →
      (match rest with
        | '.' :: digits => Json.isExponent (digits.dropWhile Char.isDigit)
        | rest => Json.isExponent rest) = true := by
  intro fraction
  cases rest with
  | nil => exact fraction
  | cons c rest =>
    -- Without a point there is no fraction, and the rest is the exponent itself.
    by_cases point : c = '.'
    · subst point
      rw [Json.isFraction, Bool.and_eq_true] at fraction
      exact fraction.2
    · have noPoint (digits : List Char) : c :: rest = '.' :: digits → False :=
        fun same => point (List.cons.inj same).1
      rw [Json.isFraction] at fraction
      · split
        · rename_i same
          exact (noPoint _ same).elim
        · exact fraction
      · exact noPoint

/-- A number of the plain form without a sign is a decimal number. -/
theorem isDecimal_of_isNumber {literal : List Char} (number : Json.isNumber literal = true)
    (unsigned : ∀ rest, literal ≠ '-' :: rest) : isDecimal literal = true := by
  cases literal with
  | nil => cases number
  | cons c rest =>
    have noSign : c ≠ '-' := by
      rintro rfl
      exact unsigned rest rfl
    by_cases zero : c = '0'
    · -- Behind a zero only a fraction or an exponent may follow.
      subst zero
      have fraction : Json.isFraction rest = true := number
      unfold Json.isFraction at fraction
      split at fraction
      · rename_i digits
        rw [Bool.and_eq_true] at fraction
        exact fraction.2
      · rename_i noPoint
        rw [isDecimal]
        · exact fraction
        · exact fun digits same => noPoint digits same
    · -- Behind any other digit stand further digits, and then a fraction or an exponent.
      rw [Json.isNumber_cons noSign zero, Bool.and_eq_true] at number
      obtain ⟨digit, fraction⟩ := number
      have noPoint : c ≠ '.' := by
        rintro rfl
        cases digit
      rw [isDecimal, digit, Bool.true_and]
      · exact isExponent_of_isFraction _ fraction
      · exact noPoint
      · exact fun _ same _ => zero same
      · exact zero

/-- Behind a minus sign stands a number without one. -/
theorem isNumber_behind_sign {rest : List Char} (number : Json.isNumber ('-' :: rest) = true) :
    Json.isNumber rest = true ∧ ∀ digits, rest ≠ '-' :: digits := by
  cases rest with
  | nil => cases number
  | cons c digits =>
    -- A second sign would be refused, and behind the first one a number is read as usual.
    have noSign : c ≠ '-' := by
      rintro rfl
      cases number
    refine ⟨?_, fun _ same => noSign (List.cons.inj same).1⟩
    by_cases zero : c = '0'
    · subst zero
      exact number
    · rw [Json.isNumber] at number
      · rwa [Json.isNumber_cons noSign zero]
      · exact zero

/-- A number of the plain form is one of the wide form. -/
theorem isNumber_of_plain {literal : List Char} (number : Json.isNumber literal = true) :
    isNumber literal = true := by
  unfold isNumber
  dsimp only
  -- A plain number has no plus sign, and it may have a minus sign.
  split
  · cases number
  · rename_i rest
    obtain ⟨behind, unsigned⟩ := isNumber_behind_sign number
    rw [isDecimal_of_isNumber behind unsigned, Bool.or_true, Bool.true_or]
  · rename_i noPlus noMinus
    rw [isDecimal_of_isNumber number noMinus, Bool.or_true, Bool.true_or]

/-- Digits are no hexadecimal number, which has a letter behind its first zero. -/
theorem isHexadecimal_of_digits {digits : List Char} (all : ∀ c ∈ digits, c.isDigit = true) :
    isHexadecimal digits = false := by
  unfold isHexadecimal
  split
  · exact absurd (all 'x' (by simp)) (by decide)
  · exact absurd (all 'X' (by simp)) (by decide)
  · rfl

/-- Digits are no text that begins with another character. -/
theorem ne_of_digits {digits : List Char} (all : ∀ c ∈ digits, c.isDigit = true) {word : List Char}
    (begins : (word.head?.any fun c => !c.isDigit) = true) : digits ≠ word := by
  rintro rfl
  cases digits with
  | nil => cases begins
  | cons c digits => simp [all c (.head _)] at begins

/-- The digits of a number are a decimal number. -/
theorem isDecimal_toDigits (n : Nat) : isDecimal (Nat.toDigits 10 n) = true :=
  isDecimal_of_isNumber (Json.isNumeral_toDigits n).1 fun _ same =>
    ne_of_digits (fun _ => isDigit_of_mem_toDigits) rfl same

/-- A count of at most 53 bits is read back from its digits. -/
theorem count?_toDigits {n : Nat} (small : n ≤ 2 ^ 53) :
    count? (Nat.toDigits 10 n) = some n := by
  have all : ∀ c ∈ Nat.toDigits 10 n, c.isDigit = true := fun _ => isDigit_of_mem_toDigits
  have size : unsignedSize? (Nat.toDigits 10 n) = some n := by
    rw [unsignedSize?_of_digits all, decimalSize?_toDigits small]
  have counted : n ≤ maxCount := Nat.le_trans small (by decide)
  -- Neither a word, nor a hexadecimal number, nor one with a sign.
  unfold count?
  rw [if_neg (ne_of_digits all rfl), if_neg, isHexadecimal_of_digits all, if_neg (by decide)]
  · split
    · rename_i rest spelled
      exact absurd spelled (ne_of_digits all rfl)
    · rename_i rest spelled
      exact absurd spelled (ne_of_digits all rfl)
    · rw [if_pos (isDecimal_toDigits n), size]
      exact congrArg some (Nat.min_eq_right counted)
  · rintro (same | same | same) <;> exact ne_of_digits all rfl same

/-- A number of the wide form as it is written. -/
def IsNumeral (literal : List Char) : Prop :=
  isNumber literal = true ∧ (∀ c ∈ literal, isNumberChar c = true) ∧
    ∀ c tail, literal = c :: tail → c.isAlpha = false

/-- A number as the plain form writes it is one token of the wide form. -/
theorem isNumeral_of_plain {literal : List Char} (numeral : Json.IsNumeral literal) :
    IsNumeral literal := by
  obtain ⟨number, inside⟩ := numeral
  refine ⟨isNumber_of_plain number, ?_, ?_⟩
  · intro c member
    have plain := inside c member
    simp only [Json.isNumberChar, Bool.or_eq_true, beq_iff_eq] at plain
    -- Digits are alphanumeric, and the signs of plain numbers are among those of wide ones.
    rcases plain with ((((digit | rfl) | rfl) | rfl) | rfl) | rfl
    · simp [isNumberChar, Char.isAlphanum, digit]
    all_goals rfl
  · rintro c tail rfl
    exact Json.isAlpha_of_isNumber number

end MessageCatalog.Json5
