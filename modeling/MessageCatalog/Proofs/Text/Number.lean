import MessageCatalog.Text.Number

/-! The decimal digits of a count are read back as that count, and code points as their characters. -/

namespace MessageCatalog

/-- A decimal digit has its distance from zero as its value. -/
theorem decimalDigit?_of_isDigit {c : Char} (digit : c.isDigit = true) :
    decimalDigit? c = some (c.toNat - '0'.toNat) := by
  simp only [Char.isDigit, ge_iff_le, Bool.and_eq_true, decide_eq_true_eq] at digit
  have between : '0' ≤ c ∧ c ≤ '9' := digit
  rw [decimalDigit?, if_pos between]

/-- Digits have the value that they are the digits of. -/
theorem digitsFrom?_of_isDigit {digits : List Char} (all : ∀ c ∈ digits, c.isDigit = true)
    (value : Nat) :
    digitsFrom? decimalDigit? 10 value digits = some (Nat.ofDigitChars 10 digits value) := by
  -- By induction on the digits; `value` is that of the digits before.
  induction digits generalizing value with
  | nil => rfl
  | cons c digits ih =>
    have rest : ∀ c ∈ digits, c.isDigit = true := fun c member => all c (.tail _ member)
    rw [digitsFrom?, decimalDigit?_of_isDigit (all c (.head _)), Nat.ofDigitChars_cons]
    dsimp only
    rw [ih rest, Nat.mul_comm]

/-- The digits of a number are digits. -/
theorem isDigit_of_mem_toDigits {n : Nat} {c : Char} (member : c ∈ Nat.toDigits 10 n) :
    c.isDigit = true :=
  Nat.isDigit_of_mem_toDigits (by decide) (by decide) member

/-- A plus sign is no digit. -/
theorem signedDigits?_of_isDigit {digits : List Char} (nonempty : digits ≠ [])
    (all : ∀ c ∈ digits, c.isDigit = true) :
    signedDigits? decimalDigit? 10 digits = some (Nat.ofDigitChars 10 digits 0) := by
  unfold signedDigits?
  split
  · exact absurd rfl nonempty
  · exact absurd (all '+' (.head _)) (by decide)
  · exact absurd (all '+' (.head _)) (by decide)
  · exact digitsFrom?_of_isDigit all 0

/-- The digits of a number that is not too large are those of a count. -/
theorem count?_toDigits {n : Nat} (small : n ≤ maxCount) :
    count? (Nat.toDigits 10 n) = some n := by
  have read : signedDigits? decimalDigit? 10 (Nat.toDigits 10 n) = some n := by
    rw [signedDigits?_of_isDigit Nat.toDigits_ne_nil fun _ => isDigit_of_mem_toDigits,
      Nat.ofDigitChars_ten_toDigits]
  rw [count?, read]
  dsimp only
  rw [if_pos small]

/-- Only a digit has a value. -/
theorem isDigit_of_decimalDigit? {c : Char} {digit : Nat} (read : decimalDigit? c = some digit) :
    c.isDigit = true := by
  unfold decimalDigit? at read
  split at read
  · rename_i between
    simp only [Char.isDigit, ge_iff_le, Bool.and_eq_true, decide_eq_true_eq]
    exact between
  · cases read

/-- Only digits have a value together. -/
theorem isDigit_of_digitsFrom? {digits : List Char} {value n : Nat}
    (read : digitsFrom? decimalDigit? 10 value digits = some n) : ∀ c ∈ digits, c.isDigit = true := by
  -- By induction on the digits, whatever has been read before them.
  induction digits generalizing value with
  | nil => exact nofun
  | cons c digits ih =>
    unfold digitsFrom? at read
    split at read
    · rename_i digit found
      exact List.forall_mem_cons.2 ⟨isDigit_of_decimalDigit? found, ih read⟩
    · cases read

/-- A count is written in digits, with a plus sign in front of them at most. -/
theorem isDigit_of_count? {digits : List Char} {n : Nat} (counted : count? digits = some n) :
    ∀ c ∈ digits, c = '+' ∨ c.isDigit = true := by
  unfold count? at counted
  split at counted
  · rename_i value read
    unfold signedDigits? at read
    -- A sign may stand in front of the digits.
    split at read
    · cases read
    · cases read
    · exact List.forall_mem_cons.2
        ⟨.inl rfl, fun c member => .inr (isDigit_of_digitsFrom? read c member)⟩
    · exact fun c member => .inr (isDigit_of_digitsFrom? read c member)
  · cases counted

/-- Counts are not too large. -/
theorem count?_le {digits : List Char} {n : Nat} (counted : count? digits = some n) :
    n ≤ maxCount := by
  -- A value above the largest count is refused.
  unfold count? at counted
  split at counted
  · split at counted
    · cases counted
      assumption
    · cases counted
  · cases counted

/-- A character has its own code point. -/
theorem charOfCode?_toNat (c : Char) : charOfCode? c.toNat = some c := by
  have valid : c.toNat.isValidChar := c.valid
  rw [charOfCode?, if_pos valid, Char.ofNat_toNat]

/-- Half a byte has the value of the digit that it is written as. -/
theorem hexDigit?_digitChar {n : Nat} (small : n < 16) :
    hexDigit? (Nat.digitChar n) = some n := by
  rcases n with
    _ | _ | _ | _ | _ | _ | _ | _ | _ | _ | _ | _ | _ | _ | _ | _ | n
  all_goals first | rfl | omega

end MessageCatalog
