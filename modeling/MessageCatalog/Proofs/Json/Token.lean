import MessageCatalog.Json.Token

/-! A text is read token by token, and each token changes the innermost container only. -/

namespace MessageCatalog.Json

section

variable {τ : Type} {grammar : Grammar τ} {reading : Reading τ} {text behind tail : List Char}
  {c : Char} {token : Token τ}

/-- The next token is added to the reading, which goes on behind it. -/
theorem Grammar.readFrom?_of_token (skipped : grammar.skip? text = some (c :: tail))
    (taken : grammar.token? (c :: tail) = some (token, behind)) :
    grammar.readFrom? reading text =
      (reading.add grammar.toDialect token).bind fun next => grammar.readFrom? next behind := by
  -- The definition is opened here for a token, and in the next lemmas for texts without one.
  rw [Grammar.readFrom?.eq_def]
  split
  · rename_i none
    rw [skipped] at none
    cases none
  · rename_i left
    rw [skipped] at left
    cases left
  · rename_i left
    rw [skipped] at left
    cases left
    -- The token that was found is the one that is taken, and the reading accepts it or not.
    split
    · rename_i none
      rw [taken] at none
      cases none
    · rename_i found
      rw [taken] at found
      cases found
      split
      · rename_i refused
        rw [refused]
        rfl
      · rename_i next added
        rw [added]
        rfl

/-- A text that goes on with no token has no value. -/
theorem Grammar.readFrom?_of_noToken (skipped : grammar.skip? text = some (c :: tail))
    (refused : grammar.token? (c :: tail) = none) : grammar.readFrom? reading text = none := by
  rw [Grammar.readFrom?.eq_def]
  -- The text behind the gap is the one that begins no token.
  split
  · rfl
  · rename_i left
    rw [skipped] at left
    cases left
  · rename_i left
    rw [skipped] at left
    cases left
    split
    · rfl
    · rename_i found
      rw [refused] at found
      cases found

/-- Behind its last token a text has the value of the reading. -/
theorem Grammar.readFrom?_of_end (skipped : grammar.skip? text = some []) :
    grammar.readFrom? reading text = reading.value? := by
  rw [Grammar.readFrom?.eq_def]
  -- Behind the gap there is nothing, which leaves one case.
  split
  · rename_i none
    rw [skipped] at none
    cases none
  · rfl
  · rename_i left
    rw [skipped] at left
    cases left

end

section

variable {τ : Type}

/-- Where a value is due, any token but the end of an array begins one. -/
def Awaits (dialect : Dialect) (reading : Reading τ) (frames : List (Frame τ)) : Prop :=
  ∀ token, token ≠ .endArray → reading.add dialect token = beginValue dialect frames token

/-- Only its own end ends an array. -/
theorem endContainer_array {items : List (Value τ)} {frames : List (Frame τ)} {token : Token τ}
    (noEnd : token ≠ .endArray) : endContainer (.array items :: frames) token = none := by
  cases token with
  | endArray => exact absurd rfl noEnd
  | _ => rfl

variable (dialect : Dialect) (items : List (Value τ)) (frames : List (Frame τ))

/-- A value is due behind a colon and at the start. -/
theorem awaits_value : Awaits dialect (.inside .value frames) frames := fun _ _ => rfl

/-- A value is due at the start of an array. -/
theorem awaits_first :
    Awaits dialect (.inside .firstItem (.array items :: frames)) (.array items :: frames) := by
  -- An array may end where its first item is due, which no other token does.
  intro token noEnd
  rw [Reading.add, endContainer_array noEnd]
  rfl

/-- A value is due behind a comma of an array. -/
theorem awaits_next :
    Awaits dialect (.inside .next (.array items :: frames)) (.array items :: frames) := by
  -- A dialect may let the array end here as well.
  intro token noEnd
  rw [Reading.add, endContainer_array noEnd]
  cases dialect.trailingComma <;> rfl

end

end MessageCatalog.Json
