import Mathlib.Tactic.ByContra
import MessageCatalog.Text.Normal

/-! The composed form of a text is empty for the empty text only. -/

namespace MessageCatalog

/-- Every character has parts. -/
theorem decomposition_ne_nil (c : Char) : decomposition c ≠ [] := by
  have parts (depth code : Nat) : decomposeTo depth code ≠ [] := by
    -- By induction on the depth; at each level a character has parts or stands for itself.
    induction depth generalizing code with
    | zero => simp [decomposeTo]
    | succ depth ih =>
      rw [decomposeTo]
      split
      · simp
      · exact List.append_ne_nil_of_left_ne_nil (ih _) _
  simpa [decomposition] using parts 4 c.toNat

/-- Ordering marks drops none. -/
theorem canonicalOrder_ne_nil {text : List Char} (nonempty : text ≠ []) :
    canonicalOrder text ≠ [] := by
  obtain ⟨c, rest, rfl⟩ := List.exists_cons_of_ne_nil nonempty
  rw [canonicalOrder, List.foldr_cons]
  -- Wherever a mark is placed, there is something.
  cases rest.foldr placeMark [] with
  | nil => simp [placeMark]
  | cons d marks =>
    rw [placeMark]
    split <;> simp

/-- Composing leaves a starter or a mark. -/
theorem composed_ne_nil {text : List Char} (nonempty : text ≠ []) : composed text ≠ [] := by
  -- The starter stays in front, whatever it is composed with.
  have starts (starter : Char) (marks rest : List Char) : composeAfter starter marks rest ≠ [] := by
    induction rest generalizing starter marks with
    | nil => simp [composeAfter]
    | cons c rest ih =>
      rw [composeAfter]
      split
      · exact ih _ _
      · split
        · simp
        · exact ih _ _
  obtain ⟨c, rest, rfl⟩ := List.exists_cons_of_ne_nil nonempty
  rw [composed]
  split
  · exact starts c [] rest
  · simp

/-- Only the empty text has an empty composed form. -/
theorem composedForm_eq_nil_iff {text : List Char} : composedForm text = [] ↔ text = [] := by
  constructor
  · intro empty
    by_contra nonempty
    -- Every stage leaves something of a text that is not empty.
    unfold composedForm at empty
    split at empty
    · exact nonempty empty
    · obtain ⟨c, rest, rfl⟩ := List.exists_cons_of_ne_nil nonempty
      refine composed_ne_nil (canonicalOrder_ne_nil ?_) empty
      rw [List.flatMap_cons]
      exact List.append_ne_nil_of_left_ne_nil (decomposition_ne_nil c) _
  · rintro rfl
    rfl

end MessageCatalog
