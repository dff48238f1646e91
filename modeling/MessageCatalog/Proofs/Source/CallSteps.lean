import MessageCatalog.Proofs.Source.Recovery

/-! A call that is read is a run of lexical steps, which leads back to the contexts before it. -/

namespace MessageCatalog.Source

variable {functions : List Function} {state next : State}

/-- The reading of a call, wherever the innermost context hides nothing, is a run of lexical steps, of
at least one. The contexts behind it are those before it, but for a line comment in which the text
ends. -/
theorem lexes_of_readCall (named : Named functions) (visible : state.isHidden = false)
    {function : Function} {call : Call}
    (found : Function.named? functions state.cursor.before state.rest = some function)
    (read : readCall function state = .ok (next, call)) :
    Relation.TransGen LexStep state next ∧
      (next.stack = state.stack ∨ (next.rest = [] ∧ next.stack = .lineComment :: state.stack)) := by
  have stands : functionAt? functions state = some function := by
    rw [functionAt?, visible, found]
    rfl
  obtain ⟨-, member, tail, left⟩ := functionAt?_eq_some stands
  obtain ⟨nonempty, identifier⟩ := named function member
  have span := (reads_readCall visible nonempty identifier left).of_ok read
  refine ⟨?_, span.restored⟩
  -- A call goes forward, so the run is not empty.
  rcases Relation.reflTransGen_iff_eq_or_transGen.1 span.lexes with same | steps
  · have forward := span.forward
    rw [same] at forward
    exact absurd forward (Nat.lt_irrefl _)
  · exact steps

/-- A call without parentheses in code that is embedded in a template. -/
private def embedded : State where
  cursor := .start "__ 'A'\x7d\x60".toList
  stack := [.interpolation .template, .backtick]

/-- The state behind it. -/
private def behindEmbedded : State :=
  ⟨⟨some '\'', ['}', '\x60'], ⟨6, 0⟩⟩, [.interpolation .template, .backtick]⟩

/-- A call is read up to the end of the code in which it is embedded. -/
theorem lexes_of_readCall_embedded : Relation.TransGen LexStep embedded behindEmbedded := by
  have named : Named (Function.ofBases ["__"]) := named_ofBases (by simp [isIdentifierChar])
  have found : Function.named? (Function.ofBases ["__"]) embedded.cursor.before embedded.rest =
      some ⟨['_', '_'], false, false⟩ := by cbv
  have read : readCall ⟨['_', '_'], false, false⟩ embedded = .ok (behindEmbedded, {
      raw := "__ 'A'".toList, message := ⟨none, "A", none⟩
      start := ⟨0, 0⟩, stop := ⟨6, 0⟩ }) := by cbv
  exact (lexes_of_readCall named rfl found read).1

end MessageCatalog.Source
