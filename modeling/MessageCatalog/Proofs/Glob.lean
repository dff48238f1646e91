import MessageCatalog.Glob

/-! What a pattern matches begins with the characters that stand in front of its first wildcard. -/

namespace MessageCatalog

/-- A character with which a wildcard of a pattern begins. -/
def beginsWildcard (c : Char) : Bool := c == '*' || c == '?' || c == '['

/-- Another character is a token. -/
theorem globTokens_cons {c : Char} (plain : beginsWildcard c = false) (position : Nat)
    (before : Option Char) (rest : List Char) :
    globTokens position before (c :: rest) =
      (globTokens (position + 1) (some c) rest).map (.char c :: ·) := by
  simp only [beginsWildcard, Bool.or_eq_false_iff, beq_eq_false_iff_ne] at plain
  obtain ⟨⟨star, query⟩, bracket⟩ := plain
  -- What is left to show is that the character begins none of the other cases.
  rw [globTokens]
  · exact fun _ same => absurd same star
  · exact fun _ same => absurd same star
  · exact star
  · exact query
  · exact bracket

/-- Other characters are tokens, one after the other, in front of those of the rest. -/
theorem globTokens_append {literal : List Char} (plain : ∀ c ∈ literal, beginsWildcard c = false)
    {position : Nat} {before : Option Char} {rest : List Char} {tokens : List GlobToken}
    (read : globTokens position before (literal ++ rest) = .ok tokens) :
    ∃ position before behind, globTokens position before rest = .ok behind ∧
      tokens = literal.map .char ++ behind := by
  -- By induction on the characters; each one is read before the others and put in front of their tokens.
  induction literal generalizing position before tokens with
  | nil => exact ⟨position, before, tokens, read, rfl⟩
  | cons c literal ih =>
    rw [List.cons_append, globTokens_cons (plain c (.head _))] at read
    cases later : globTokens (position + 1) (some c) (literal ++ rest) with
    | error fault =>
      rw [later] at read
      cases read
    | ok others =>
      rw [later] at read
      cases read
      obtain ⟨position, before, behind, read, rfl⟩ :=
        ih (fun c member => plain c (.tail _ member)) later
      exact ⟨position, before, behind, read, rfl⟩

namespace Pattern

variable {strict : Bool} {tokens : List GlobToken} {text : List Char}

/-- A character matches itself, in front of what the other tokens match. -/
theorem tokensMatch_char {c : Char} (matched : tokensMatch strict (.char c :: tokens) text = true) :
    ∃ rest, text = c :: rest ∧ tokensMatch strict tokens rest = true := by
  cases text with
  | nil =>
    -- A character token takes a character, and the other kinds of tokens do not come into question.
    rw [tokensMatch] at matched
    · cases matched
    all_goals
      intro same
      cases same
  | cons d rest =>
    rw [tokensMatch, Bool.and_eq_true, takes, beq_iff_eq] at matched
    · exact ⟨rest, by rw [matched.1], matched.2⟩
    all_goals
      intro same
      cases same

/-- What tokens match begins with the characters that stand in front of the other tokens. -/
theorem tokensMatch_append {literal : List Char}
    (matched : tokensMatch strict (literal.map .char ++ tokens) text = true) :
    ∃ rest, text = literal ++ rest ∧ tokensMatch strict tokens rest = true := by
  -- By induction on the literal, each character of which matches itself.
  induction literal generalizing text with
  | nil => exact ⟨text, rfl, matched⟩
  | cons c literal ih =>
    obtain ⟨rest, rfl, later⟩ := tokensMatch_char matched
    obtain ⟨behind, rfl, last⟩ := ih later
    exact ⟨behind, rfl, last⟩

/-- A path that a pattern matches is spelled with the start of the pattern in front, up to any place
before its first wildcard, and as the whole pattern where this has no wildcard. -/
theorem text_of_matchesPath {spelling : String} {pattern : Pattern} (parsed : parse spelling = .ok pattern)
    {path : Path} (matched : pattern.matchesPath path = true) {literal rest : List Char}
    (spelled : spelling.toList = literal ++ rest) (plain : ∀ c ∈ literal, beginsWildcard c = false) :
    ∃ behind, path.text.toList = literal ++ behind ∧ (rest = [] → behind = []) := by
  rw [parse, spelled] at parsed
  cases read : globTokens 0 none (literal ++ rest) with
  | error fault =>
    rw [read] at parsed
    cases parsed
  | ok tokens =>
    rw [read] at parsed
    cases parsed
    obtain ⟨position, before, others, ends, rfl⟩ := globTokens_append plain read
    obtain ⟨behind, same, last⟩ := tokensMatch_append matched
    refine ⟨behind, same, ?_⟩
    rintro rfl
    -- No tokens match no text.
    have none : globTokens position before [] = .ok [] := by simp [globTokens]
    rw [none] at ends
    cases ends
    rw [tokensMatch, List.isEmpty_iff] at last
    exact last

end Pattern

end MessageCatalog
