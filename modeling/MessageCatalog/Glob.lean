import MessageCatalog.Path

/-! Patterns for paths: wildcards for characters, for runs of them, and for whole directories. -/

namespace MessageCatalog

/-- A character of a class, or all from one to another. -/
inductive CharRange where
  | single (c : Char)
  | between (first last : Char)
  deriving DecidableEq, Repr, Inhabited

/-- Membership in a range, both ends included. -/
def CharRange.contains : CharRange → Char → Bool
  | single d, c => c == d
  | between first last, c => decide (first ≤ c) && decide (c ≤ last)

/-- One part of a pattern. -/
inductive GlobToken where
  | char (c : Char)
  | anyChar
  /-- Any run of characters. -/
  | anySequence
  /-- Any number of whole directories. -/
  | anyDirectories
  | anyOf (ranges : List CharRange)
  | anyExcept (ranges : List CharRange)
  deriving DecidableEq, Repr, Inhabited

/-- Why a text is no pattern. -/
inductive PatternDefect where
  | wildcards
  | partialRecursion
  | range
  deriving DecidableEq, Repr, Inhabited

/-- A defect and the number of characters before it. -/
structure PatternFault where
  position : Nat
  defect : PatternDefect
  deriving DecidableEq, Repr, Inhabited

/-- A pattern fault as it is told. -/
def PatternFault.message (fault : PatternFault) : String :=
  s!"Pattern syntax error near position {fault.position}: " ++
    match fault.defect with
    | .wildcards => "wildcards are either regular `*` or recursive `**`"
    | .partialRecursion => "recursive wildcards must form a single path component"
    | .range => "invalid range pattern"

/-- The ranges between the brackets of a class. -/
def charRanges : List Char → List CharRange
  | first :: '-' :: last :: rest => .between first last :: charRanges rest
  | c :: rest => .single c :: charRanges rest
  | [] => []

/-- A class after its opening bracket, and the text behind it. The first character of the class does
not end it, and neither does the one after an exclamation mark. -/
def charClass? : List Char → Option (GlobToken × List Char)
  | '!' :: first :: rest =>
    -- A closing bracket in first place stands for itself, so the search begins behind it.
    match rest.dropWhile (· != ']') with
    | _ :: behind => some (.anyExcept (charRanges (first :: rest.takeWhile (· != ']'))), behind)
    | [] => none
  -- The class may not end behind its mark.
  | '!' :: [] => none
  | first :: rest =>
    match rest.dropWhile (· != ']') with
    | _ :: behind => some (.anyOf (charRanges (first :: rest.takeWhile (· != ']'))), behind)
    | [] => none
  | [] => none

/-- A class takes at least one character. -/
theorem charClass?_length {text behind : List Char} {token : GlobToken}
    (found : charClass? text = some (token, behind)) : behind.length < text.length := by
  -- Each kind of class takes its first character, and the search for its end takes the rest.
  unfold charClass? at found
  split at found
  · rename_i first rest
    have shorter := (List.dropWhile_sublist (l := rest) (· != ']')).length_le
    split at found
    · rename_i left
      cases found
      simp only [left, List.length_cons] at *
      omega
    · cases found
  · cases found
  · rename_i first rest _ _
    have shorter := (List.dropWhile_sublist (l := rest) (· != ']')).length_le
    split at found
    · rename_i left
      cases found
      simp only [left, List.length_cons] at *
      omega
    · cases found
  · cases found

/-- The tokens of the rest of a pattern, which begins at a position behind a given character. Two
wildcards stand for directories and take the slash behind them; they have to fill a component. -/
def globTokens (position : Nat) (before : Option Char) (text : List Char) :
    Except PatternFault (List GlobToken) :=
  match text with
  | [] => .ok []
  -- Runs of wildcards come first, so that two of them are not taken for one and another one.
  | '*' :: '*' :: '*' :: _ => .error ⟨position + 2, .wildcards⟩
  | '*' :: '*' :: rest =>
    if before.all (· == '/') then
      match rest with
      | [] => .ok [.anyDirectories]
      | '/' :: rest =>
        (globTokens (position + 3) (some '/') rest).map (.anyDirectories :: ·)
      | _ => .error ⟨position + 2, .partialRecursion⟩
    else .error ⟨position - 1, .partialRecursion⟩
  | '*' :: rest => (globTokens (position + 1) (some '*') rest).map (.anySequence :: ·)
  | '?' :: rest => (globTokens (position + 1) (some '?') rest).map (.anyChar :: ·)
  -- The position counts the characters of a class with both of its brackets.
  | '[' :: rest =>
    match _found : charClass? rest with
    | some (token, behind) =>
      (globTokens (position + (rest.length - behind.length) + 1) (some ']') behind).map (token :: ·)
    | none => .error ⟨position, .range⟩
  | c :: rest => (globTokens (position + 1) (some c) rest).map (.char c :: ·)
termination_by text.length
decreasing_by
  all_goals simp_wf
  all_goals try omega
  have shorter := charClass?_length _found
  omega

/-- A pattern that has been checked. -/
structure Pattern where
  text : String
  tokens : List GlobToken
  deriving DecidableEq, Repr, Inhabited

namespace Pattern

/-- The pattern that a text spells. -/
def parse (text : String) : Except PatternFault Pattern :=
  (globTokens 0 none text.toList).map fun tokens => ⟨text, tokens⟩

/-- Whether a token for one character takes it; a strict match leaves slashes to slashes. -/
def takes (strict : Bool) : GlobToken → Char → Bool
  | .char d, c => c == d
  | .anyChar, c => !(strict && c == '/')
  | .anyOf ranges, c => !(strict && c == '/') && ranges.any (·.contains c)
  | .anyExcept ranges, c => !(strict && c == '/') && !ranges.any (·.contains c)
  -- Sequences take any number of characters, and are no tokens for one.
  | .anySequence, _ => false
  | .anyDirectories, _ => false

/-- Tokens match a text when they can share it among them. A run goes up to any point, but not over a
slash in a strict match; directories go up to the start, behind any slash, or to the end. -/
def tokensMatch (strict : Bool) (tokens : List GlobToken) (text : List Char) : Bool :=
  match tokens with
  | [] => text.isEmpty
  -- A run is empty, or takes one more character.
  | .anySequence :: rest =>
    tokensMatch strict rest text ||
      match text with
      | [] => false
      | c :: text => !(strict && c == '/') && tokensMatch strict (.anySequence :: rest) text
  -- Directories are none, all that is left, or one more with its slash.
  | .anyDirectories :: rest =>
    tokensMatch strict rest text || tokensMatch strict rest [] ||
      match _behind : text.dropWhile (· != '/') with
      | [] => false
      | _ :: text => tokensMatch strict (.anyDirectories :: rest) text
  | token :: rest =>
    match text with
    | [] => false
    | c :: text => takes strict token c && tokensMatch strict rest text
termination_by (tokens.length, text.length)
decreasing_by
  · exact Prod.Lex.left _ _ (by simp)
  · exact Prod.Lex.right _ (by simp)
  · exact Prod.Lex.left _ _ (by simp)
  · exact Prod.Lex.left _ _ (by simp)
  · refine Prod.Lex.right _ ?_
    rename_i whole slash
    have shorter := (List.dropWhile_sublist (l := whole) (· != '/')).length_le
    rw [_behind] at shorter
    exact shorter
  · exact Prod.Lex.left _ _ (by simp)

/-- A match on the spelling of a path, as a walk through directories makes it: no wildcard but the
recursive one goes over a slash. -/
def matchesPath (pattern : Pattern) (path : Path) : Bool :=
  tokensMatch true pattern.tokens path.text.toList

/-- A match on the spelling of a path in which wildcards go over slashes. -/
def matchesLoosely (pattern : Pattern) (path : Path) : Bool :=
  tokensMatch false pattern.tokens path.text.toList

end Pattern

end MessageCatalog
