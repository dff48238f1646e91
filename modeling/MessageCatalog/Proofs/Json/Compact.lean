import MessageCatalog.Proofs.Json.Text

/-! A document is the compact text of its value with nothing but layout added: parts and closing brackets of
containers that are not empty start a line, indented by their depth. -/

namespace MessageCatalog.Json

mutual

/-- A value without any layout. -/
def compact : Value String → List Char
  | .null => "null".toList
  | .bool true => "true".toList
  | .bool false => "false".toList
  | .number literal => literal
  | .string text => writeString text
  | .array items => '[' :: ([','].intercalate (compactItems items) ++ [']'])
  | .object members => '{' :: ([','].intercalate (compactMembers members) ++ ['}'])

/-- The items of an array without any layout. -/
def compactItems : List (Value String) → List (List Char)
  | [] => []
  | item :: items => compact item :: compactItems items

/-- The members of an object without any layout. -/
def compactMembers : List (String × Value String) → List (List Char)
  | [] => []
  | (name, value) :: members => (writeString name ++ ':' :: compact value) :: compactMembers members

end

/-- Where a character of a document stands. -/
inductive Spot where
  /-- Inside a string. -/
  | string
  /-- Inside a string, behind a backslash. -/
  | escape
  /-- Outside of strings, at the start of a line. -/
  | margin
  /-- Outside of strings, right behind a colon. -/
  | colon
  /-- Anywhere else outside of strings. -/
  | token
  deriving DecidableEq, Repr

/-- The spot behind a character that is no layout and stands outside of strings. -/
def Spot.behind (c : Char) : Spot := if c = '"' then .string else if c = ':' then .colon else .token

/-- A text without its layout. Strings stay as they are, and outside of them line breaks go, with the spaces
and tabs behind them, and so does a space behind a colon. -/
def withoutLayout (spot : Spot) : List Char → List Char
  | [] => []
  | c :: rest =>
    match spot with
    | .string =>
      c :: withoutLayout (if c = '"' then .token else if c = '\\' then .escape else .string) rest
    | .escape => c :: withoutLayout .string rest
    | outside =>
      if c = '\n' then withoutLayout .margin rest
      else if c = '\r' ∧ rest.head? = some '\n' then withoutLayout outside rest
      else if outside = .margin ∧ (c = ' ' ∨ c = '\t') then withoutLayout .margin rest
      else if outside = .colon ∧ c = ' ' then withoutLayout .token rest
      else c :: withoutLayout (.behind c) rest

/-- A spot outside of strings. -/
def Spot.Outside (spot : Spot) : Prop := spot ≠ .string ∧ spot ≠ .escape

/-- A token stands outside of strings. -/
theorem Spot.Outside.token : Outside .token := ⟨nofun, nofun⟩

/-- The start of a line stands outside of strings. -/
theorem Spot.Outside.margin : Outside .margin := ⟨nofun, nofun⟩

/-- A character that is layout somewhere outside of strings. -/
def isLayout (c : Char) : Bool := c == '\n' || c == '\r' || c == ' ' || c == '\t'

section

variable {spot : Spot} {style : Style}

/-- Outside of strings a character that is no layout is kept. -/
theorem withoutLayout_kept (outside : spot.Outside) {c : Char} (kept : isLayout c = false)
    (rest : List Char) : withoutLayout spot (c :: rest) = c :: withoutLayout (.behind c) rest := by
  simp only [isLayout, Bool.or_eq_false_iff, beq_eq_false_iff_ne] at kept
  obtain ⟨⟨⟨feed, ret⟩, space⟩, tab⟩ := kept
  rw [withoutLayout]
  · simp [feed, ret, space, tab]
  · exact outside.1
  · exact outside.2

/-- A character of a number or a word is neither layout nor the start of a string nor a colon. -/
def isTokenChar (c : Char) : Bool := isNumberChar c || c.isAlpha

/-- Characters of numbers and words are kept, and leave the spot in the token. -/
theorem behind_of_isTokenChar {c : Char} (inside : isTokenChar c = true) :
    isLayout c = false ∧ Spot.behind c = .token := by
  -- None of the characters that mean something to the layout is one of tokens.
  have differs {d : Char} (other : isTokenChar d = false) : c ≠ d := by
    rintro rfl
    rw [inside] at other
    cases other
  have quote := differs (d := '"') (by decide)
  have colon := differs (d := ':') (by decide)
  have feed := differs (d := '\n') (by decide)
  have ret := differs (d := '\r') (by decide)
  have space := differs (d := ' ') (by decide)
  have tab := differs (d := '\t') (by decide)
  simp [isLayout, Spot.behind, quote, colon, feed, ret, space, tab]

/-- Numbers and words are kept. -/
theorem withoutLayout_token (outside : spot.Outside) {token : List Char} (some : token ≠ [])
    (inside : token.all isTokenChar = true) (rest : List Char) :
    withoutLayout spot (token ++ rest) = token ++ withoutLayout .token rest := by
  -- By induction on the characters; from the second one on the spot is that inside a token.
  induction token generalizing spot with
  | nil => exact absurd rfl some
  | cons c token ih =>
    rw [List.all_cons, Bool.and_eq_true] at inside
    obtain ⟨kept, stays⟩ := behind_of_isTokenChar inside.1
    rw [List.cons_append, withoutLayout_kept outside kept, stays, List.cons_append]
    cases token with
    | nil => rfl
    | cons d token =>
      have others := ih .token (List.cons_ne_nil d token) inside.2
      rw [others]

/-- A digit is neither a quote nor a backslash. -/
theorem digitChar_ne {n : Nat} (small : n < 16) : n.digitChar ≠ '"' ∧ n.digitChar ≠ '\\' := by
  have read := hexDigit?_digitChar small
  constructor
  all_goals
    intro same
    rw [same] at read
    exact Option.some_ne_none n (read.symm.trans rfl)

/-- A character is written as itself, or as a backslash with another character and digits behind it. -/
theorem escapeChar_cases (c : Char) :
    (escapeChar c = [c] ∧ c ≠ '"' ∧ c ≠ '\\') ∨
      ∃ d digits, escapeChar c = '\\' :: d :: digits ∧ ∀ e ∈ digits, e ≠ '"' ∧ e ≠ '\\' := by
  have none : ∀ e ∈ ([] : List Char), e ≠ '"' ∧ e ≠ '\\' := fun _ member =>
    absurd member List.not_mem_nil
  -- Each named escape has one sign behind its backslash.
  unfold escapeChar
  split
  · exact .inr ⟨_, [], rfl, none⟩
  rename_i noQuote
  split
  · exact .inr ⟨_, [], rfl, none⟩
  rename_i noEscape
  iterate 5
    split
    · exact .inr ⟨_, [], rfl, none⟩
  split
  · -- The digits of a control are hexadecimal ones.
    have high := digitChar_ne (n := c.toNat / 16) (by omega)
    have low := digitChar_ne (n := c.toNat % 16) (by omega)
    refine .inr ⟨'u', _, rfl, ?_⟩
    simp only [List.forall_mem_cons]
    exact ⟨by decide, by decide, high, low, none⟩
  · -- What is neither named nor a control is no quote and no backslash.
    exact .inl ⟨rfl, noQuote, noEscape⟩

/-- Inside a string characters other than quotes and backslashes lead on. -/
theorem withoutLayout_string {text : List Char} (plain : ∀ c ∈ text, c ≠ '"' ∧ c ≠ '\\')
    (rest : List Char) :
    withoutLayout .string (text ++ rest) = text ++ withoutLayout .string rest := by
  -- By induction on the text; no character of it ends the string or escapes the next one.
  induction text with
  | nil => rfl
  | cons c text ih =>
    obtain ⟨quote, escape⟩ := plain c (.head _)
    rw [List.cons_append, withoutLayout, if_neg quote, if_neg escape,
      ih fun c member => plain c (.tail _ member), List.cons_append]

/-- The characters of a string are kept up to its closing quote. -/
theorem withoutLayout_escaped (text rest : List Char) :
    withoutLayout .string (text.flatMap escapeChar ++ '"' :: rest) =
      text.flatMap escapeChar ++ '"' :: withoutLayout .token rest := by
  -- By induction on the text; no character is written so that it ends the string.
  induction text with
  | nil => simp [withoutLayout]
  | cons c text ih =>
    rw [List.flatMap_cons, List.append_assoc, List.append_assoc, ← ih]
    rcases escapeChar_cases c with ⟨same, plain⟩ | ⟨d, digits, same, plain⟩
    · rw [same]
      exact withoutLayout_string (List.forall_mem_singleton.2 plain) _
    · rw [same, List.cons_append, List.cons_append, withoutLayout, if_neg (by decide),
        if_pos rfl, withoutLayout, withoutLayout_string plain]
      rfl

/-- A string is kept as it is, whatever is written in it. -/
theorem withoutLayout_writeString (outside : spot.Outside) (text : String) (rest : List Char) :
    withoutLayout spot (writeString text ++ rest) = writeString text ++ withoutLayout .token rest := by
  have spelled (rest : List Char) : writeString text ++ rest =
      '"' :: (text.toList.flatMap escapeChar ++ '"' :: rest) := by simp [writeString]
  rw [spelled, spelled, withoutLayout_kept outside (by decide)]
  exact congrArg ('"' :: ·) (withoutLayout_escaped text.toList rest)

/-- Lines are indented by spaces and tabs. -/
def Style.Indented (style : Style) : Prop := ∀ c ∈ style.indent, c = ' ' ∨ c = '\t'

instance (style : Style) : Decidable style.Indented :=
  List.decidableBAll (fun c => c = ' ' ∨ c = '\t') style.indent

/-- The spaces and tabs at the start of a line go. -/
theorem withoutLayout_margin {margin : List Char} (indented : ∀ c ∈ margin, c = ' ' ∨ c = '\t')
    (rest : List Char) : withoutLayout .margin (margin ++ rest) = withoutLayout .margin rest := by
  -- By induction on the margin, all of which is dropped.
  induction margin with
  | nil => rfl
  | cons c margin ih =>
    have others := ih fun c member => indented c (.tail _ member)
    rw [List.cons_append, withoutLayout, others]
    rcases indented c (.head _) with rfl | rfl <;> simp
    all_goals nofun

/-- The start of a line goes. -/
theorem withoutLayout_line (indented : style.Indented) (outside : spot.Outside) (depth : Nat)
    (rest : List Char) :
    withoutLayout spot (style.line depth ++ rest) = withoutLayout .margin rest := by
  -- The margin is of blanks and tabs, whatever its depth.
  have margin : ∀ c ∈ (List.replicate depth style.indent).flatten, c = ' ' ∨ c = '\t' := by
    intro c member
    obtain ⟨indent, repeated, inside⟩ := List.mem_flatten.1 member
    rw [List.eq_of_mem_replicate repeated] at inside
    exact indented c inside
  have feed (rest : List Char) : withoutLayout spot ('\n' :: rest) = withoutLayout .margin rest := by
    rw [withoutLayout, if_pos rfl]
    · exact outside.1
    · exact outside.2
  rw [Style.line, List.append_assoc, Style.newline]
  split
  · -- The carriage return goes with the line feed behind it.
    rw [List.cons_append, List.singleton_append, withoutLayout, if_neg (by decide),
      if_pos ⟨rfl, rfl⟩, feed, withoutLayout_margin margin]
    · exact outside.1
    · exact outside.2
  · rw [List.singleton_append, feed, withoutLayout_margin margin]

/-- Outside of strings a bracket, a brace or a comma is kept. -/
theorem withoutLayout_sign (outside : spot.Outside) {c : Char}
    (sign : c ∈ ['[', ']', '{', '}', ',']) (rest : List Char) :
    withoutLayout spot (c :: rest) = c :: withoutLayout .token rest := by
  simp only [List.mem_cons, List.not_mem_nil, or_false] at sign
  rcases sign with rfl | rfl | rfl | rfl | rfl
  all_goals
    rw [withoutLayout_kept outside (by decide)]
    rfl

/-- A colon is kept, and the space behind it goes. -/
theorem withoutLayout_colon (outside : spot.Outside) (rest : List Char) :
    withoutLayout spot (':' :: ' ' :: rest) = ':' :: withoutLayout .token rest := by
  rw [withoutLayout_kept outside (by decide), Spot.behind, if_neg (by decide), if_pos rfl,
    withoutLayout]
  · simp
  · nofun
  · nofun

/-- Texts with commas between them: the first one, and each other one behind its comma. -/
theorem intercalate_cons (text : List Char) (texts : List (List Char)) :
    [','].intercalate (text :: texts) = text ++ texts.flatMap (',' :: ·) := by
  induction texts generalizing text with
  | nil => simp
  | cons other texts ih =>
    rw [List.intercalate_cons_cons, ih, List.flatMap_cons]
    simp

mutual

/-- Without its layout a value is its compact text, wherever it stands. -/
theorem withoutLayout_writeAt (indented : style.Indented) (value : Value String)
    (numbered : value.Numbered) (depth : Nat) {spot : Spot} (outside : spot.Outside)
    (rest : List Char) :
    withoutLayout spot (writeAt style depth value ++ rest) =
      compact value ++ withoutLayout .token rest := by
  match value with
  | .null => exact withoutLayout_token outside (List.cons_ne_nil _ _) (by decide) rest
  | .bool true => exact withoutLayout_token outside (List.cons_ne_nil _ _) (by decide) rest
  | .bool false => exact withoutLayout_token outside (List.cons_ne_nil _ _) (by decide) rest
  -- A number is one token, of the characters that a token may have.
  | .number literal =>
    rw [Value.Numbered] at numbered
    refine withoutLayout_token outside ?_ (List.all_eq_true.2 fun c member => ?_) rest
    · rintro rfl
      exact absurd numbered.1 (by decide)
    · rw [isTokenChar, numbered.2 c member, Bool.true_or]
  | .string text => exact withoutLayout_writeString outside text rest
  | .array [] =>
    show withoutLayout spot ('[' :: ']' :: rest) = '[' :: ']' :: withoutLayout .token rest
    rw [withoutLayout_sign outside (by decide), withoutLayout_sign .token (by decide)]
  | .array (item :: items) =>
    -- From left to right: the bracket, the first item on its line, the others, the line of the end.
    rw [writeAt_array_append, withoutLayout_sign outside (by decide), withoutLayout_line indented .token,
      withoutLayout_writeAt indented item numbered.1 _ .margin,
      withoutLayout_writeItems indented items numbered.2, withoutLayout_line indented .token,
      withoutLayout_sign .margin (by decide), compact, compactItems, intercalate_cons]
    simp
  | .object [] =>
    show withoutLayout spot ('{' :: '}' :: rest) = '{' :: '}' :: withoutLayout .token rest
    rw [withoutLayout_sign outside (by decide), withoutLayout_sign .token (by decide)]
  | .object ((name, value) :: members) =>
    -- In the same order, with a name, a colon and a space in front of each value.
    rw [writeAt_object_append, withoutLayout_sign outside (by decide), withoutLayout_line indented .token,
      withoutLayout_writeString .margin, List.singleton_append, withoutLayout_colon .token,
      withoutLayout_writeAt indented value numbered.1 _ .token,
      withoutLayout_writeMembers indented members numbered.2, withoutLayout_line indented .token,
      withoutLayout_sign .margin (by decide), compact, compactMembers, intercalate_cons]
    simp

/-- Without its layout each further item is its compact text behind a comma. -/
theorem withoutLayout_writeItems (indented : style.Indented) (items : List (Value String))
    (numbered : Value.NumberedItems items) (depth : Nat) (rest : List Char) :
    withoutLayout .token (writeItems style depth items ++ rest) =
      (compactItems items).flatMap (',' :: ·) ++ withoutLayout .token rest := by
  match items with
  | [] => rfl
  | item :: items =>
    -- Piece by piece: of an item only the line in front of it is layout.
    rw [writeItems_cons_append, withoutLayout_sign .token (by decide), withoutLayout_line indented .token,
      withoutLayout_writeAt indented item numbered.1 _ .margin,
      withoutLayout_writeItems indented items numbered.2, compactItems, List.flatMap_cons]
    simp

/-- Without its layout each further member is its compact text behind a comma. -/
theorem withoutLayout_writeMembers (indented : style.Indented)
    (members : List (String × Value String)) (numbered : Value.NumberedMembers members)
    (depth : Nat) (rest : List Char) :
    withoutLayout .token (writeMembers style depth members ++ rest) =
      (compactMembers members).flatMap (',' :: ·) ++ withoutLayout .token rest := by
  match members with
  | [] => rfl
  | (name, value) :: members =>
    -- Piece by piece: of a member only the line and the blank behind the colon are layout.
    rw [writeMembers_cons_append, withoutLayout_sign .token (by decide), withoutLayout_line indented .token,
      withoutLayout_writeString .margin, List.singleton_append, withoutLayout_colon .token,
      withoutLayout_writeAt indented value numbered.1 _ .token,
      withoutLayout_writeMembers indented members numbered.2, compactMembers, List.flatMap_cons]
    simp

end

/-- Without its layout a document is the compact text of its value. -/
theorem withoutLayout_write (indented : style.Indented) {value : Value String}
    (numbered : value.Numbered) : withoutLayout .token (write style value) = compact value := by
  -- The end of the document is layout too.
  have ending : withoutLayout .token style.ending = [] := by
    rw [Style.ending]
    split
    · have line := withoutLayout_line indented .token 0 []
      simpa [Style.line, withoutLayout] using line
    · rfl
  rw [write_eq, withoutLayout_writeAt indented value numbered 0 .token, ending, List.append_nil]

end

end MessageCatalog.Json
