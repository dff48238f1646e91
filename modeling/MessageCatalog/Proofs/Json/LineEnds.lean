import MessageCatalog.Proofs.Json5.Text

/-! The ends of lines with which a document is written are those that are found in its text. -/

namespace MessageCatalog

namespace Json

/-- Without carriage returns there is no pair of one and a line feed. -/
theorem usesCrlf_of_not_mem {text : List Char} (plain : '\r' ∉ text) : usesCrlf text = false := by
  -- By induction on the text; a pair would begin with a carriage return.
  induction text with
  | nil => rfl
  | cons c text ih =>
    have other : c ≠ '\r' := by
      rintro rfl
      exact plain (.head _)
    rw [usesCrlf]
    · exact ih fun member => plain (.tail _ member)
    · rintro _ rfl
      exact absurd rfl other

/-- A pair at the end of a text is found. -/
theorem usesCrlf_append (text : List Char) : usesCrlf (text ++ ['\r', '\n']) = true := by
  -- A pair in front of it is found before.
  fun_induction usesCrlf text with
  | case1 => rfl
  | case2 c text other ih =>
    rw [List.cons_append, usesCrlf]
    · exact ih
    · rintro rest rfl same
      cases text with
      | nil => cases same
      | cons d text =>
        cases same
        exact other text rfl rfl
  | case3 => rfl

/-- A character with which lines end. -/
def endsLines (c : Char) : Bool := c == '\r' || c == '\n'

/-- None of the characters with which lines end is among others that pass a test which both of them fail. -/
theorem not_mem_of_endsLines {p : Char → Bool} (returns : p '\r' = false) (feeds : p '\n' = false)
    {text : List Char} (inside : ∀ c ∈ text, p c = true) {c : Char} (ends : endsLines c = true) :
    c ∉ text := by
  intro member
  have passed := inside c member
  simp only [endsLines, Bool.or_eq_true, beq_iff_eq] at ends
  rcases ends with rfl | rfl
  · rw [returns] at passed
    cases passed
  · rw [feeds] at passed
    cases passed

/-- Carriage returns and line feeds are escaped. -/
theorem endsLines_of_mem_escapeChar {c d : Char} (member : d ∈ escapeChar c) : endsLines d = false := by
  -- Within ASCII every character can be tried.
  by_cases ascii : c.toNat < 128
  · have each : (escapeChar c).all (fun d => !endsLines d) = true :=
      Json5.of_ascii (p := fun c => (escapeChar c).all fun d => !endsLines d) (by decide +kernel) ascii
    simpa using List.all_eq_true.1 each d member
  · -- Beyond ASCII a character stands for itself.
    have other {d : Char} (low : d.toNat < 128) : c ≠ d := by
      rintro rfl
      exact ascii low
    have visible : ¬ c.toNat < 0x20 := fun low => ascii (Nat.lt_of_lt_of_le low (by decide))
    have same : escapeChar c = [c] := by
      rw [escapeChar, if_neg (other (by decide)), if_neg (other (by decide)),
        if_neg (other (by decide)), if_neg (other (by decide)), if_neg (other (by decide)),
        if_neg (other (by decide)), if_neg (other (by decide)), if_neg visible]
    rw [same, List.mem_singleton] at member
    subst member
    simp [endsLines, other (d := '\r') (by decide), other (d := '\n') (by decide)]

section

variable {ending : Char} (ends : endsLines ending = true)

include ends

/-- A string is written in one line. -/
theorem not_mem_writeString (text : String) : ending ∉ writeString text := by
  refine not_mem_of_endsLines (p := fun c => !endsLines c) rfl rfl (fun c member => ?_) ends
  rw [writeString, List.mem_cons, List.mem_append, List.mem_flatMap, List.mem_singleton] at member
  rcases member with rfl | ⟨d, -, member⟩ | rfl
  · rfl
  · rw [endsLines_of_mem_escapeChar member]
    rfl
  · rfl

/-- A number is written in one line. -/
theorem IsNumeral.not_mem {literal : List Char} (numeral : IsNumeral literal) : ending ∉ literal :=
  not_mem_of_endsLines (by decide) (by decide) numeral.2 ends

end

/-- Lines that end with a line feed only, and are not indented by carriage returns. -/
structure Style.Plain (style : Style) : Prop where
  feeds : style.crlf = false
  indent : '\r' ∉ style.indent

section

variable {style : Style}

/-- Such lines have no carriage returns. -/
theorem Style.Plain.not_mem_newline (plain : style.Plain) : '\r' ∉ style.newline := by
  rw [newline, plain.feeds]
  decide

/-- The margin of such a line has no carriage returns. -/
theorem Style.Plain.not_mem_margin (plain : style.Plain) (depth : Nat) :
    '\r' ∉ (List.replicate depth style.indent).flatten := by
  simp [List.mem_flatten, plain.indent]

/-- A new line in a document has no carriage returns. -/
theorem Style.Plain.not_mem_line (plain : style.Plain) (depth : Nat) : '\r' ∉ style.line depth := by
  rw [line, List.mem_append, not_or]
  exact ⟨plain.not_mem_newline, plain.not_mem_margin depth⟩

mutual

/-- A value is written without carriage returns. -/
theorem not_mem_writeAt (plain : style.Plain) (value : Value String) (numbered : value.Numbered)
    (depth : Nat) : '\r' ∉ writeAt style depth value := by
  -- One case for each kind of value; the pieces between the values are free of them.
  match value with
  | .null => simp [writeAt]
  | .bool true => simp [writeAt]
  | .bool false => simp [writeAt]
  | .number literal =>
    rw [Value.Numbered] at numbered
    exact numbered.not_mem rfl
  | .string text => exact not_mem_writeString rfl text
  | .array [] => simp [writeAt]
  | .array (item :: items) =>
    have first := not_mem_writeAt plain item numbered.1 (depth + 1)
    have others := not_mem_writeItems plain items numbered.2 (depth + 1)
    simp [writeAt, plain.not_mem_line, first, others]
  | .object [] => simp [writeAt]
  | .object ((name, value) :: members) =>
    have first := not_mem_writeAt plain value numbered.1 (depth + 1)
    have others := not_mem_writeMembers plain members numbered.2 (depth + 1)
    have named : '\r' ∉ writeString name := not_mem_writeString rfl name
    simp [writeAt, plain.not_mem_line, named, first, others]

/-- Further items are written without carriage returns. -/
theorem not_mem_writeItems (plain : style.Plain) (items : List (Value String))
    (numbered : Value.NumberedItems items) (depth : Nat) : '\r' ∉ writeItems style depth items := by
  match items with
  | [] => nofun
  | item :: items =>
    have first := not_mem_writeAt plain item numbered.1 depth
    have others := not_mem_writeItems plain items numbered.2 depth
    simp [writeItems, plain.not_mem_line, first, others]

/-- Further members are written without carriage returns. -/
theorem not_mem_writeMembers (plain : style.Plain) (members : List (String × Value String))
    (numbered : Value.NumberedMembers members) (depth : Nat) :
    '\r' ∉ writeMembers style depth members := by
  match members with
  | [] => nofun
  | (name, value) :: members =>
    have first := not_mem_writeAt plain value numbered.1 depth
    have others := not_mem_writeMembers plain members numbered.2 depth
    have named : '\r' ∉ writeString name := not_mem_writeString rfl name
    simp [writeMembers, plain.not_mem_line, named, first, others]

end

end

/-- A text behind which a line ends tells how the lines end. -/
theorem usesCrlf_append_ending {style : Style} (ended : style.trailingNewline = true)
    {text : List Char} (plain : style.crlf = false → '\r' ∉ text) :
    usesCrlf (text ++ style.ending) = style.crlf := by
  rw [Style.ending, if_pos ended, Style.newline]
  cases feeds : style.crlf with
  | true => exact usesCrlf_append text
  | false =>
    refine usesCrlf_of_not_mem ?_
    simp [plain feeds]

/-- The ends of lines of a document are found in its text. -/
theorem usesCrlf_write {style : Style} (ended : style.trailingNewline = true)
    (indent : '\r' ∉ style.indent) {value : Value String} (numbered : value.Numbered) :
    usesCrlf (write style value) = style.crlf := by
  rw [write_eq]
  exact usesCrlf_append_ending ended fun feeds => not_mem_writeAt ⟨feeds, indent⟩ value numbered 0

end Json

namespace Json5

open Json (Style Value endsLines not_mem_of_endsLines not_mem_writeString usesCrlf
  usesCrlf_append_ending)

/-- A name is written in one line. -/
theorem not_mem_writeName {ending : Char} (ends : endsLines ending = true) (name : String) :
    ending ∉ writeName name := by
  rw [writeName]
  -- A name is written bare or as a string; letters and digits end no line.
  split
  · rename_i plain
    obtain ⟨c, word, spelled, first, stays⟩ := spelled_of_isPlainName plain
    rw [spelled, List.mem_cons, not_or]
    constructor
    · rintro rfl
      exact not_mem_of_endsLines (by decide) (by decide) (List.forall_mem_singleton.2 first) ends (.head _)
    · exact not_mem_of_endsLines (by decide) (by decide) stays ends
  · exact not_mem_writeString ends name

section

variable {style : Style}

mutual

/-- A value in the wide form is written without carriage returns. -/
theorem not_mem_writeAt (plain : style.Plain) (value : Value String) (numbered : value.Numbered)
    (depth : Nat) : '\r' ∉ writeAt style depth value := by
  -- A scalar is written on one line, and a container adds line ends to those of its parts.
  match value with
  | .null => simp [writeAt]
  | .bool true => simp [writeAt]
  | .bool false => simp [writeAt]
  | .number literal =>
    rw [Value.Numbered] at numbered
    exact numbered.not_mem rfl
  | .string text => exact not_mem_writeString rfl text
  | .array [] => simp [writeAt]
  | .array (item :: items) =>
    have all := not_mem_writeItems plain (item :: items) numbered (depth + 1)
    simp [writeAt, margin, plain.not_mem_newline, plain.not_mem_margin, all]
  | .object [] => simp [writeAt]
  | .object (member :: members) =>
    have all := not_mem_writeMembers plain (member :: members) numbered (depth + 1)
    simp [writeAt, margin, plain.not_mem_newline, plain.not_mem_margin, all]

/-- Items in the wide form are written without carriage returns. -/
theorem not_mem_writeItems (plain : style.Plain) (items : List (Value String))
    (numbered : Value.NumberedItems items) (depth : Nat) : '\r' ∉ writeItems style depth items := by
  match items with
  | [] => nofun
  | item :: items =>
    have first := not_mem_writeAt plain item numbered.1 depth
    have others := not_mem_writeItems plain items numbered.2 depth
    simp [writeItems, margin, plain.not_mem_newline, plain.not_mem_margin, first, others]

/-- Members in the wide form are written without carriage returns. -/
theorem not_mem_writeMembers (plain : style.Plain) (members : List (String × Value String))
    (numbered : Value.NumberedMembers members) (depth : Nat) :
    '\r' ∉ writeMembers style depth members := by
  match members with
  | [] => nofun
  | (name, value) :: members =>
    have first := not_mem_writeAt plain value numbered.1 depth
    have others := not_mem_writeMembers plain members numbered.2 depth
    have named : '\r' ∉ writeName name := not_mem_writeName rfl name
    simp [writeMembers, margin, plain.not_mem_newline, plain.not_mem_margin, named, first, others]

end

end

/-- The ends of lines of a document in the wide form are found in its text. -/
theorem usesCrlf_write {style : Style} (ended : style.trailingNewline = true)
    (indent : '\r' ∉ style.indent) {value : Value String} (numbered : value.Numbered) :
    usesCrlf (write style value) = style.crlf :=
  usesCrlf_append_ending ended fun feeds => not_mem_writeAt ⟨feeds, indent⟩ value numbered 0

end Json5

end MessageCatalog
