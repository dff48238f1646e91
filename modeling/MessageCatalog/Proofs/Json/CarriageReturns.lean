import MessageCatalog.Proofs.Json.LineEnds

/-! Documents whose lines end with a carriage return and a line feed are those whose lines end with a line feed
only, with a carriage return in front of each line feed. -/

namespace MessageCatalog

namespace Json

/-- A text with a carriage return in front of each line feed. -/
def withReturns (text : List Char) : List Char :=
  text.flatMap fun c => if c = '\n' then ['\r', '\n'] else [c]

/-- The same layout with or without carriage returns. -/
def Style.returning (style : Style) (crlf : Bool) : Style := { style with crlf }

section

variable {text : List Char}

@[simp] theorem withReturns_nil : withReturns [] = [] := rfl

@[simp] theorem withReturns_append (text others : List Char) :
    withReturns (text ++ others) = withReturns text ++ withReturns others :=
  List.flatMap_append

@[simp] theorem withReturns_cons (c : Char) (text : List Char) :
    withReturns (c :: text) = (if c = '\n' then ['\r', '\n'] else [c]) ++ withReturns text :=
  List.flatMap_cons

/-- A text in one line stays as it is. -/
theorem withReturns_of_not_mem (line : '\n' ∉ text) : withReturns text = text := by
  -- By induction on the text; no character of it is the one that changes.
  induction text with
  | nil => rfl
  | cons c text ih =>
    rw [List.mem_cons, not_or] at line
    rw [withReturns_cons, if_neg (Ne.symm line.1), ih line.2]
    rfl

/-- A string stays as it is. -/
theorem withReturns_writeString (text : String) : withReturns (writeString text) = writeString text :=
  withReturns_of_not_mem (not_mem_writeString rfl text)

end

section

variable {style : Style}

/-- The end of a line gets its carriage return. -/
theorem newline_returning : (style.returning true).newline = withReturns (style.returning false).newline :=
  rfl

/-- The end of a document gets its carriage return, if it is the end of a line. -/
theorem ending_returning : (style.returning true).ending = withReturns (style.returning false).ending := by
  rw [Style.ending, Style.ending, newline_returning]
  -- Both documents end in a new line, or neither of them does.
  show (if style.trailingNewline then _ else _) = withReturns (if style.trailingNewline then _ else _)
  split <;> rfl

/-- The margin of a line stays as it is. -/
theorem withReturns_margin (indent : '\n' ∉ style.indent) (depth : Nat) :
    withReturns (List.replicate depth style.indent).flatten =
      (List.replicate depth style.indent).flatten :=
  withReturns_of_not_mem (by simp [List.mem_flatten, indent])

/-- The start of a line gets the carriage return of the line before. -/
theorem line_returning (indent : '\n' ∉ style.indent) (depth : Nat) :
    (style.returning true).line depth = withReturns ((style.returning false).line depth) := by
  rw [Style.line, Style.line, withReturns_append, newline_returning]
  exact congrArg (_ ++ ·) (withReturns_margin indent depth).symm

mutual

/-- A value gets its carriage returns. -/
theorem writeAt_returning (indent : '\n' ∉ style.indent) (value : Value String)
    (numbered : value.Numbered) (depth : Nat) :
    writeAt (style.returning true) depth value =
      withReturns (writeAt (style.returning false) depth value) := by
  match value with
  | .null => rfl
  | .bool true => rfl
  | .bool false => rfl
  | .number literal =>
    rw [Value.Numbered] at numbered
    exact (withReturns_of_not_mem (numbered.not_mem rfl)).symm
  | .string text => exact (withReturns_writeString text).symm
  | .array [] => rfl
  | .array (item :: items) =>
    -- Brackets stay, and the parts and the lines on which they stand get their carriage returns.
    have first := writeAt_returning indent item numbered.1 (depth + 1)
    have others := writeItems_returning indent items numbered.2 (depth + 1)
    simp [writeAt, line_returning indent, first, others]
  | .object [] => rfl
  | .object ((name, value) :: members) =>
    have first := writeAt_returning indent value numbered.1 (depth + 1)
    have others := writeMembers_returning indent members numbered.2 (depth + 1)
    simp [writeAt, line_returning indent, withReturns_writeString, first, others]

/-- Further items get their carriage returns. -/
theorem writeItems_returning (indent : '\n' ∉ style.indent) (items : List (Value String))
    (numbered : Value.NumberedItems items) (depth : Nat) :
    writeItems (style.returning true) depth items =
      withReturns (writeItems (style.returning false) depth items) := by
  match items with
  | [] => rfl
  | item :: items =>
    have first := writeAt_returning indent item numbered.1 depth
    have others := writeItems_returning indent items numbered.2 depth
    simp [writeItems, line_returning indent, first, others]

/-- Further members get their carriage returns. -/
theorem writeMembers_returning (indent : '\n' ∉ style.indent) (members : List (String × Value String))
    (numbered : Value.NumberedMembers members) (depth : Nat) :
    writeMembers (style.returning true) depth members =
      withReturns (writeMembers (style.returning false) depth members) := by
  match members with
  | [] => rfl
  | (name, value) :: members =>
    have first := writeAt_returning indent value numbered.1 depth
    have others := writeMembers_returning indent members numbered.2 depth
    simp [writeMembers, line_returning indent, withReturns_writeString, first, others]

end

/-- A document gets its carriage returns. -/
theorem write_returning (indent : '\n' ∉ style.indent) {value : Value String}
    (numbered : value.Numbered) :
    write (style.returning true) value = withReturns (write (style.returning false) value) := by
  rw [write_eq, write_eq, withReturns_append, writeAt_returning indent value numbered, ending_returning]

end

end Json

namespace Json5

open Json (Style Value withReturns withReturns_of_not_mem withReturns_writeString withReturns_append
  newline_returning ending_returning)

section

variable {style : Style}

/-- A name stays as it is. -/
theorem withReturns_writeName (name : String) : withReturns (writeName name) = writeName name :=
  withReturns_of_not_mem (not_mem_writeName rfl name)

/-- The margin of a line is the same with carriage returns, which it does not get. -/
theorem margin_returning (indent : '\n' ∉ style.indent) (depth : Nat) :
    margin (style.returning true) depth = withReturns (margin (style.returning false) depth) :=
  (Json.withReturns_margin indent depth).symm

mutual

/-- A value in the wide form gets its carriage returns. -/
theorem writeAt_returning (indent : '\n' ∉ style.indent) (value : Value String)
    (numbered : value.Numbered) (depth : Nat) :
    writeAt (style.returning true) depth value =
      withReturns (writeAt (style.returning false) depth value) := by
  match value with
  | .null => rfl
  | .bool true => rfl
  | .bool false => rfl
  | .number literal =>
    rw [Value.Numbered] at numbered
    exact (withReturns_of_not_mem (numbered.not_mem rfl)).symm
  | .string text => exact (withReturns_writeString text).symm
  | .array [] => rfl
  | .array (item :: items) =>
    -- All parts end in a new line here, also the last one.
    have all := writeItems_returning indent (item :: items) numbered (depth + 1)
    simp [writeAt, newline_returning, margin_returning indent, all]
  | .object [] => rfl
  | .object (member :: members) =>
    have all := writeMembers_returning indent (member :: members) numbered (depth + 1)
    simp [writeAt, newline_returning, margin_returning indent, all]

/-- Items in the wide form get their carriage returns. -/
theorem writeItems_returning (indent : '\n' ∉ style.indent) (items : List (Value String))
    (numbered : Value.NumberedItems items) (depth : Nat) :
    writeItems (style.returning true) depth items =
      withReturns (writeItems (style.returning false) depth items) := by
  match items with
  | [] => rfl
  | item :: items =>
    have first := writeAt_returning indent item numbered.1 depth
    have others := writeItems_returning indent items numbered.2 depth
    simp [writeItems, newline_returning, margin_returning indent, first, others]

/-- Members in the wide form get their carriage returns. -/
theorem writeMembers_returning (indent : '\n' ∉ style.indent) (members : List (String × Value String))
    (numbered : Value.NumberedMembers members) (depth : Nat) :
    writeMembers (style.returning true) depth members =
      withReturns (writeMembers (style.returning false) depth members) := by
  match members with
  | [] => rfl
  | (name, value) :: members =>
    have first := writeAt_returning indent value numbered.1 depth
    have others := writeMembers_returning indent members numbered.2 depth
    simp [writeMembers, newline_returning, margin_returning indent, withReturns_writeName, first, others]

end

/-- A document in the wide form gets its carriage returns. -/
theorem write_returning (indent : '\n' ∉ style.indent) {value : Value String}
    (numbered : value.Numbered) :
    write (style.returning true) value = withReturns (write (style.returning false) value) := by
  rw [write, write, withReturns_append, writeAt_returning indent value numbered, ending_returning]

end

end Json5

end MessageCatalog
