import MessageCatalog.Json.Layout

/-! What is written of a value depends on its depth alone: the progress of a document, which is kept once for
all of its containers, tells at each end of a container whether that one has values. -/

namespace MessageCatalog.Json

/-- Whether a value is an array or an object. -/
def Value.isContainer {τ : Type} : Value τ → Bool
  | .array _ => true
  | .object _ => true
  | _ => false

mutual

/-- A value whose last line stands at a depth; an empty container has no lines of its own. -/
def writeAt (style : Style) (depth : Nat) : Value String → List Char
  | .null => "null".toList
  | .bool true => "true".toList
  | .bool false => "false".toList
  | .number literal => literal
  | .string text => writeString text
  | .array [] => ['[', ']']
  | .array (item :: items) =>
    '[' :: (style.line (depth + 1) ++ writeAt style (depth + 1) item ++
      writeItems style (depth + 1) items ++ style.line depth ++ [']'])
  | .object [] => ['{', '}']
  | .object ((name, value) :: members) =>
    '{' :: (style.line (depth + 1) ++ writeString name ++ [':', ' '] ++
      writeAt style (depth + 1) value ++ writeMembers style (depth + 1) members ++
      style.line depth ++ ['}'])

/-- Each further item follows a comma. -/
def writeItems (style : Style) (depth : Nat) : List (Value String) → List Char
  | [] => []
  | item :: items =>
    ',' :: (style.line depth ++ writeAt style depth item ++ writeItems style depth items)

/-- Each further member follows a comma. -/
def writeMembers (style : Style) (depth : Nat) : List (String × Value String) → List Char
  | [] => []
  | (name, value) :: members =>
    ',' :: (style.line depth ++ writeString name ++ [':', ' '] ++ writeAt style depth value ++
      writeMembers style depth members)

end

section

variable {style : Style} (depth : Nat) (rest : List Char)

/-- An array in front of further text, piece by piece. -/
theorem writeAt_array_append (item : Value String) (items : List (Value String)) :
    writeAt style depth (.array (item :: items)) ++ rest =
      '[' :: (style.line (depth + 1) ++ (writeAt style (depth + 1) item ++
        (writeItems style (depth + 1) items ++ (style.line depth ++ ']' :: rest)))) := by
  simp [writeAt]

/-- An object in front of further text, piece by piece. -/
theorem writeAt_object_append (name : String) (value : Value String)
    (members : List (String × Value String)) :
    writeAt style depth (.object ((name, value) :: members)) ++ rest =
      '\x7b' :: (style.line (depth + 1) ++ (writeString name ++ ':' :: ([' '] ++
        (writeAt style (depth + 1) value ++ (writeMembers style (depth + 1) members ++
          (style.line depth ++ '\x7d' :: rest)))))) := by
  simp [writeAt]

/-- A further item in front of the others, piece by piece. -/
theorem writeItems_cons_append (item : Value String) (items : List (Value String)) :
    writeItems style depth (item :: items) ++ rest =
      ',' :: (style.line depth ++ (writeAt style depth item ++
        (writeItems style depth items ++ rest))) := by
  simp [writeItems]

/-- A further member in front of the others, piece by piece. -/
theorem writeMembers_cons_append (name : String) (value : Value String)
    (members : List (String × Value String)) :
    writeMembers style depth ((name, value) :: members) ++ rest =
      ',' :: (style.line depth ++ (writeString name ++ ':' :: ([' '] ++
        (writeAt style depth value ++ (writeMembers style depth members ++ rest))))) := by
  simp [writeMembers]

end

/-- One step goes on with the progress of the other one. -/
theorem Writing.append_apply (first second : Writing) (progress : Progress) :
    (first ++ second) progress =
      ((first progress).1 ++ (second (first progress).2).1, (second (first progress).2).2) := rfl

section

variable (style : Style)

/-- A container that is opened and closed around its parts. When it is closed, the progress tells whether
there were any, whatever was written in them. -/
theorem Writing.container_apply {inside : Writing} {progress : Progress} {text : List Char}
    {filled : Bool}
    (written : inside ⟨progress.depth + 1, false⟩ = (text, ⟨progress.depth + 1, filled⟩))
    (opening closing : Char) :
    (beginContainer opening ++ inside ++ endContainer style closing) progress =
      (opening :: (text ++ (if filled then style.line progress.depth else []) ++ [closing]),
        { progress with hasValue := true }) := by
  simp [append_apply, beginContainer, endContainer, written]

mutual

/-- A value is written by its depth, to which the progress comes back; a container counts as a value by
then. -/
theorem emit_apply (value : Value String) (progress : Progress) :
    emit style value progress = (writeAt style progress.depth value,
      { progress with hasValue := progress.hasValue || value.isContainer }) := by
  match value with
  | .null | .bool true | .bool false | .number literal | .string text =>
    simp [emit, writeAt, Writing.plain, Value.isContainer]
  | .array [] =>
    -- Nothing was written since the bracket, whatever was written before.
    rw [emit, Writing.container_apply style (emitItems_apply [] true _)]
    simp [writeAt, writeItems, Value.isContainer]
  | .array (item :: items) =>
    rw [emit, Writing.container_apply style (emitItems_apply (item :: items) true _)]
    simp [writeAt, writeItems, Value.isContainer]
  | .object [] =>
    rw [emit, Writing.container_apply style (emitMembers_apply [] true _)]
    simp [writeAt, writeMembers, Value.isContainer]
  | .object (member :: members) =>
    rw [emit, Writing.container_apply style (emitMembers_apply (member :: members) true _)]
    simp [writeAt, writeMembers, Value.isContainer]

/-- Items are written by their depth, the first one of all without the comma. Behind any of them there is a
value, also when the last one was an empty container. -/
theorem emitItems_apply (items : List (Value String)) (first : Bool) (progress : Progress) :
    emitItems style first items progress =
      (if first then (writeItems style progress.depth items).tail
        else writeItems style progress.depth items,
      { progress with hasValue := progress.hasValue || !items.isEmpty }) := by
  match items with
  | [] => cases first <;> simp [emitItems, writeItems, Writing.plain]
  | item :: items =>
    -- Behind an item there is a value, whether the item is a container or not.
    simp only [emitItems, Writing.append_apply, Writing.beginPart, Writing.endPart, emit_apply item,
      emitItems_apply items]
    cases first <;> simp [writeItems]

/-- Members are written by their depth, the first one of all without the comma. -/
theorem emitMembers_apply (members : List (String × Value String)) (first : Bool)
    (progress : Progress) :
    emitMembers style first members progress =
      (if first then (writeMembers style progress.depth members).tail
        else writeMembers style progress.depth members,
      { progress with hasValue := progress.hasValue || !members.isEmpty }) := by
  match members with
  | [] => cases first <;> simp [emitMembers, writeMembers, Writing.plain]
  | (name, value) :: members =>
    simp only [emitMembers, Writing.append_apply, Writing.beginPart, Writing.plain, Writing.endPart,
      emit_apply value, emitMembers_apply members]
    cases first <;> simp [writeMembers]

end

/-- A document is its value at no depth, and the end of the last line. -/
theorem write_eq (value : Value String) :
    write style value = writeAt style 0 value ++ style.ending := by
  rw [write, emit_apply]

end

end MessageCatalog.Json
