import MessageCatalog.Json.Value
import MessageCatalog.Text.Number

/-! A record is written as an object, or as the array of its fields in order. -/

namespace MessageCatalog.Json

/-- A value of a document as it was read: a string whose escapes form no text has none. -/
abbrev Document := Value (Option String)

/-- What a way of writing documents takes for the parts of a record. -/
structure Convention where
  /-- The count that a number stands for. -/
  count? : List Char → Option Nat
  /-- Whether a member that no field asks for may have a value. -/
  ignores : Document → Bool
  /-- Items after the last field do not matter. -/
  extraItems : Bool
  /-- The name in an object for a choice is its first member's, and all else does not matter. -/
  looseChoice : Bool

/-- A count in the plain form consists of digits. -/
def plainCount? (literal : List Char) : Option Nat :=
  if literal.all Char.isDigit then MessageCatalog.count? literal else none

/-- The convention of the plain form. -/
def Convention.plain : Convention := ⟨plainCount?, fun _ => true, false, false⟩

/-- A member fits a record when a field has its name, or when other members are taken and ignored. -/
def memberFits (convention : Convention) (closed : Bool) (names : List String)
    (member : Option String × Document) : Bool :=
  match member.1 with
  | some name => names.contains name || (!closed && convention.ignores member.2)
  | none => false

/-- The values of the named fields of a record, as far as there are any. No field may be given twice,
and a closed record has no other members. -/
def fields? (convention : Convention) (closed : Bool) (names : List String) :
    Document → Option (List (Option Document))
  | .object members =>
    -- A repeated name counts only when it is that of a field.
    let given := members.filterMap fun member => member.1.filter names.contains
    if members.all (memberFits convention closed names) && decide given.Nodup then
      some (names.map fun name => (members.find? fun member => member.1 == some name).map (·.2))
    else none
  | .array items =>
    if items.length ≤ names.length ∨ convention.extraItems then
      some (names.zipIdx.map fun (_, index) => items[index]?)
    else none
  | _ => none

/-- The text of a string. -/
def text? : Document → Option String
  | .string text => text
  | _ => none

/-- The items of an array, each of which has to be readable. -/
def list? {α : Type} (item? : Document → Option α) : Document → Option (List α)
  | .array items => items.mapM item?
  | _ => none

/-- The count of a number. -/
def Convention.countOf? (convention : Convention) : Document → Option Nat
  | .number literal => convention.count? literal
  | _ => none

/-- The name of a choice: a string, or the name in an object with one member without value. -/
def Convention.choice? (convention : Convention) : Document → Option String
  | .string text => text
  | .object [(name, .null)] => name
  | .object ((name, _) :: _) => if convention.looseChoice then name else none
  | _ => none

/-- A field that may be left out. -/
def orElse? {α : Type} (fallback : α) (read? : Document → Option α) :
    Option Document → Option α
  | some value => read? value
  | none => some fallback

/-- A value that may be null. -/
def nullable? {α : Type} (read? : Document → Option α) : Document → Option (Option α)
  | .null => some none
  | value => (read? value).map some

end MessageCatalog.Json
