import MessageCatalog.Json.Record
import MessageCatalog.Json5.Number

/-! Records in the wide form: what no field asks for is still read, but items past the last are not. -/

namespace MessageCatalog.Json5

open Json (Document)

mutual

/-- A value is read through when every string in it has a text and every number is readable. -/
def isReadThrough : Document → Bool
  | .null => true
  | .bool _ => true
  | .number literal => isReadable literal
  | .string text => text.isSome
  | .array items => areItemsReadThrough items
  | .object members => areMembersReadThrough members

/-- Items are read through when each one is. -/
def areItemsReadThrough : List Document → Bool
  | [] => true
  | item :: items => isReadThrough item && areItemsReadThrough items

/-- Members are read through when each name has a text and each value is read through. -/
def areMembersReadThrough : List (Option String × Document) → Bool
  | [] => true
  | (name, value) :: members =>
    name.isSome && isReadThrough value && areMembersReadThrough members

end

/-- The convention of the wide form. -/
def convention : Json.Convention := ⟨count?, isReadThrough, true, true⟩

end MessageCatalog.Json5
