/-! A value of a document is a scalar, an array of values or an object with named members. -/

namespace MessageCatalog.Json

/-- A value whose strings are of a type `τ`. Numbers are kept as they are written, and members in
order, so that a repeated name is still seen. -/
inductive Value (τ : Type) where
  | null
  | bool (value : Bool)
  | number (literal : List Char)
  | string (text : τ)
  | array (items : List (Value τ))
  | object (members : List (τ × Value τ))
  deriving Repr, Inhabited

namespace Value

/-- A count as a number. -/
def count {τ : Type} (n : Nat) : Value τ := .number (Nat.toDigits 10 n)

mutual

/-- The same value with other strings. -/
def mapStrings {τ υ : Type} (f : τ → υ) : Value τ → Value υ
  | null => null
  | bool value => bool value
  | number literal => number literal
  | string text => string (f text)
  | array items => array (mapItems f items)
  | object members => object (mapMembers f members)

/-- The items of an array with other strings. -/
def mapItems {τ υ : Type} (f : τ → υ) : List (Value τ) → List (Value υ)
  | [] => []
  | item :: items => mapStrings f item :: mapItems f items

/-- The members of an object with other strings. -/
def mapMembers {τ υ : Type} (f : τ → υ) : List (τ × Value τ) → List (υ × Value υ)
  | [] => []
  | (name, value) :: members => (f name, mapStrings f value) :: mapMembers f members

end

end Value

end MessageCatalog.Json
