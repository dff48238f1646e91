import MessageCatalog.Json.Layout

/-! Documents in the wide form have plain names without quotes and a comma after every part. -/

namespace MessageCatalog.Json5

open Json (Value Style writeString)

/-- A name stands without quotes when it is an identifier of ASCII. -/
def isPlainName (name : String) : Bool :=
  match name.toList with
  | [] => false
  | c :: rest =>
    (c.isAlpha || c == '_' || c == '$') && rest.all fun c => c.isAlphanum || c == '_' || c == '$'

/-- The name of a member. -/
def writeName (name : String) : List Char :=
  if isPlainName name then name.toList else writeString name

/-- A line of its own for a closing bracket or a part. -/
def margin (style : Style) (depth : Nat) : List Char := (List.replicate depth style.indent).flatten

mutual

/-- A value whose last line stands at a depth. -/
def writeAt (style : Style) (depth : Nat) : Value String → List Char
  | .null => "null".toList
  | .bool true => "true".toList
  | .bool false => "false".toList
  | .number literal => literal
  | .string text => writeString text
  | .array [] => ['[', ']']
  | .array items =>
    '[' :: (style.newline ++ writeItems style (depth + 1) items ++ margin style depth ++ [']'])
  | .object [] => ['{', '}']
  | .object members =>
    '{' :: (style.newline ++ writeMembers style (depth + 1) members ++ margin style depth ++ ['}'])

/-- Items with a line each. -/
def writeItems (style : Style) (depth : Nat) : List (Value String) → List Char
  | [] => []
  | item :: items =>
    margin style depth ++ writeAt style depth item ++ ',' :: style.newline ++
      writeItems style depth items

/-- Members with a line each. -/
def writeMembers (style : Style) (depth : Nat) : List (String × Value String) → List Char
  | [] => []
  | (name, value) :: members =>
    margin style depth ++ writeName name ++ [':', ' '] ++ writeAt style depth value ++
      ',' :: style.newline ++ writeMembers style depth members

end

/-- A whole document. -/
def write (style : Style) (value : Value String) : List Char :=
  writeAt style 0 value ++ style.ending

end MessageCatalog.Json5
