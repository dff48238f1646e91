/-! Lines end with a line feed, which may follow a carriage return; the last one may lack its end. -/

namespace MessageCatalog

/-- The lines of a text after the characters of a line already begun, which are held in reverse. -/
def linesAfter (begun : List Char) : List Char → List (List Char)
  | [] => if begun.isEmpty then [] else [begun.reverse]
  | c :: rest =>
    if c = '\n' then
      match begun with
      -- A carriage return in front of the line feed ends the line with it.
      | '\r' :: kept => kept.reverse :: linesAfter [] rest
      | _ => begun.reverse :: linesAfter [] rest
    else linesAfter (c :: begun) rest

/-- The lines of a text without their ends. -/
def lines (text : List Char) : List (List Char) := linesAfter [] text

end MessageCatalog
