import MessageCatalog.Entry.Document
import MessageCatalog.Json.Text
import MessageCatalog.Json5.Layout
import MessageCatalog.Json5.Record
import MessageCatalog.Path
import MessageCatalog.Po.Catalog

/-! The formats of catalogs, each of which reads what it writes. -/

namespace MessageCatalog

/-- A format of catalogs. -/
inductive Format where
  | po
  | json
  | json5
  deriving DecidableEq, Repr, Inhabited

namespace Format

/-- The extension of a file in a format, which is also its name. -/
def name : Format → String
  | po => "po"
  | json => "json"
  | json5 => "json5"

/-- The format with a name. -/
def ofName? (name : String) : Option Format :=
  if name = "po" then some po
  else if name = "json" then some json
  else if name = "json5" then some json5
  else none

/-- The format with a name in letters of either case. -/
def ofText? (text : String) : Option Format := ofName? (text.map Char.toLower)

/-- How an unknown name of a format is told. -/
def unknownMessage (text : String) : String :=
  "Unknown catalog format '" ++ text.map Char.toLower ++ "' (expected po, json or json5)"

/-- The format that the extension of a path names. -/
def ofPath? (path : Path) : Option Format := path.extension?.bind ofName?

/-- The entries of a catalog text; a blank text has none. -/
def parse (format : Format) (text : String) : Except CatalogFault (List Entry) :=
  let chars := text.toList
  -- A file that has just been made is empty, and no document.
  if (trim chars).isEmpty then .ok []
  else match format with
    | po => Po.parse chars
    | json => Entry.listOfDocument .plain .json (Json.plain.read? chars)
    | json5 => Entry.listOfDocument Json5.convention .json5 (Json5.wide.read? chars)

/-- The text of a catalog, in characters. -/
def write (format : Format) (style : Json.Style) (entries : List Entry) : List Char :=
  match format with
  | po => Po.write entries
  | json => Json.write style (.array (entries.map Entry.document))
  | json5 => Json5.write style (.array (entries.map Entry.sortedDocument))

/-- The text of a catalog all of whose entries pass. -/
def stringify (format : Format) (style : Json.Style) (entries : List Entry) :
    Except CatalogFault String := do
  validateAll entries
  return String.ofList (format.write style entries)

end Format

end MessageCatalog
