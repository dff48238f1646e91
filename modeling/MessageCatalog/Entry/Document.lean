import MessageCatalog.Entry.Fault
import MessageCatalog.Json.Layout
import MessageCatalog.Json.Record
import MessageCatalog.SortedMap

/-! Entries as documents: each is a record whose absent parts and empty lists are left out. -/

namespace MessageCatalog

open Json (Value Document Convention)

/-- A list as a member, unless it is empty. -/
def listMember (name : String) : List (Value String) → List (String × Value String)
  | [] => []
  | items => [(name, .array items)]

namespace Translation

/-- A single text is a string, and forms are an array. -/
def document : Translation → Value String
  | single text => .string text
  | forms texts => .array (texts.map .string)

/-- A string is a single text, and an array of strings is forms. -/
def ofDocument? : Document → Option Translation
  | .string text => text.map single
  | .array items => (items.mapM Json.text?).map forms
  | _ => none

end Translation

namespace Reference

/-- A reference is a record of file and line. -/
def document (reference : Reference) : Value String :=
  .object [("filename", .string reference.file), ("line", .count reference.line)]

/-- The fields of a reference, neither of which may be left out. -/
def ofDocument? (convention : Convention) (value : Document) : Option Reference := do
  match ← Json.fields? convention false ["filename", "line"] value with
  | [some file, some line] => return ⟨← Json.text? file, ← convention.countOf? line⟩
  | _ => none

end Reference

/-- The status that a choice names. -/
def Status.ofDocument? (convention : Convention) (value : Document) : Option Status :=
  (convention.choice? value).bind Status.ofName?

namespace Entry

/-- The names of the fields of an entry, in order. -/
def fieldNames : List String :=
  ["msgctxt", "msgid", "msgidPlural", "msgstr", "references", "developerComments",
    "translatorComments", "flags", "status"]

/-- An entry as a record. -/
def document (entry : Entry) : Value String :=
  let text (name : String) : Option String → List (String × Value String)
    | some text => [(name, .string text)]
    | none => []
  -- Whatever is empty is left out; the text and the translation are always there.
  .object (text "msgctxt" entry.message.context ++
    [("msgid", .string entry.message.text)] ++
    text "msgidPlural" entry.message.plural ++
    [("msgstr", entry.translation.document)] ++
    listMember "references" (entry.references.map Reference.document) ++
    listMember "developerComments" (entry.developerComments.map .string) ++
    listMember "translatorComments" (entry.translatorComments.map .string) ++
    listMember "flags" (entry.flags.map .string) ++
    text "status" (entry.status.map Status.name))

/-- The same record with its members in the order of their names. -/
def sortedDocument (entry : Entry) : Value String :=
  match entry.document with
  | .object members => .object (SortedMap.ofList members).toList
  | value => value

/-- A record of an entry in which text and translation may be missing. -/
structure Record where
  context : Option String
  text : Option String
  plural : Option String
  translation : Option Translation
  references : List Reference
  developerComments : List String
  translatorComments : List String
  flags : List String
  status : Option Status

/-- The fields of an entry; all of them may be left out, and those that are no lists may be null. -/
def Record.ofDocument? (convention : Convention) (value : Document) : Option Record := do
  let text := Json.orElse? none (Json.nullable? Json.text?)
  let texts := Json.orElse? [] (Json.list? Json.text?)
  -- The fields come in the order of their names, whatever the order of the members.
  match ← Json.fields? convention false fieldNames value with
  | [msgctxt, msgid, msgidPlural, msgstr, references, developer, translator, flags, status] =>
    return {
      context := ← text msgctxt
      text := ← text msgid
      plural := ← text msgidPlural
      translation := ← Json.orElse? none (Json.nullable? Translation.ofDocument?) msgstr
      references := ← Json.orElse? [] (Json.list? (Reference.ofDocument? convention)) references
      developerComments := ← texts developer
      translatorComments := ← texts translator
      flags := ← texts flags
      status := ← Json.orElse? none (Json.nullable? (Status.ofDocument? convention)) status }
  | _ => none

/-- The entry of a record, which needs a text and a translation and has to pass. -/
def ofRecord (record : Record) : Except CatalogFault Entry :=
  match record.text with
  | none => .error (.entry "" .missingText)
  | some text =>
    match record.translation with
    | none => .error (.entry text .missingTranslation)
    | some translation => do
      let entry : Entry := {
        message := ⟨record.context, text, record.plural⟩
        translation
        references := record.references
        developerComments := record.developerComments
        translatorComments := record.translatorComments
        flags := record.flags
        status := record.status }
      -- The parts may be there and still not fit each other.
      entry.validate
      return entry

/-- The entries of a document, which is an array of records; the first one that does not pass
stops it. -/
def listOfDocument (convention : Convention) (malformed : CatalogFault) (value : Option Document) :
    Except CatalogFault (List Entry) :=
  match value.bind (Json.list? (Record.ofDocument? convention)) with
  | some records => records.mapM ofRecord
  | none => .error malformed

end Entry

end MessageCatalog
