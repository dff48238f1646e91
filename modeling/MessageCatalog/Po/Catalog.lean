import MessageCatalog.Po.Draft
import MessageCatalog.Text.Lines

/-! Catalogs in the format of translation tools: blocks of lines, one for each entry. -/

namespace MessageCatalog.Po

/-- The entries read so far, last one first, and the entry that is being put together. -/
structure Reading where
  entries : List Entry := []
  draft : Draft := {}

namespace Reading

/-- Finishing the draft, after which a new one begins. -/
def close (reading : Reading) : Except CatalogFault Reading := do
  match ← reading.draft.finish with
  | some entry => return ⟨entry :: reading.entries, {}⟩
  | none => return ⟨reading.entries, {}⟩

/-- What a line does: a blank one ends the entry, a comment does so after quoted texts, and a context
or a text does so when the entry has its text. -/
def add (reading : Reading) (number : Nat) (text : List Char) : Except CatalogFault Reading := do
  let placed {α : Type} (result : Except LineFault α) : Except CatalogFault α :=
    result.mapError (.line number)
  match ← placed (Line.read (trim text)) with
  | .blank => reading.close
  -- A comment belongs to the entry below it.
  | .comment comment =>
    let reading ← if reading.draft.hasFields then reading.close else pure reading
    return { reading with draft := ← placed (reading.draft.addComment comment) }
  | .field field value =>
    let reading ← if reading.draft.endsBefore field then reading.close else pure reading
    return { reading with draft := { reading.draft.append field value with last := some field } }
  | .continuation value =>
    match reading.draft.last with
    | some field => return { reading with draft := reading.draft.append field value }
    | none => throw (.line number .strayContinuation)

/-- Adding lines, the first of which has a number. -/
def addAll (reading : Reading) (number : Nat) : List (List Char) → Except CatalogFault Reading
  | [] => .ok reading
  | line :: rest => do
    let reading ← reading.add number line
    reading.addAll (number + 1) rest

end Reading

/-- The entries of a catalog text, in order. -/
def parse (text : List Char) : Except CatalogFault (List Entry) := do
  let reading ← Reading.addAll {} 0 (lines text)
  let reading ← reading.close
  return reading.entries.reverse

/-- The block that every catalog begins with. -/
def header : List Char :=
  ("msgid \"\"\nmsgstr \"\"\n\"Content-Type: text/plain; charset=UTF-8\\n\"\n" ++
    "\"Content-Transfer-Encoding: 8bit\\n\"\n").toList

/-- A comment has one line for each line of its text. -/
def writeComment (sign : String) (comment : String) : List Char :=
  (lines comment.toList).flatMap fun line => sign.toList ++ line ++ ['\n']

/-- The pieces of a text that end with a line feed each, but for the last one. -/
def lineSegments : List Char → List (List Char)
  | [] => []
  | c :: rest =>
    if c = '\n' then [c] :: lineSegments rest
    else match lineSegments rest with
      -- The text ends without a line feed.
      | [] => [[c]]
      | segment :: segments => (c :: segment) :: segments

/-- A quoted text on a line of its own. -/
def writeQuoted (text : List Char) : List Char := '"' :: escape text ++ ['"', '\n']

/-- A keyword with its text, which has a line for each of its own when there are several. -/
def writeField (keyword : String) (text : String) : List Char :=
  match lineSegments text.toList with
  -- A text of several lines begins on a line of its own.
  | first :: second :: rest =>
    keyword.toList ++ [' ', '"', '"', '\n'] ++ (first :: second :: rest).flatMap writeQuoted
  | _ => keyword.toList ++ [' '] ++ writeQuoted text.toList

/-- The status goes before the flags. -/
def writeFlags (entry : Entry) : List Char :=
  match (entry.status.map Status.name).toList ++ entry.flags with
  | [] => []
  | flags => ("#, " ++ ", ".intercalate flags ++ "\n").toList

/-- A translation has one field, or one for each form. -/
def writeTranslation : Translation → List Char
  | .single text => writeField "msgstr" text
  | .forms texts => (texts.zipIdx.map fun (text, index) =>
      writeField s!"msgstr[{index}]" text).flatten

/-- The block of an entry. -/
def writeEntry (entry : Entry) : List Char :=
  '\n' :: (entry.translatorComments.flatMap (writeComment "# ") ++
    entry.developerComments.flatMap (writeComment "#. ") ++
    (entry.references.flatMap fun reference => s!"#: {reference}\n".toList) ++
    writeFlags entry ++
    -- The fields stand below the comments, in the order in which they are read.
    (entry.message.context.map (writeField "msgctxt")).getD [] ++
    writeField "msgid" entry.message.text ++
    (entry.message.plural.map (writeField "msgid_plural")).getD [] ++
    writeTranslation entry.translation)

/-- The text of a catalog. -/
def write (entries : List Entry) : List Char := header ++ entries.flatMap writeEntry

end MessageCatalog.Po
