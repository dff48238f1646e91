import MessageCatalog.Po.Line
import MessageCatalog.SortedMap

/-! An entry is put together from its lines: comments first, then the quoted texts. -/

namespace MessageCatalog.Po

/-- An entry of which some lines have been read. -/
structure Draft where
  context : Option String := none
  text : Option String := none
  plural : Option String := none
  translation : Option String := none
  forms : SortedMap Nat String := ∅
  references : List Reference := []
  developerComments : List String := []
  translatorComments : List String := []
  flags : List String := []
  status : Option Status := none
  /-- The field of the last quoted text. -/
  last : Option Field := none

/-- The words of a text are the runs of characters between its blanks. -/
def words (text : List Char) : List (List Char) :=
  (text.splitBy fun a b => isBlank a == isBlank b).filter fun run => !run.any isBlank

/-- The pieces between the commas of a text. -/
def splitCommas : List Char → List (List Char)
  | [] => [[]]
  | c :: rest =>
    if c = ',' then [] :: splitCommas rest
    else match splitCommas rest with
      -- There is always a piece, so this case does not arise.
      | [] => [[c]]
      | piece :: pieces => (c :: piece) :: pieces

/-- A file and a line, with the last colon of the text between them. -/
def reference? (text : List Char) : Option Reference :=
  -- The last colon is the first one from behind.
  let reversed := text.reverse
  match reversed.dropWhile (· != ':') with
  | [] => none
  | _ :: file =>
    if file.isEmpty then none
    else (count? (reversed.takeWhile (· != ':')).reverse).map fun line =>
      ⟨String.ofList file.reverse, line⟩

/-- One reference for each word; where some word is none, the whole text is one reference, so that
the name of a file may hold blanks. -/
def references? (text : List Char) : Option (List Reference) :=
  match (words text).mapM reference? with
  | some references => some references
  | none => (reference? text).map fun reference => [reference]

namespace Draft

/-- A draft without quoted texts may hold comments only. -/
def hasFields (draft : Draft) : Bool := draft.last.isSome

/-- A flag either gives the status or is kept. -/
def addFlag (draft : Draft) (flag : List Char) : Draft :=
  let flag := String.ofList (trim flag)
  if flag.isEmpty then draft
  else match Status.ofName? flag with
    | some status => { draft with status := some status }
    | none => { draft with flags := draft.flags ++ [flag] }

/-- The sign at its start tells what a comment is for; earlier texts and obsolete entries are not
kept. -/
def addComment (draft : Draft) (comment : List Char) : Except LineFault Draft :=
  match comment with
  | '.' :: rest => .ok { draft with
      developerComments := draft.developerComments ++ [String.ofList (trimStart rest)] }
  | ':' :: rest =>
    match references? (trim rest) with
    | some references => .ok { draft with references := draft.references ++ references }
    | none => .error (.badReference (String.ofList (trim rest)))
  | ',' :: rest => .ok ((splitCommas rest).foldl addFlag draft)
  | '|' :: _ => .ok draft
  | '~' :: _ => .ok draft
  -- The blank behind the number sign is not part of the comment.
  | ' ' :: rest => .ok { draft with
      translatorComments := draft.translatorComments ++ [String.ofList rest] }
  | rest => .ok { draft with
      translatorComments := draft.translatorComments ++ [String.ofList rest] }

/-- Adding a quoted text to a field, which may have some already. -/
def append (draft : Draft) (field : Field) (value : List Char) : Draft :=
  let joined (earlier : Option String) : String := earlier.getD "" ++ String.ofList value
  -- Quoted texts of one field follow each other without anything in between.
  match field with
  | .context => { draft with context := some (joined draft.context) }
  | .text => { draft with text := some (joined draft.text) }
  | .plural => { draft with plural := some (joined draft.plural) }
  | .translation => { draft with translation := some (joined draft.translation) }
  | .form index =>
    { draft with forms := draft.forms.insert index (joined (draft.forms.get? index)) }

/-- A context or a text begins the next entry, except for a text right after a context. -/
def endsBefore (draft : Draft) (field : Field) : Bool :=
  (field == .context || field == .text) && draft.text.isSome && draft.last != some .context

/-- The forms up to the highest index; one that was left out is empty. -/
def formList (forms : SortedMap Nat String) : List String :=
  match forms.keys.getLast? with
  | some last => (List.range (last + 1)).map fun index => (forms.get? index).getD ""
  | none => []

/-- Indexed forms count before a translation without index, which is the only form of a plural. -/
def translation? (draft : Draft) : Option Translation :=
  if draft.forms.isEmpty then
    draft.translation.map fun text =>
      if draft.plural.isSome then .forms [text] else .single text
  else some (.forms (formList draft.forms))

/-- The entry of a draft; there is none without quoted texts, and none with an empty text and no
context, which is the header. -/
def finish (draft : Draft) : Except CatalogFault (Option Entry) :=
  if !draft.hasFields then .ok none
  else match draft.text with
    | none => .error (.entry "" .missingText)
    | some text =>
      -- The header is an entry for the empty text, and it is written anew each time.
      if text.isEmpty && draft.context.isNone then .ok none
      else match draft.translation? with
        | none => .error (.entry text .missingTranslation)
        | some translation => do
          let entry : Entry := {
            message := ⟨draft.context, text, draft.plural⟩
            translation
            references := draft.references
            developerComments := draft.developerComments
            translatorComments := draft.translatorComments
            flags := draft.flags
            status := draft.status }
          entry.validate
          return some entry

end Draft

end MessageCatalog.Po
