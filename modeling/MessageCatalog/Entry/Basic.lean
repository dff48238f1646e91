import MessageCatalog.Message.Key
import MessageCatalog.Text.Quoted

/-! An entry of a catalog is a message with its translation and what is noted about it. -/

namespace MessageCatalog

/-- The translation of a message: one text, or one for each plural form. -/
inductive Translation where
  | single (text : String)
  | forms (texts : List String)
  deriving DecidableEq, Repr, Inhabited

namespace Translation

/-- A placeholder for a translation still to be made; a plural one has at least one form. -/
def placeholder (plural : Bool) (forms : Nat) : Translation :=
  if plural then .forms (List.replicate (max forms 1) "") else .single ""

/-- A translation with one text per form. -/
def isPlural : Translation → Bool
  | single _ => false
  | forms _ => true

/-- A translation has been made when some text of it is not empty. -/
def isDone : Translation → Bool
  | single text => !text.isEmpty
  | forms texts => texts.any fun text => !text.isEmpty

end Translation

/-- How an entry differs from the messages that sources use. -/
inductive Status where
  /-- Used and not translated yet. -/
  | new
  /-- Translated and not used any more. -/
  | unused
  deriving DecidableEq, Repr, Inhabited

namespace Status

/-- The word for a status. -/
def name : Status → String
  | new => "new"
  | unused => "unused"

/-- The status that a word names. -/
def ofName? (name : String) : Option Status :=
  if name = "new" then some new
  else if name = "unused" then some unused
  else none

end Status

/-- A place where a message is used; lines are counted from one. -/
structure Reference where
  file : String
  line : Nat
  deriving DecidableEq, Repr, Inhabited

namespace Reference

/-- References are ordered by file, then by line. -/
instance : Ord Reference := ⟨compareLex (compareOn Reference.file) (compareOn Reference.line)⟩

/-- The order of references is transitive and oriented. -/
instance : Std.TransOrd Reference :=
  inferInstanceAs (Std.TransCmp (compareLex (compareOn Reference.file) (compareOn Reference.line)))

/-- A reference is written as file and line. -/
instance : ToString Reference := ⟨fun reference => s!"{reference.file}:{reference.line}"⟩

end Reference

/-- One message of a catalog. -/
structure Entry where
  message : Message
  translation : Translation
  references : List Reference := []
  developerComments : List String := []
  translatorComments : List String := []
  flags : List String := []
  status : Option Status := none
  deriving DecidableEq, Repr, Inhabited

/-- What makes an entry unfit for a catalog. -/
inductive EntryDefect where
  | missingText
  | missingTranslation
  | emptyText
  | singleForPlural
  | formsForSingular
  | noForms
  deriving DecidableEq, Repr, Inhabited

/-- A defect as it is told. -/
def EntryDefect.message : EntryDefect → String
  | missingText => "entry has no msgid"
  | missingTranslation => "entry has no msgstr"
  | emptyText => "msgid is empty"
  | singleForPlural => "plural message needs one msgstr per plural form"
  | formsForSingular => "singular message has plural msgstr forms"
  | noForms => "plural msgstr has no forms"

namespace Entry

/-- The key of the message. -/
def key (entry : Entry) : Key := entry.message.key

/-- An entry is translated when its translation has been made. -/
def isTranslated (entry : Entry) : Bool := entry.translation.isDone

/-- The first thing that is wrong with an entry: an empty text, or a translation that does not have
the number of the message. -/
def defect? (entry : Entry) : Option EntryDefect :=
  if entry.message.text.isEmpty then some .emptyText
  -- A plural has at least one form, and a message without one has a single text.
  else match entry.message.plural, entry.translation with
    | some _, .single _ => some .singleForPlural
    | none, .forms _ => some .formsForSingular
    | some _, .forms [] => some .noForms
    | _, _ => none

end Entry

end MessageCatalog
