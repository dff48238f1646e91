import MessageCatalog.Entry.Basic
import MessageCatalog.SortedMap

/-! A catalog is brought up to date with the messages in use, and no translation is dropped. -/

namespace MessageCatalog

/-- The messages in use by key, and where each one is used. -/
structure LiveMessages where
  messages : SortedMap Key Message
  usages : SortedMap Key (SortedSet Reference)
  deriving DecidableEq

namespace LiveMessages

/-- The places where a message is used, in order. -/
def references (live : LiveMessages) (key : Key) : List Reference :=
  match live.usages.get? key with
  | some usages => usages.elements
  | none => []

end LiveMessages

/-- The entry for a message in use that has no translation; comments and flags are kept. -/
def Entry.new (message : Message) (pluralForms : Nat) (references : List Reference)
    (stored : Option Entry) : Entry where
  message
  translation := .placeholder message.isPlural pluralForms
  references
  developerComments := (stored.map Entry.developerComments).getD []
  translatorComments := (stored.map Entry.translatorComments).getD []
  flags := (stored.map Entry.flags).getD []
  status := some .new

/-- What becomes of a key: a translation is kept, as unused when its message is not in use; a message
in use without one is new; and all else goes. -/
def mergeKey (live : LiveMessages) (pluralForms : Nat) (stored : Option Entry) (key : Key) :
    Option Entry :=
  -- What is stored counts only when it has been translated.
  let references := live.references key
  match live.messages.get? key, stored.filter Entry.isTranslated with
  | some _, some entry => some { entry with references, status := none }
  | some message, none => some (.new message pluralForms references stored)
  | none, some entry => some { entry with references := [], status := some .unused }
  | none, none => none

/-- Stored entries by key; of several with one key the last counts. -/
def entriesByKey (stored : List Entry) : SortedMap Key Entry :=
  .ofList (stored.map fun entry => (entry.key, entry))

/-- The keys of stored entries and of messages in use. -/
def mergedKeys (stored : SortedMap Key Entry) (live : LiveMessages) : SortedSet Key :=
  live.messages.keys.foldl SortedSet.add (.ofElements stored.keys)

/-- The merged catalog in key order. -/
def merge (stored : List Entry) (live : LiveMessages) (pluralForms : Nat) : List Entry :=
  let stored := entriesByKey stored
  (mergedKeys stored live).elements.filterMap fun key =>
    mergeKey live pluralForms (stored.get? key) key

/-- The number of entries with a status. -/
def countStatus (entries : List Entry) (status : Status) : Nat :=
  entries.countP fun entry => entry.status == some status

end MessageCatalog
