import MessageCatalog.Proofs.Entry.Fault
import MessageCatalog.Proofs.Entry.MergeRuns
import MessageCatalog.Proofs.Message.Key

/-! The only defect that a merge of entries that pass can bring about is a text that is empty, and it
comes from a message in use. -/

namespace MessageCatalog

/-- Nothing is wrong with an entry, unless its text is empty. -/
def Entry.PassesWithText (entry : Entry) : Prop :=
  entry.defect? = if entry.message.text = "" then some .emptyText else none

/-- An entry that passes has a text. -/
theorem Entry.text_ne_empty {entry : Entry} (valid : entry.defect? = none) :
    entry.message.text ≠ "" := by
  intro empty
  simp [defect?, empty] at valid

/-- An entry that passes is one with a text. -/
theorem Entry.passesWithText {entry : Entry} (valid : entry.defect? = none) :
    entry.PassesWithText := by
  rw [PassesWithText, if_neg (text_ne_empty valid), valid]

/-- Where nothing but texts is missing, the check of a list fails for one that is. -/
theorem validateAll_eq_error {entries : List Entry}
    (passes : ∀ entry ∈ entries, entry.PassesWithText) {fault : CatalogFault} :
    validateAll entries = .error fault ↔
      fault = .entry "" .emptyText ∧ ∃ entry ∈ entries, entry.message.text = "" := by
  -- The first entry stops the check, or it is passed over and the others decide.
  induction entries with
  | nil => simp [validateAll]
  | cons entry entries ih =>
    have others := ih fun other member => passes other (.tail _ member)
    have first := passes entry (.head _)
    rw [Entry.PassesWithText] at first
    rw [validateAll, Entry.validate, first]
    by_cases empty : entry.message.text = ""
    · simp [empty, bind, Except.bind, @eq_comm _ fault]
    · simp [empty, bind, Except.bind, others]

section

variable {live : LiveMessages} {stored : List Entry} {pluralForms : Nat} {key : Key}
  {entry : Entry}

/-- What a key becomes has no other defect than an empty text. -/
theorem Becomes.passesWithText (valid : ∀ old ∈ stored, old.defect? = none)
    (becomes : Becomes live pluralForms stored key entry) : entry.PassesWithText := by
  -- A translation is kept with its message, and a placeholder has the number of its message.
  have passes {old : Entry} (found : lastStored stored key = some old) : old.PassesWithText :=
    Entry.passesWithText (valid old (lastStored_eq_some found).1)
  cases becomes with
  | @kept message old _ found =>
    have same := passes found
    exact same
  | @new message =>
    cases plural : message.plural <;> simp [Entry.PassesWithText, Entry.defect?, plural]
  | @unused old _ found =>
    have same := passes found
    exact same

/-- A new entry is that of a message in use. -/
theorem Becomes.inUse_of_new (becomes : Becomes live pluralForms stored key entry)
    (isNew : entry.status = some .new) : live.messages.get? key = some entry.message := by
  cases becomes with
  | kept => cases isNew
  | new inUse => exact inUse
  | unused => cases isNew

/-- A merged catalog has an entry without a text just when a message in use has none. -/
theorem exists_empty_merge_iff (named : ∀ key message, live.messages.get? key = some message →
      message.key = key) (valid : ∀ old ∈ stored, old.defect? = none) :
    (∃ entry ∈ merge stored live pluralForms, entry.message.text = "") ↔
      ∃ key message, live.messages.get? key = some message ∧ message.text = "" := by
  have sound := LiveMessages.sound_of_named named
  -- No stored entry has a key without a text, so a message without one is new.
  have texts {key : Key} {old : Entry} (found : lastStored stored key = some old) :
      old.message.text ≠ "" :=
    Entry.text_ne_empty (valid old (lastStored_eq_some found).1)
  constructor
  · rintro ⟨entry, member, empty⟩
    have becomes := mergeKey_eq_some_iff.1 ((mem_merge sound).1 member)
    generalize entry.key = key at becomes
    cases becomes with
    | kept _ found =>
      have nonempty := texts found
      exact absurd empty nonempty
    | new inUse => exact ⟨_, _, inUse, empty⟩
    | unused _ found =>
      have nonempty := texts found
      exact absurd empty nonempty
  · -- The new entry of the message is in the catalog, with the same empty text.
    rintro ⟨key, message, inUse, empty⟩
    have untranslated (old : Entry) (found : lastStored stored key = some old) :
        old.isTranslated = false := by
      have same := (lastStored_eq_some found).2.trans (named key message inUse).symm
      exact absurd ((text_eq_of_key_eq same).trans empty) (texts found)
    obtain ⟨entry, becomes, blank⟩ :
        ∃ entry, Becomes live pluralForms stored key entry ∧ entry.message.text = "" :=
      ⟨_, .new inUse untranslated, empty⟩
    have made := mergeKey_eq_some_iff.2 becomes
    rw [← becomes.key_eq sound] at made
    exact ⟨entry, (mem_merge sound).2 made, blank⟩

/-- The check of a merged catalog fails just for a message in use that has no text. -/
theorem validateAll_merge_eq_error (named : ∀ key message, live.messages.get? key = some message →
      message.key = key) (valid : ∀ old ∈ stored, old.defect? = none) {fault : CatalogFault} :
    validateAll (merge stored live pluralForms) = .error fault ↔
      fault = .entry "" .emptyText ∧
        ∃ key message, live.messages.get? key = some message ∧ message.text = "" := by
  have sound := LiveMessages.sound_of_named named
  rw [validateAll_eq_error fun entry member =>
      (mergeKey_eq_some_iff.1 ((mem_merge sound).1 member)).passesWithText valid,
    exists_empty_merge_iff named valid]

end

end MessageCatalog
