import MessageCatalog.Proofs.Entry.MergeDefects
import MessageCatalog.Proofs.Format

/-! A merge of entries that pass leaves entries that pass, so that a merged catalog can always be written
when the messages in use have texts. -/

namespace MessageCatalog

/-- The translation of an entry that passes has the number of the message, and at least one form. -/
theorem Entry.isPlural_of_valid {entry : Entry} (valid : entry.defect? = none) :
    entry.translation.isPlural = entry.message.isPlural ∧ entry.translation ≠ .forms [] := by
  -- The check of an entry that has a text goes by its plural and the kind of its translation.
  rw [Entry.defect?, if_neg (by simpa [String.isEmpty_iff] using Entry.text_ne_empty valid)] at valid
  cases plural : entry.message.plural <;> rcases translation : entry.translation with text | forms
  · simp [Translation.isPlural, Message.isPlural, plural]
  · simp [plural, translation] at valid
  · simp [plural, translation] at valid
  · -- With a plural there are forms, and one at least.
    cases forms with
    | nil => simp [plural, translation] at valid
    | cons form forms => simp [Translation.isPlural, Message.isPlural, plural]

section

variable {live : LiveMessages} {stored : List Entry} {pluralForms : Nat} {key : Key} {entry : Entry}

/-- What a key in use becomes is an entry for the message in use, but for the spelling of an empty
context. -/
theorem Becomes.message_of_inUse (named : ∀ key message, live.messages.get? key = some message →
      message.key = key) (becomes : Becomes live pluralForms stored key entry) {message : Message}
    (inUse : live.messages.get? key = some message) :
    entry.message.text = message.text ∧ entry.message.plural = message.plural := by
  -- A stored entry and a message meet only through one key, which tells text and plural apart.
  cases becomes with
  | kept _ found =>
    have same := (lastStored_eq_some found).2.trans (named key message inUse).symm
    obtain ⟨text, plural, -⟩ := key_eq_iff.1 same
    exact ⟨text, plural⟩
  | new inUse' =>
    obtain rfl := Option.some.inj (inUse.symm.trans inUse')
    exact ⟨rfl, rfl⟩
  | unused notInUse =>
    rw [inUse] at notInUse
    cases notInUse

/-- An entry that was merged is what its key becomes. -/
theorem becomes_of_mem_merge (named : ∀ key message, live.messages.get? key = some message →
      message.key = key) (member : entry ∈ merge stored live pluralForms) :
    Becomes live pluralForms stored entry.key entry :=
  mergeKey_eq_some_iff.1 ((mem_merge (LiveMessages.sound_of_named named)).1 member)

/-- Merged entries have no defect when stored ones have none and messages in use have texts. -/
theorem defect?_of_mem_merge (named : ∀ key message, live.messages.get? key = some message →
      message.key = key)
    (nonempty : ∀ key message, live.messages.get? key = some message → message.text ≠ "")
    (valid : ∀ old ∈ stored, old.defect? = none) (member : entry ∈ merge stored live pluralForms) :
    entry.defect? = none := by
  have passes := (becomes_of_mem_merge named member).passesWithText valid
  -- The only defect left is an empty text, which no message in use brings in.
  have text : entry.message.text ≠ "" := by
    intro empty
    obtain ⟨key, message, inUse, blank⟩ :=
      (exists_empty_merge_iff named valid).1 ⟨entry, member, empty⟩
    exact nonempty key message inUse blank
  rw [Entry.PassesWithText, if_neg text] at passes
  exact passes

end

/-- Entries that all pass can be merged with messages in use that have texts and are named by their keys,
wherever these are used and however many plural forms there are: all merged entries pass, those of
messages in use have the text, the plural and the number of their messages, and the merged catalog can be
written in every format and style. -/
theorem valid_merge {stored : List Entry} (valid : ∀ entry ∈ stored, entry.validate = .ok ())
    {live : LiveMessages}
    (named : ∀ key message, live.messages.get? key = some message →
      message.text ≠ "" ∧ message.key = key) (pluralForms : Nat) :
    (∀ entry ∈ merge stored live pluralForms, entry.validate = .ok ()) ∧
    (∀ entry ∈ merge stored live pluralForms, ∀ message,
      live.messages.get? entry.key = some message →
        entry.message.text = message.text ∧ entry.message.plural = message.plural ∧
        entry.translation.isPlural = message.isPlural ∧ entry.translation ≠ .forms []) ∧
    ∀ (format : Format) (style : Json.Style),
      format.stringify style (merge stored live pluralForms) =
        .ok (String.ofList (format.write style (merge stored live pluralForms))) := by
  have keys : ∀ key message, live.messages.get? key = some message → message.key = key :=
    fun key message inUse => (named key message inUse).2
  -- That no merged entry has a defect is all that the other parts need.
  have flawless : ∀ entry ∈ merge stored live pluralForms, entry.defect? = none := by
    intro entry member
    exact defect?_of_mem_merge keys (fun key message inUse => (named key message inUse).1)
      (fun old inside => Entry.validate_eq_ok.1 (valid old inside)) member
  refine ⟨fun entry member => Entry.validate_eq_ok.2 (flawless entry member), ?_, ?_⟩
  · intro entry member message inUse
    obtain ⟨text, plural⟩ := (becomes_of_mem_merge keys member).message_of_inUse keys inUse
    obtain ⟨number, forms⟩ := Entry.isPlural_of_valid (flawless entry member)
    refine ⟨text, plural, number.trans ?_, forms⟩
    rw [Message.isPlural, Message.isPlural, plural]
  · intro format style
    exact format.stringify_of_valid style flawless

/-- A singular and a plural message are in use whose parts read alike, one of them in no known place. -/
private def catsInUse : LiveMessages where
  messages := .ofList [(⟨":cat&colon;cats"⟩, ⟨none, "cat:cats", none⟩),
    (⟨":cat:cats"⟩, ⟨none, "cat", some "cats"⟩)]
  usages := .ofList [(⟨":cat:cats"⟩, .ofElements [⟨"a.js", 1⟩]), (⟨":dog"⟩, .ofElements [⟨"", 0⟩])]

/-- The plural is stored with an empty context and without a translation, and an old text with one. -/
private def storedCats : List Entry :=
  [{ message := ⟨some "", "cat", some "cats"⟩, translation := .forms ["", ""], flags := ["fuzzy"] },
    { message := ⟨none, "dog", none⟩, translation := .single "chien", status := some .new }]

/-- Without plural forms the plural gets one all the same, and the merged catalog can be written. -/
theorem valid_merge_cats :
    (∀ entry ∈ storedCats, entry.validate = .ok ()) ∧
      (∀ key message, catsInUse.messages.get? key = some message →
        message.text ≠ "" ∧ message.key = key) ∧
      (merge storedCats catsInUse 0).length = 3 ∧
      (∀ entry ∈ merge storedCats catsInUse 0, entry.validate = .ok ()) ∧
      Format.po.stringify (.ofWidth 2) (merge storedCats catsInUse 0) =
        .ok (String.ofList (Format.po.write (.ofWidth 2) (merge storedCats catsInUse 0))) := by
  have valid : ∀ entry ∈ storedCats, entry.validate = .ok () := by
    simp only [storedCats, List.forall_mem_cons]
    exact ⟨rfl, rfl, nofun⟩
  have named : ∀ key message, catsInUse.messages.get? key = some message →
      message.text ≠ "" ∧ message.key = key := by
    intro key message inUse
    -- Two messages are in use, and each of them has a text.
    have listed := (SortedMap.get?_ofList (by decide)).1 inUse
    simp only [List.mem_cons, Prod.mk.injEq, List.not_mem_nil, or_false] at listed
    rcases listed with ⟨rfl, rfl⟩ | ⟨rfl, rfl⟩ <;> decide
  obtain ⟨passes, -, written⟩ := valid_merge valid named 0
  exact ⟨valid, named, by decide, passes, written .po (.ofWidth 2)⟩

end MessageCatalog
