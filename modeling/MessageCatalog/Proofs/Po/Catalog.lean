import MessageCatalog.Proofs.Po.Block

/-! A catalog that was written is read back entry by entry. -/

namespace MessageCatalog.Po

/-- The forms of a translation by their index. -/
def formsFrom (index : Nat) (forms : SortedMap Nat String) : List String → SortedMap Nat String
  | [] => forms
  | text :: texts => formsFrom (index + 1) (forms.insert index text) texts

/-- Forms are added in the order of their indices. -/
theorem toList_formsFrom {index : Nat} {forms : SortedMap Nat String}
    (below : ∀ entry ∈ forms.toList, entry.1 < index) (texts : List String) :
    (formsFrom index forms texts).toList =
      forms.toList ++ (texts.zipIdx index).map fun (text, index) => (index, text) := by
  -- By induction on the texts: each index is above all that are there, so its form goes to the end.
  induction texts generalizing index forms with
  | nil => simp [formsFrom]
  | cons text texts ih =>
    have added : (forms.insert index text).toList = forms.toList ++ [(index, text)] :=
      SortedMap.toList_insert_of_above fun entry member =>
        Nat.compare_eq_lt.2 (below entry member)
    have below' : ∀ entry ∈ (forms.insert index text).toList, entry.1 < index + 1 := by
      intro entry member
      rw [added] at member
      rcases List.mem_append.1 member with old | new
      · exact Nat.lt_succ_of_lt (below entry old)
      · rw [List.mem_singleton.1 new]
        exact Nat.lt_succ_self index
    rw [formsFrom, ih below', added, List.append_assoc]
    rfl

/-- The list of forms is the one that they were made from. -/
theorem formList_formsFrom {texts : List String} (nonempty : texts ≠ []) :
    Draft.formList (formsFrom 0 ∅ texts) = texts := by
  have listed : (formsFrom 0 ∅ texts).toList =
      texts.zipIdx.map fun (text, index) => (index, text) :=
    toList_formsFrom (fun _ member => absurd member List.not_mem_nil) texts
  have keys : (formsFrom 0 ∅ texts).keys = List.range texts.length := by
    rw [SortedMap.keys, listed, List.map_map, List.range_eq_range']
    exact List.zipIdx_map_snd 0 texts
  have positive : 0 < texts.length := List.length_pos_iff.2 nonempty
  have last : (formsFrom 0 ∅ texts).keys.getLast? = some (texts.length - 1) := by
    rw [keys, List.getLast?_range, if_neg (by omega)]
  rw [Draft.formList, last]
  dsimp only
  -- The indices run from zero without a gap, so each position finds the text with its index.
  apply List.ext_getElem
  · rw [List.length_map, List.length_range]
    omega
  · intro index _ inside
    -- The text at this position was entered with this index.
    rw [List.getElem_map, List.getElem_range]
    have member : (index, texts[index]) ∈ (formsFrom 0 ∅ texts).toList := by
      rw [listed, List.mem_map]
      exact ⟨(texts[index], index), List.mk_mem_zipIdx_iff_getElem?.2 (by simp), rfl⟩
    rw [SortedMap.get?, SortedMap.entry?_of_mem member]
    rfl

/-- What is noted about an entry in the lines before its fields. -/
def noted (entry : Entry) : Draft where
  references := rereadReferences entry.references
  developerComments := rereadComments trim entry.developerComments
  translatorComments := rereadComments trimEnd entry.translatorComments
  flags := (rereadFlags entry).flags
  status := (rereadFlags entry).status

/-- The draft that the lines of an entry make up. -/
def drafted (entry : Entry) (last : Field) : Draft :=
  { noted entry with
    context := entry.message.context
    text := some entry.message.text
    plural := entry.message.plural
    translation := match entry.translation with
      | .single text => some text
      | .forms _ => none
    forms := match entry.translation with
      | .single _ => ∅
      | .forms texts => formsFrom 0 ∅ texts
    last := some last }

/-- An entry whose flags hold no line feed and whose forms are counted. -/
structure Regular (entry : Entry) : Prop where
  flags : ∀ flag ∈ entry.flags, '\n' ∉ flag.toList
  forms : ∀ texts, entry.translation = .forms texts → texts.length ≤ maxCount + 1

/-- An entry that can be read back from its block. -/
structure Writable (entry : Entry) : Prop extends Regular entry where
  valid : entry.defect? = none
  references : ∀ reference ∈ entry.references, Readable reference

section

variable (entries : List Entry)

/-- The lines before the fields of an entry. -/
theorem adds_noted {entry : Entry} (writable : Writable entry) :
    Adds ⟨entries, {}⟩ (entry.translatorComments.flatMap (writeComment "# ") ++
        entry.developerComments.flatMap (writeComment "#. ") ++
        (entry.references.flatMap fun reference => s!"#: {reference}\n".toList) ++
        writeFlags entry)
      ⟨entries, noted entry⟩ := by
  refine (((adds_translatorComments rfl _).append (adds_developerComments rfl _)).append
    (adds_references writable.references rfl)).append ?_
  exact adds_writeFlags writable.flags rfl rfl rfl

/-- The lines of indexed forms. -/
theorem adds_forms {index : Nat} (texts : List String) (draft : Draft)
    (fits : index + texts.length ≤ maxCount + 1)
    (free : ∀ other, index ≤ other → draft.forms.get? other = none) (last : Field)
    (began : draft.last = some last) :
    ∃ last, Adds ⟨entries, draft⟩
      ((texts.zipIdx index).map fun (text, index) => writeField s!"msgstr[{index}]" text).flatten
      ⟨entries, { draft with forms := formsFrom index draft.forms texts, last := some last }⟩ := by
  -- By induction on the texts; `free` tells that no form from this index on has begun.
  induction texts generalizing index draft last with
  | nil =>
    refine ⟨last, ?_⟩
    have same : { draft with forms := formsFrom index draft.forms [], last := some last } =
        draft := by rw [← began]; rfl
    rw [same]
    exact adds_nothing _
  | cons text texts ih =>
    rw [List.length_cons] at fits
    have small : (Field.form index).Fits := by
      change index ≤ maxCount
      omega
    have first := adds_writeField entries draft small rfl text
    -- The form is new, and so its text is not added to an older one.
    have new : (draft.append (.form index) text.toList).forms = draft.forms.insert index text := by
      simp [Draft.append, free index (Nat.le_refl index)]
    have free' : ∀ other, index + 1 ≤ other →
        (draft.forms.insert index text).get? other = none := by
      -- The form with this index is written by now, and those above it are still free.
      intro other above
      rw [SortedMap.get?_insert, if_neg, free other (Nat.le_of_succ_le above)]
      rw [Nat.compare_eq_eq]
      omega
    have appended : ({ draft.append (.form index) text.toList with last := some (.form index) } :
        Draft) = { draft with
          forms := draft.forms.insert index text, last := some (.form index) } := by
      rw [← new]
      rfl
    rw [appended] at first
    obtain ⟨last, others⟩ := ih { draft with
      forms := draft.forms.insert index text, last := some (.form index) } (by omega) free'
      (.form index) rfl
    exact ⟨last, first.append others⟩

/-- The line of a context, where there is one. -/
theorem adds_context (draft : Draft) (early : draft.text = none) (none : draft.context = none)
    (context : Option String) :
    ∃ last, Adds ⟨entries, draft⟩ ((context.map (writeField "msgctxt")).getD [])
      ⟨entries, { draft with context, last }⟩ := by
  -- Without a context there is no line, and the draft stays as it is.
  cases context with
  | none =>
    have same : { draft with context := Option.none, last := draft.last } = draft := by rw [← none]
    exact ⟨draft.last, by rw [same]; exact adds_nothing _⟩
  | some text =>
    have stays : draft.endsBefore .context = false := by simp [Draft.endsBefore, early]
    have fits : Field.context.Fits := trivial
    have added := adds_writeField entries draft fits stays text
    refine ⟨some .context, ?_⟩
    simpa [Draft.append, none, Field.keyword] using added

/-- The line of a text. -/
theorem adds_text (draft : Draft) (early : draft.text = none) (text : String) :
    Adds ⟨entries, draft⟩ (writeField "msgid" text)
      ⟨entries, { draft with text := some text, last := some .text }⟩ := by
  have stays : draft.endsBefore .text = false := by simp [Draft.endsBefore, early]
  have fits : Field.text.Fits := trivial
  have added := adds_writeField entries draft fits stays text
  simpa [Draft.append, early, Field.keyword] using added

/-- The line of a plural, where there is one. -/
theorem adds_plural (draft : Draft) {last : Field} (began : draft.last = some last)
    (none : draft.plural = none) (plural : Option String) :
    ∃ last, Adds ⟨entries, draft⟩ ((plural.map (writeField "msgid_plural")).getD [])
      ⟨entries, { draft with plural, last := some last }⟩ := by
  -- Without a plural there is no line, and the draft stays as it is.
  cases plural with
  | none =>
    have same : { draft with plural := Option.none, last := some last } = draft := by
      rw [← none, ← began]
    exact ⟨last, by rw [same]; exact adds_nothing _⟩
  | some text =>
    have fits : Field.plural.Fits := trivial
    have added := adds_writeField entries draft fits rfl text
    refine ⟨.plural, ?_⟩
    simpa [Draft.append, none, Field.keyword] using added

/-- The lines of a translation. -/
theorem adds_translation (draft : Draft) {last : Field} (began : draft.last = some last)
    (noSingle : draft.translation = none) (noForms : draft.forms = ∅) {translation : Translation}
    (fits : ∀ texts, translation = .forms texts → texts.length ≤ maxCount + 1) :
    ∃ last, Adds ⟨entries, draft⟩ (writeTranslation translation)
      ⟨entries, { draft with
        translation := match translation with
          | .single text => some text
          | .forms _ => none
        forms := match translation with
          | .single _ => ∅
          | .forms texts => formsFrom 0 ∅ texts
        last := some last }⟩ := by
  cases translation with
  -- A single text has the one keyword without an index.
  | single text =>
    have fits : Field.translation.Fits := trivial
    have added := adds_writeField entries draft fits rfl text
    refine ⟨.translation, ?_⟩
    simpa [Draft.append, noSingle, ← noForms, Field.keyword, writeTranslation] using added
  | forms texts =>
    -- The forms are numbered from zero on, and none of them is there before.
    have room : 0 + texts.length ≤ maxCount + 1 := by
      rw [Nat.zero_add]
      exact fits texts rfl
    have free : ∀ other, 0 ≤ other → draft.forms.get? other = none := by
      intro other _
      rw [noForms, SortedMap.get?_empty]
    obtain ⟨last, added⟩ := adds_forms entries texts draft room free last began
    refine ⟨last, ?_⟩
    simpa [← noSingle, noForms, writeTranslation] using added

variable {entries}

/-- Where something is translated, forms have been numbered. -/
theorem isEmpty_formsFrom {texts : List String} (nonempty : texts ≠ []) :
    (formsFrom 0 ∅ texts).isEmpty = false := by
  have below : ∀ entry ∈ (∅ : SortedMap Nat String).toList, entry.1 < 0 := nofun
  have listed := toList_formsFrom below texts
  obtain ⟨text, texts, rfl⟩ := List.exists_cons_of_ne_nil nonempty
  rw [SortedMap.isEmpty, listed]
  rfl

/-- The draft of an entry has the translation of the entry, whose number is the one of the message. -/
theorem translation?_drafted {entry : Entry} (valid : entry.defect? = none) (last : Field)
    (named : entry.message.text.isEmpty = false) :
    (drafted entry last).translation? = some entry.translation := by
  rw [Entry.defect?, if_neg (by simp [named])] at valid
  rw [Draft.translation?]
  -- A valid entry has one text exactly if its message has no plural, and never an empty list of forms.
  cases translation : entry.translation with
  | single text =>
    cases plural : entry.message.plural with
    | some _ => simp [translation, plural] at valid
    | none => simp [drafted, translation, plural, SortedMap.isEmpty]; rfl
  | forms texts =>
    cases plural : entry.message.plural with
    | none => simp [translation, plural] at valid
    | some _ =>
      have nonempty : texts ≠ [] := by
        rintro rfl
        simp [translation, plural] at valid
      simp [drafted, translation, isEmpty_formsFrom nonempty, formList_formsFrom nonempty]

/-- The draft of an entry is closed as the entry that is read back. -/
theorem close_drafted {entry : Entry} (valid : entry.defect? = none) (last : Field) :
    Reading.close ⟨entries, drafted entry last⟩ = .ok ⟨reread entry :: entries, {}⟩ := by
  have named : entry.message.text.isEmpty = false := by
    cases empty : entry.message.text.isEmpty with
    | false => rfl
    | true => simp [Entry.defect?, empty] at valid
  -- What is read back has the same defect, which is none.
  have passes : (reread entry).validate = .ok () := by
    have same : (reread entry).defect? = none := valid
    rw [Entry.validate, same]
  have finished : (drafted entry last).finish = .ok (some (reread entry)) := by
    rw [Draft.finish, if_neg (by simp [Draft.hasFields, drafted])]
    have text : (drafted entry last).text = some entry.message.text := rfl
    rw [text]
    dsimp only
    rw [if_neg (by simp [named]), translation?_drafted valid last named]
    exact congrArg (fun passed => passed >>= fun _ => Except.ok (some (reread entry))) passes
  simp only [Reading.close, finished, bind, Except.bind, pure, Except.pure]

/-- The block of an entry, behind what can be closed. -/
theorem adds_writeEntry {base : List Entry} {draft : Draft} {entry : Entry}
    (writable : Writable entry) (closed : Reading.close ⟨entries, draft⟩ = .ok ⟨base, {}⟩) :
    ∃ last, Adds ⟨entries, draft⟩ (writeEntry entry) ⟨base, drafted entry last⟩ := by
  -- The fields in the order in which they are written, each behind the draft of those before.
  obtain ⟨before, context⟩ := adds_context base (noted entry) rfl rfl entry.message.context
  have text := adds_text base
    { noted entry with context := entry.message.context, last := before } rfl entry.message.text
  obtain ⟨middle, plural⟩ := adds_plural base { noted entry with
    context := entry.message.context, text := some entry.message.text, last := some .text } rfl rfl
    entry.message.plural
  obtain ⟨last, translation⟩ := adds_translation base { noted entry with
    context := entry.message.context, text := some entry.message.text,
    plural := entry.message.plural, last := some middle } rfl rfl rfl writable.forms
  have blank : Adds ⟨entries, draft⟩ ([] ++ ['\n']) ⟨base, {}⟩ :=
    adds_blank List.not_mem_nil rfl closed
  refine ⟨last, blank.append ?_⟩
  exact ((((adds_noted base writable).append context).append text).append plural).append translation

/-- The blocks of entries, behind what can be closed. -/
theorem adds_writeEntries {written : List Entry} (writable : ∀ entry ∈ written, Writable entry)
    {base : List Entry} {draft : Draft}
    (closed : Reading.close ⟨entries, draft⟩ = .ok ⟨base, {}⟩) :
    ∃ after, Adds ⟨entries, draft⟩ (written.flatMap writeEntry) after ∧
      after.close = .ok ⟨(written.map reread).reverse ++ base, {}⟩ := by
  -- By induction on the entries: the block of each one closes the draft of the one before.
  induction written generalizing entries base draft with
  | nil => exact ⟨⟨entries, draft⟩, adds_nothing _, closed⟩
  | cons entry written ih =>
    obtain ⟨last, first⟩ := adds_writeEntry (writable entry (.head _)) closed
    have closed' : Reading.close ⟨base, drafted entry last⟩ = .ok ⟨reread entry :: base, {}⟩ :=
      close_drafted (writable entry (.head _)).valid last
    obtain ⟨after, others, ended⟩ :=
      ih (fun entry member => writable entry (.tail _ member)) closed'
    refine ⟨after, first.append others, ?_⟩
    rw [ended, List.map_cons, List.reverse_cons, List.append_assoc]
    rfl

end

/-- What the header tells. -/
def headerText : String :=
  "Content-Type: text/plain; charset=UTF-8\nContent-Transfer-Encoding: 8bit\n"

/-- The header is the block of an empty text. -/
theorem header_eq : header = writeField "msgid" "" ++ writeField "msgstr" headerText := by
  cbv

/-- Behind the header there is no entry yet. -/
theorem adds_header :
    ∃ draft, Adds {} header ⟨[], draft⟩ ∧ Reading.close ⟨[], draft⟩ = .ok ⟨[], {}⟩ := by
  -- The header has an empty text, which is why closing it leaves no entry.
  have text := adds_text [] {} rfl ""
  have fits : Field.translation.Fits := trivial
  have translation := adds_writeField [] { text := some "", last := some .text } fits rfl headerText
  rw [header_eq]
  exact ⟨_, text.append translation, rfl⟩

/-- A catalog is read back from its text, entry by entry. -/
theorem parse_write {entries : List Entry} (writable : ∀ entry ∈ entries, Writable entry) :
    parse (write entries) = .ok (entries.map reread) := by
  obtain ⟨draft, header, closed⟩ := adds_header
  obtain ⟨after, blocks, ended⟩ := adds_writeEntries writable closed
  -- Header and blocks are read one behind the other, and the end closes the last draft.
  obtain ⟨number, added⟩ := header.append blocks 0 []
  rw [List.append_nil] at added
  have read : Reading.addAll {} 0 (lines (write entries)) = .ok after := added
  simp only [parse, read, ended, bind, Except.bind, pure, Except.pure, List.append_nil,
    List.reverse_reverse]

end MessageCatalog.Po
