import MessageCatalog.Proofs.Entry.Merge

/-! A merged catalog holds one entry for each key in use and for each translated one, and merging it
again with the same messages changes nothing. -/

namespace MessageCatalog

/-- References that compare equal are equal. -/
instance : Std.LawfulEqOrd Reference where
  eq_of_compare {a b} same := by
    have both : compare a.file b.file = .eq ∧ compare a.line b.line = .eq :=
      Ordering.then_eq_eq.1 same
    have file := Std.LawfulEqOrd.eq_of_compare both.1
    have line := Std.LawfulEqOrd.eq_of_compare both.2
    cases a; cases b; simp_all

/-- The references of a key are the places where it is used, in strictly ascending order. -/
theorem LiveMessages.references_sorted (live : LiveMessages) (key : Key) :
    (live.references key).Pairwise (fun a b => compare a b = .lt) ∧
      ∀ reference, reference ∈ live.references key ↔
        ∃ usages, live.usages.get? key = some usages ∧ usages.contains reference = true := by
  unfold LiveMessages.references
  cases found : live.usages.get? key with
  | none => simp
  | some usages =>
    -- The references of a key are kept as an ordered set.
    refine ⟨List.pairwise_map.2 usages.ascending, ?_⟩
    intro reference
    simp [SortedSet.mem_elements]

/-- What becomes of a key in a merge. -/
inductive Becomes (live : LiveMessages) (pluralForms : Nat) (stored : List Entry) (key : Key) :
    Entry → Prop
  /-- A translation of a message in use is kept, and tells where the message is used now. -/
  | kept {message : Message} {old : Entry} (inUse : live.messages.get? key = some message)
      (found : lastStored stored key = some old) (translated : old.isTranslated = true) :
      Becomes live pluralForms stored key
        { old with references := live.references key, status := none }
  /-- A message in use without a translation is new, with the notes that were stored for it. -/
  | new {message : Message} (inUse : live.messages.get? key = some message)
      (untranslated : ∀ old, lastStored stored key = some old → old.isTranslated = false) :
      Becomes live pluralForms stored key
        { message
          translation := if message.plural.isSome then .forms (List.replicate (max 1 pluralForms) "")
            else .single ""
          references := live.references key
          developerComments := ((lastStored stored key).map Entry.developerComments).getD []
          translatorComments := ((lastStored stored key).map Entry.translatorComments).getD []
          flags := ((lastStored stored key).map Entry.flags).getD []
          status := some .new }
  /-- A translation of a message that is not in use is kept as unused. -/
  | unused {old : Entry} (notInUse : live.messages.get? key = none)
      (found : lastStored stored key = some old) (translated : old.isTranslated = true) :
      Becomes live pluralForms stored key { old with references := [], status := some .unused }

section

variable {live : LiveMessages} {pluralForms : Nat} {key : Key}

/-- A translation counts when it has been made. -/
theorem filter_isTranslated {old : Entry} (translated : old.isTranslated = true) :
    (some old).filter Entry.isTranslated = some old := by
  rw [Option.filter_some, if_pos translated]

/-- Without a translation that has been made nothing counts. -/
theorem filter_isTranslated_eq_none {stored : Option Entry} :
    stored.filter Entry.isTranslated = none ↔
      ∀ old, stored = some old → old.isTranslated = false := by
  cases stored with
  | none => simp
  | some old => simp [Option.filter_some]

/-- The rules are those by which keys are merged. -/
theorem mergeKey_eq_some_iff {stored : List Entry} {entry : Entry} :
    mergeKey live pluralForms (lastStored stored key) key = some entry ↔
      Becomes live pluralForms stored key entry := by
  -- The rules state the larger of the two counts the other way around.
  have placeholder (message : Message) : Translation.placeholder message.isPlural pluralForms =
      if message.plural.isSome then .forms (List.replicate (max 1 pluralForms) "")
        else .single "" := by
    rw [Translation.placeholder, Nat.max_comm]
    rfl
  constructor
  · -- One case for each branch of the merge, the last of which makes no entry.
    intro made
    unfold mergeKey at made
    dsimp only at made
    split at made
    · -- A message in use keeps its translation, if one is stored.
      rename_i inUse kept
      cases made
      obtain ⟨found, translated⟩ := Option.filter_eq_some_iff.1 kept
      exact .kept inUse found translated
    · rename_i message inUse none
      cases made
      rw [Entry.new, placeholder]
      exact .new inUse (filter_isTranslated_eq_none.1 none)
    · rename_i notInUse kept
      cases made
      obtain ⟨found, translated⟩ := Option.filter_eq_some_iff.1 kept
      exact .unused notInUse found translated
    · cases made
  · -- Each rule says which branch is taken.
    intro becomes
    cases becomes with
    | kept inUse found translated =>
      simp only [mergeKey, inUse, found, filter_isTranslated translated]
    | new inUse untranslated =>
      have none := filter_isTranslated_eq_none.2 untranslated
      simp only [mergeKey, inUse, none, Entry.new, placeholder]
    | unused notInUse found translated =>
      simp only [mergeKey, notInUse, found, filter_isTranslated translated]

/-- What a key has become is what it becomes again. -/
theorem mergeKey_mergeKey (stored : Option Entry) :
    mergeKey live pluralForms (mergeKey live pluralForms stored key) key =
      mergeKey live pluralForms stored key := by
  cases inUse : live.messages.get? key with
  | none =>
    cases kept : stored.filter Entry.isTranslated with
    | none => simp only [mergeKey, inUse, kept, Option.filter_none]
    | some old =>
      -- Another status and no references leave the translation as it is.
      have translated : old.isTranslated = true := (Option.filter_eq_some_iff.1 kept).2
      let entry : Entry := { old with references := [], status := some .unused }
      have again : (some entry).filter Entry.isTranslated = some entry :=
        filter_isTranslated translated
      simp only [mergeKey, inUse, kept]
      rw [again]
  | some message =>
    cases kept : stored.filter Entry.isTranslated with
    | none =>
      -- A placeholder is no translation, so that the entry is made anew with the same notes.
      have untranslated :
          (some (Entry.new message pluralForms (live.references key) stored)).filter
            Entry.isTranslated = none := by
        rw [filter_isTranslated_eq_none]
        rintro _ ⟨⟩
        exact isDone_placeholder message.isPlural pluralForms
      simp only [mergeKey, inUse, kept, untranslated]
      rfl
    | some old =>
      have translated : old.isTranslated = true := (Option.filter_eq_some_iff.1 kept).2
      let entry : Entry := { old with references := live.references key, status := none }
      have again : (some entry).filter Entry.isTranslated = some entry :=
        filter_isTranslated translated
      simp only [mergeKey, inUse, kept]
      rw [again]

end

section

variable {test : Reference → Prop} {live : LiveMessages} {stored : List Entry} {pluralForms : Nat}

/-- The entries of a merged catalog are what their keys become. -/
theorem mem_merge (sound : live.Sound test) {entry : Entry} :
    entry ∈ merge stored live pluralForms ↔
      mergeKey live pluralForms (lastStored stored entry.key) entry.key = some entry := by
  rw [merge, List.mem_filterMap]
  constructor
  · rintro ⟨key, -, made⟩
    have same := key_of_mergeKey sound made
    rw [get?_entriesByKey_eq] at made
    rw [same, made]
  · intro made
    refine ⟨entry.key, ?_, by rw [get?_entriesByKey_eq, made]⟩
    rw [mem_mergedKeys_iff, SortedMap.contains_eq_isSome_get?, SortedMap.contains_eq_isSome_get?,
      get?_entriesByKey_eq]
    -- Without a stored entry and a message in use a key becomes nothing.
    rcases mergeKey_eq_some made with ⟨old, _, _, found, -⟩ | ⟨message, inUse, -⟩
    · exact .inl (by rw [found]; rfl)
    · exact .inr (by rw [inUse]; rfl)

/-- What a key becomes has that key. -/
theorem Becomes.key_eq (sound : live.Sound test) {key : Key} {entry : Entry}
    (becomes : Becomes live pluralForms stored key entry) : entry.key = key := by
  have made := mergeKey_eq_some_iff.2 becomes
  rw [← get?_entriesByKey_eq] at made
  exact key_of_mergeKey sound made

/-- The entry that counts for a key of a merged catalog is what the key became. -/
theorem lastStored_merge (sound : live.Sound test) (key : Key) :
    lastStored (merge stored live pluralForms) key =
      mergeKey live pluralForms (lastStored stored key) key := by
  -- There is one entry for a key at most, since the keys of a merged catalog differ.
  apply Option.ext
  intro entry
  rw [← get?_entriesByKey_eq, get?_entriesByKey (nodup_merge sound stored pluralForms),
    mem_merge sound]
  constructor
  · rintro ⟨made, rfl⟩
    exact made
  · intro made
    have same : entry.key = key := (mergeKey_eq_some_iff.1 made).key_eq sound
    exact ⟨by rw [same, made], same⟩

/-- Merging a merged catalog with the same messages changes nothing. -/
theorem merge_merge (sound : live.Sound test) :
    merge (merge stored live pluralForms) live pluralForms = merge stored live pluralForms := by
  refine SortedMap.eq_of_ascending Entry.key (ascending_merge sound _ _)
    (ascending_merge sound _ _) fun entry => ?_
  rw [mem_merge sound, mem_merge sound, lastStored_merge sound, mergeKey_mergeKey]

/-- The keys of a merged catalog are those in use and those with a stored translation. -/
theorem mem_keys_merge (sound : live.Sound test) {key : Key} :
    key ∈ (merge stored live pluralForms).map Entry.key ↔
      live.messages.contains key = true ∨
        ∃ old, lastStored stored key = some old ∧ old.isTranslated = true := by
  -- An entry is in the catalog just when a rule makes it for its own key.
  have made : key ∈ (merge stored live pluralForms).map Entry.key ↔
      ∃ entry, Becomes live pluralForms stored key entry := by
    rw [List.mem_map]
    constructor
    · rintro ⟨entry, member, rfl⟩
      exact ⟨entry, mergeKey_eq_some_iff.1 ((mem_merge sound).1 member)⟩
    · rintro ⟨entry, becomes⟩
      have same := becomes.key_eq sound
      exact ⟨entry, (mem_merge sound).2 (by rw [same]; exact mergeKey_eq_some_iff.2 becomes), same⟩
  rw [made, SortedMap.contains_eq_isSome_get?, Option.isSome_iff_exists]
  constructor
  · rintro ⟨entry, becomes⟩
    -- Each entry that a rule makes tells why its key is there.
    cases becomes with
    | kept inUse found translated => exact .inl ⟨_, inUse⟩
    | new inUse untranslated => exact .inl ⟨_, inUse⟩
    | unused notInUse found translated => exact .inr ⟨_, found, translated⟩
  · -- A message in use has an entry in any case, and only the kind of it depends on what is stored.
    intro either
    by_cases stores : ∃ old, lastStored stored key = some old ∧ old.isTranslated = true
    · obtain ⟨old, found, translated⟩ := stores
      cases inUse : live.messages.get? key with
      | none => exact ⟨_, .unused inUse found translated⟩
      | some message => exact ⟨_, .kept inUse found translated⟩
    · obtain ⟨message, inUse⟩ := either.resolve_right stores
      refine ⟨_, .new inUse ?_⟩
      intro old found
      cases done : old.isTranslated with
      | false => rfl
      | true => exact absurd ⟨old, found, done⟩ stores

end

/-- A merge has one entry for each message in use and for each stored translation, in strictly ascending
order of the keys: what the key becomes by the rules. The references in it are the places of use in
order, and merging again with the same messages changes nothing. -/
theorem merge_by_rules {live : LiveMessages}
    (named : ∀ key message, live.messages.get? key = some message → message.key = key)
    (stored : List Entry) (pluralForms : Nat) :
    (merge stored live pluralForms).Pairwise (fun a b => compare a.key b.key = .lt) ∧
    (∀ key, key ∈ (merge stored live pluralForms).map Entry.key ↔
      live.messages.contains key = true ∨
        ∃ old, lastStored stored key = some old ∧ old.isTranslated = true) ∧
    (∀ key entry, entry ∈ merge stored live pluralForms ∧ entry.key = key ↔
      Becomes live pluralForms stored key entry) ∧
    (∀ key, (live.references key).Pairwise (fun a b => compare a b = .lt) ∧
      ∀ reference, reference ∈ live.references key ↔
        ∃ usages, live.usages.get? key = some usages ∧ usages.contains reference = true) ∧
    merge (merge stored live pluralForms) live pluralForms = merge stored live pluralForms := by
  have sound : live.Sound fun _ => True := ⟨fun {key message} => named key message, by simp⟩
  refine ⟨ascending_merge sound stored pluralForms, fun _ => mem_keys_merge sound, ?_,
    live.references_sorted, merge_merge sound⟩
  intro key entry
  -- An entry of the merge is what its own key becomes.
  rw [mem_merge sound, ← mergeKey_eq_some_iff]
  constructor
  · rintro ⟨made, rfl⟩
    exact made
  · intro made
    have same : entry.key = key := (mergeKey_eq_some_iff.1 made).key_eq sound
    exact ⟨by rw [same, made], same⟩

/-- A greeting is in use in two places, and so is a plural message. -/
private def greetings : LiveMessages where
  messages := .ofList [(⟨":Hi"⟩, ⟨none, "Hi", none⟩), (⟨":cat:cats"⟩, ⟨none, "cat", some "cats"⟩)]
  usages := .ofList [(⟨":Hi"⟩, .ofElements [⟨"b.js", 2⟩, ⟨"a.js", 9⟩]),
    (⟨":cat:cats"⟩, .ofElements [⟨"a.js", 1⟩])]

/-- The greeting has been stored twice, once with an empty context, and so has a farewell. -/
private def repeated : List Entry :=
  [{ message := ⟨none, "Hi", none⟩, translation := .single "", flags := ["fuzzy"] },
    { message := ⟨some "", "Hi", none⟩, translation := .single "Salut", status := some .new },
    { message := ⟨none, "Bye", none⟩, translation := .single "Adieu" },
    { message := ⟨none, "Bye", none⟩, translation := .single "", flags := ["fuzzy"] }]

/-- The later greeting is kept with its context, and the farewell goes, since its last entry is not
translated. -/
theorem merge_by_rules_repeated :
    (∀ key message, greetings.messages.get? key = some message → message.key = key) ∧
      { message := ⟨some "", "Hi", none⟩, translation := .single "Salut",
        references := [⟨"a.js", 9⟩, ⟨"b.js", 2⟩] } ∈ merge repeated greetings 0 ∧
      ⟨":Bye"⟩ ∉ (merge repeated greetings 0).map Entry.key ∧
      merge (merge repeated greetings 0) greetings 0 = merge repeated greetings 0 := by
  have named : ∀ key message, greetings.messages.get? key = some message → message.key = key := by
    intro key message inUse
    have listed := (SortedMap.get?_ofList (by decide)).1 inUse
    simp only [List.mem_cons, Prod.mk.injEq, List.not_mem_nil, or_false] at listed
    rcases listed with ⟨rfl, rfl⟩ | ⟨rfl, rfl⟩ <;> decide
  obtain ⟨-, keys, rules, -, again⟩ := merge_by_rules named repeated 0
  refine ⟨named, ?_, ?_, again⟩
  · -- The greeting is in use, and the last entry for it is translated.
    refine ((rules ⟨":Hi"⟩ _).2 ?_).1
    have found : lastStored repeated ⟨":Hi"⟩ = some
        { message := ⟨some "", "Hi", none⟩, translation := .single "Salut", status := some .new } := by
      decide
    have inUse : greetings.messages.get? ⟨":Hi"⟩ = some ⟨none, "Hi", none⟩ := by decide
    exact .kept inUse found (by decide)
  · -- The farewell is not in use, so it would have to be translated.
    rw [keys]
    rintro (inUse | ⟨old, found, translated⟩)
    · exact absurd inUse (by decide)
    · have last : lastStored repeated ⟨":Bye"⟩ = some
          { message := ⟨none, "Bye", none⟩, translation := .single "", flags := ["fuzzy"] } := by
        decide
      rw [last] at found
      cases found
      exact absurd translated (by decide)

end MessageCatalog
