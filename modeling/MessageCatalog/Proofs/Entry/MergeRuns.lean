import MessageCatalog.Proofs.Entry.MergeRules

/-! Over any run of merges a translation survives with all that is noted about it, and the last merge
alone tells whether it is in use. When a catalog has several entries for one message, though, a merge
looks at the last of them only, and a translation in front of it is lost. -/

namespace MessageCatalog

/-- A translated entry as a merge keeps it: with the places where its message is used, or as unused. -/
def Entry.keptBy (live : LiveMessages) (entry : Entry) : Entry :=
  if live.messages.contains entry.key then
    { entry with references := live.references entry.key, status := none }
  else { entry with references := [], status := some .unused }

namespace Entry

variable (live later : LiveMessages) (entry : Entry)

@[simp] theorem key_keptBy : (entry.keptBy live).key = entry.key := by
  unfold keptBy
  split <;> rfl

@[simp] theorem isTranslated_keptBy : (entry.keptBy live).isTranslated = entry.isTranslated := by
  unfold keptBy
  split <;> rfl

/-- Only the last merge tells in an entry. -/
@[simp] theorem keptBy_keptBy : (entry.keptBy live).keptBy later = entry.keptBy later := by
  -- The key is the same in both branches of the first merge, and the second one replaces the rest.
  have key := key_keptBy live entry
  unfold keptBy at *
  rw [key]
  split <;> split <;> rfl

end Entry

/-- A stored catalog after merges with one live set after another, each with a count of plural forms. -/
def mergeAll (stored : List Entry) (rounds : List (LiveMessages × Nat)) : List Entry :=
  rounds.foldl (fun entries round => merge entries round.1 round.2) stored

/-- The last of some merges merges what the others have left. -/
theorem mergeAll_concat (stored : List Entry) (rounds : List (LiveMessages × Nat))
    (last : LiveMessages × Nat) :
    mergeAll stored (rounds ++ [last]) = merge (mergeAll stored rounds) last.1 last.2 := by
  rw [mergeAll, List.foldl_append]
  rfl

/-- The translation that a key has after a merge is the one that counted before it. -/
theorem filter_mergeKey {live : LiveMessages} (pluralForms : Nat) {stored : Option Entry} {key : Key}
    (keyed : ∀ old, stored = some old → old.key = key) :
    (mergeKey live pluralForms stored key).filter Entry.isTranslated =
      (stored.filter Entry.isTranslated).map (Entry.keptBy live) := by
  cases translated : stored.filter Entry.isTranslated with
  | none =>
    -- What is made without a translation is a placeholder.
    cases inUse : live.messages.get? key with
    | none => simp only [mergeKey, inUse, translated, Option.filter_none, Option.map_none]
    | some message =>
      simp only [mergeKey, inUse, translated, Option.map_none]
      rw [filter_isTranslated_eq_none]
      rintro _ ⟨⟩
      exact isDone_placeholder message.isPlural pluralForms
  | some old =>
    obtain ⟨found, done⟩ := Option.filter_eq_some_iff.1 translated
    have kept : mergeKey live pluralForms stored key = some (old.keptBy live) := by
      have same := keyed old found
      unfold Entry.keptBy
      rw [same, SortedMap.contains_eq_isSome_get?]
      cases inUse : live.messages.get? key <;> simp only [mergeKey, inUse, translated] <;> rfl
    rw [kept, Option.map_some]
    exact filter_isTranslated ((Entry.isTranslated_keptBy live old).trans done)

/-- Each message in use has the key under which it is in use, in every round. -/
def NamedRounds (rounds : List (LiveMessages × Nat)) : Prop :=
  ∀ round ∈ rounds, ∀ key message, round.1.messages.get? key = some message → message.key = key

/-- Messages that are named by their keys are sound. -/
theorem LiveMessages.sound_of_named {live : LiveMessages}
    (named : ∀ key message, live.messages.get? key = some message → message.key = key) :
    live.Sound fun _ => True :=
  ⟨fun {key message} => named key message, by simp⟩

/-- The stored entry that counts for a key has that key. -/
theorem key_of_lastStored (stored : List Entry) (key : Key) (old : Entry)
    (found : lastStored stored key = some old) : old.key = key :=
  (lastStored_eq_some found).2

/-- Which translation counts for a key is the same before and after some merges, but for what a later
merge replaces. -/
theorem lastStored_mergeAll {rounds : List (LiveMessages × Nat)} (named : NamedRounds rounds)
    (stored : List Entry) (later : LiveMessages) (key : Key) :
    ((lastStored (mergeAll stored rounds) key).filter Entry.isTranslated).map (Entry.keptBy later) =
      ((lastStored stored key).filter Entry.isTranslated).map (Entry.keptBy later) := by
  -- By induction on the merges: each one keeps the translation, and all that it sets is set again.
  induction rounds generalizing stored with
  | nil => rfl
  | cons round rounds ih =>
    have sound := LiveMessages.sound_of_named (named round (.head _))
    have rest : NamedRounds rounds := fun other member => named other (.tail _ member)
    rw [mergeAll, List.foldl_cons, ← mergeAll, ih rest, lastStored_merge sound,
      filter_mergeKey _ (key_of_lastStored stored key), Option.map_map]
    exact congrArg (Option.map · _) (funext fun entry => Entry.keptBy_keptBy round.1 later entry)

section

variable {live : LiveMessages} {pluralForms : Nat} {stored : List Entry}

/-- The translated entries after a merge are those that count for their keys, as the merge keeps them. -/
theorem mem_merge_translated {test : Reference → Prop} (sound : live.Sound test) {entry : Entry} :
    entry ∈ merge stored live pluralForms ∧ entry.isTranslated = true ↔
      ((lastStored stored entry.key).filter Entry.isTranslated).map (Entry.keptBy live) =
        some entry := by
  rw [mem_merge sound, ← filter_mergeKey pluralForms (key_of_lastStored stored entry.key),
    Option.filter_eq_some_iff]

/-- A key that becomes an entry without a translation is in use and has no translation that counts, and the
entry is new. -/
theorem Becomes.of_untranslated {key : Key} {entry : Entry}
    (becomes : Becomes live pluralForms stored key entry) (untranslated : entry.isTranslated = false) :
    live.messages.contains key = true ∧ entry.status = some .new ∧
      ∀ old, lastStored stored key = some old → old.isTranslated = false := by
  -- Of the three things that a key can become, only one is not translated.
  cases becomes with
  | kept _ _ translated => exact absurd (untranslated.symm.trans translated) Bool.false_ne_true
  | new inUse none =>
    refine ⟨?_, rfl, none⟩
    rw [SortedMap.contains_eq_isSome_get?, inUse]
    rfl
  | unused _ _ translated => exact absurd (untranslated.symm.trans translated) Bool.false_ne_true

/-- A merge leaves a key without a translation where it is in use and has none that counts. -/
theorem exists_merge_untranslated {test : Reference → Prop} (sound : live.Sound test) {key : Key} :
    (∃ entry ∈ merge stored live pluralForms, entry.key = key ∧ entry.isTranslated = false) ↔
      live.messages.contains key = true ∧
        ∀ old, lastStored stored key = some old → old.isTranslated = false := by
  constructor
  · -- An entry without a translation can only come from a message in use.
    rintro ⟨entry, member, rfl, untranslated⟩
    have becomes := mergeKey_eq_some_iff.1 ((mem_merge sound).1 member)
    obtain ⟨inUse, -, none⟩ := becomes.of_untranslated untranslated
    exact ⟨inUse, none⟩
  · -- The entry is the new one for the message, with a placeholder for its translation.
    rintro ⟨inUse, none⟩
    rw [SortedMap.contains_eq_isSome_get?, Option.isSome_iff_exists] at inUse
    obtain ⟨message, found⟩ := inUse
    have becomes := @Becomes.new live pluralForms stored key message found none
    have keyed := becomes.key_eq sound
    refine ⟨_, (mem_merge sound).2 ?_, keyed, ?_⟩
    · rw [keyed]
      exact mergeKey_eq_some_iff.2 becomes
    · have placeholder := isDone_placeholder message.isPlural pluralForms
      rw [Translation.placeholder, Nat.max_comm] at placeholder
      exact placeholder

end

/-- Where keys differ, each stored entry counts for its key. -/
theorem lastStored_of_mem {stored : List Entry} (distinct : (stored.map Entry.key).Nodup)
    {old : Entry} (member : old ∈ stored) : lastStored stored old.key = some old := by
  rw [← get?_entriesByKey_eq]
  exact (get?_entriesByKey distinct).2 ⟨member, rfl⟩

/-- Where keys differ, what counts for a key is what is stored for it. -/
theorem untranslated_lastStored_iff {stored : List Entry} (distinct : (stored.map Entry.key).Nodup)
    {key : Key} :
    (∀ old, lastStored stored key = some old → old.isTranslated = false) ↔
      ∀ old ∈ stored, old.key = key → old.isTranslated = false := by
  constructor
  · rintro untranslated old member rfl
    exact untranslated old (lastStored_of_mem distinct member)
  · intro untranslated old found
    obtain ⟨member, same⟩ := lastStored_eq_some found
    exact untranslated old member same

/-- Where keys differ, a stored translation is kept by a merge of its key. -/
theorem map_keptBy_lastStored {stored : List Entry} (distinct : (stored.map Entry.key).Nodup)
    {live : LiveMessages} {entry : Entry} :
    ((lastStored stored entry.key).filter Entry.isTranslated).map (Entry.keptBy live) = some entry ↔
      ∃ old ∈ stored, old.isTranslated = true ∧ entry = old.keptBy live := by
  rw [Option.map_eq_some_iff]
  constructor
  · rintro ⟨old, found, rfl⟩
    obtain ⟨counted, done⟩ := Option.filter_eq_some_iff.1 found
    exact ⟨old, (lastStored_eq_some counted).1, done, rfl⟩
  · rintro ⟨old, member, done, rfl⟩
    refine ⟨old, ?_, rfl⟩
    -- Where no key comes twice, the last entry with a key is the only one.
    rw [Entry.key_keptBy, lastStored_of_mem distinct member]
    exact filter_isTranslated done

/-- After any run of merges the translated entries are those that the last merge alone would leave: each
stored translation once, with its notes, and with places of use and a status from the last merge. The
other entries are the new ones for messages that are in use then and have no stored translation. -/
theorem merges_keep_translations {stored : List Entry} (distinct : (stored.map Entry.key).Nodup)
    {rounds : List (LiveMessages × Nat)} {live : LiveMessages} {pluralForms : Nat}
    (named : NamedRounds (rounds ++ [(live, pluralForms)])) :
    (mergeAll stored (rounds ++ [(live, pluralForms)])).filter Entry.isTranslated =
      (merge stored live pluralForms).filter Entry.isTranslated ∧
    ((mergeAll stored (rounds ++ [(live, pluralForms)])).map Entry.key).Nodup ∧
    (∀ entry, entry ∈ mergeAll stored (rounds ++ [(live, pluralForms)]) ∧
        entry.isTranslated = true ↔
      ∃ old ∈ stored, old.isTranslated = true ∧ entry = old.keptBy live) ∧
    (∀ key, (∃ entry ∈ mergeAll stored (rounds ++ [(live, pluralForms)]),
        entry.key = key ∧ entry.isTranslated = false) ↔
      live.messages.contains key = true ∧
        ∀ old ∈ stored, old.key = key → old.isTranslated = false) ∧
    ∀ entry ∈ mergeAll stored (rounds ++ [(live, pluralForms)]),
      entry.isTranslated = false → entry.status = some .new := by
  have sound := LiveMessages.sound_of_named
    (named (live, pluralForms) (List.mem_append_right _ (.head _)))
  have earlier : NamedRounds rounds := fun round member => named round (List.mem_append_left _ member)
  rw [mergeAll_concat]
  dsimp only
  -- The last merge finds the translations that were stored at first.
  have translated (entry : Entry) :
      entry ∈ merge (mergeAll stored rounds) live pluralForms ∧ entry.isTranslated = true ↔
        ((lastStored stored entry.key).filter Entry.isTranslated).map (Entry.keptBy live) =
          some entry := by
    rw [mem_merge_translated sound, lastStored_mergeAll earlier]
  have counts (key : Key) : (∀ old, lastStored (mergeAll stored rounds) key = some old →
      old.isTranslated = false) ↔ ∀ old ∈ stored, old.key = key → old.isTranslated = false := by
    have same := lastStored_mergeAll earlier stored live key
    rw [← untranslated_lastStored_iff distinct, ← filter_isTranslated_eq_none,
      ← filter_isTranslated_eq_none, ← Option.map_eq_none_iff (f := Entry.keptBy live), same,
      Option.map_eq_none_iff]
  -- Both lists are in the order of their keys, so it is enough that they have the same entries.
  refine ⟨?_, nodup_merge sound _ pluralForms, ?_, ?_, ?_⟩
  · refine SortedMap.eq_of_ascending Entry.key ((ascending_merge sound _ _).filter _)
      ((ascending_merge sound _ _).filter _) fun entry => ?_
    rw [List.mem_filter, List.mem_filter, translated, mem_merge_translated sound]
  · exact fun entry => (translated entry).trans (map_keptBy_lastStored distinct)
  · exact fun key => (exists_merge_untranslated sound).trans (and_congr_right fun _ => counts key)
  · intro entry member untranslated
    have becomes := mergeKey_eq_some_iff.1 ((mem_merge sound).1 member)
    exact (becomes.of_untranslated untranslated).2.1

/-- A greeting is in use, and so is a message without a translation. -/
private def greetingInUse : LiveMessages where
  messages := .ofList [(⟨":Hi"⟩, ⟨none, "Hi", none⟩), (⟨":Yes"⟩, ⟨none, "Yes", none⟩)]
  usages := .ofList [(⟨":Hi"⟩, .ofElements [⟨"a.js", 9⟩])]

/-- Each of the messages in use has its key. -/
private theorem named_greetingInUse (key : Key) (message : Message)
    (inUse : greetingInUse.messages.get? key = some message) : message.key = key := by
  have listed := (SortedMap.get?_ofList (by decide)).1 inUse
  simp only [List.mem_cons, Prod.mk.injEq, List.not_mem_nil, or_false] at listed
  rcases listed with ⟨rfl, rfl⟩ | ⟨rfl, rfl⟩ <;> decide

/-- A translated greeting with a note for translators. -/
private def notedGreeting : Entry where
  message := ⟨some "", "Hi", none⟩
  translation := .single "Salut"
  translatorComments := ["informal"]
  status := some .new

/-- A message that has no translation. -/
private def plainAnswer : Entry := { message := ⟨none, "Yes", none⟩, translation := .single "" }

/-- A greeting that was out of use for a while is in use again, with its note. -/
theorem merges_keep_translations_reappearing :
    NamedRounds ([(⟨∅, ∅⟩, 2)] ++ [(greetingInUse, 3)]) ∧
      ({ notedGreeting with references := [⟨"a.js", 9⟩], status := none } ∈
        mergeAll [notedGreeting, plainAnswer] ([(⟨∅, ∅⟩, 2)] ++ [(greetingInUse, 3)])) ∧
      (∃ entry ∈ mergeAll [notedGreeting, plainAnswer] ([(⟨∅, ∅⟩, 2)] ++ [(greetingInUse, 3)]),
        entry.key = ⟨":Yes"⟩ ∧ entry.isTranslated = false) := by
  have named : NamedRounds ([(⟨∅, ∅⟩, 2)] ++ [(greetingInUse, 3)]) := by
    rintro round (- | ⟨-, - | ⟨-, ⟨⟩⟩⟩)
    · exact nofun
    · exact named_greetingInUse
  have distinct : ([notedGreeting, plainAnswer].map Entry.key).Nodup := by decide
  obtain ⟨-, -, translated, untranslated, -⟩ := merges_keep_translations distinct named
  refine ⟨named, ((translated _).2 ⟨notedGreeting, .head _, by decide, by decide⟩).1, ?_⟩
  -- The answer has an entry without a translation, which is new again.
  refine (untranslated ⟨":Yes"⟩).2 ⟨by decide, fun old member same => ?_⟩
  rcases List.mem_cons.1 member with rfl | member
  · exact absurd same (by decide)
  · rw [List.mem_singleton.1 member]
    decide

/-- Of several entries for one message the last one counts: after a merge the message is translated exactly
when that entry is, and it has its translation. -/
theorem merge_keeps_last_translation {live : LiveMessages}
    (named : ∀ key message, live.messages.get? key = some message → message.key = key)
    (stored : List Entry) (pluralForms : Nat) :
    (∀ key, (∃ entry ∈ merge stored live pluralForms,
        entry.key = key ∧ entry.isTranslated = true) ↔
      ∃ old, lastStored stored key = some old ∧ old.isTranslated = true) ∧
    ∀ entry ∈ merge stored live pluralForms, entry.isTranslated = true →
      ∃ old, lastStored stored entry.key = some old ∧ entry.translation = old.translation := by
  have sound := LiveMessages.sound_of_named named
  -- A translated entry is the last stored one for its key, as the merge keeps it.
  have counted (entry : Entry) (member : entry ∈ merge stored live pluralForms)
      (translated : entry.isTranslated = true) :
      ∃ old, lastStored stored entry.key = some old ∧ old.isTranslated = true ∧
        old.keptBy live = entry := by
    obtain ⟨old, found, same⟩ :=
      Option.map_eq_some_iff.1 ((mem_merge_translated sound).1 ⟨member, translated⟩)
    obtain ⟨last, done⟩ := Option.filter_eq_some_iff.1 found
    exact ⟨old, last, done, same⟩
  constructor
  · intro key
    constructor
    · rintro ⟨entry, member, rfl, translated⟩
      obtain ⟨old, last, done, -⟩ := counted entry member translated
      exact ⟨old, last, done⟩
    · rintro ⟨old, last, done⟩
      have keyed : (old.keptBy live).key = key :=
        (Entry.key_keptBy live old).trans (key_of_lastStored stored key old last)
      have kept : old.keptBy live ∈ merge stored live pluralForms ∧
          (old.keptBy live).isTranslated = true := by
        rw [mem_merge_translated sound, keyed, last, filter_isTranslated done]
        rfl
      exact ⟨_, kept.1, keyed, kept.2⟩
  · intro entry member translated
    obtain ⟨old, last, -, rfl⟩ := counted entry member translated
    refine ⟨old, last, ?_⟩
    -- Places of use and the status differ at most.
    unfold Entry.keptBy
    split <;> rfl

/-- A translation behind an entry without one, as a catalog may have it that was put together by hand, is
kept. -/
theorem merge_keeps_last_translation_repeated :
    (∀ key message, greetingInUse.messages.get? key = some message → message.key = key) ∧
      ∃ entry ∈ merge [{ notedGreeting with translation := .single "" }, notedGreeting]
        greetingInUse 2, entry.key = ⟨":Hi"⟩ ∧ entry.isTranslated = true := by
  have last : lastStored [{ notedGreeting with translation := .single "" }, notedGreeting]
      ⟨":Hi"⟩ = some notedGreeting := by decide
  exact ⟨named_greetingInUse, ((merge_keeps_last_translation named_greetingInUse _ 2).1 _).2
    ⟨notedGreeting, last, by decide⟩⟩

/-- A translation in front of an entry without one for the same message is lost. -/
theorem not_merge_keeps_translation :
    ¬ ∀ (live : LiveMessages) (stored : List Entry) (pluralForms : Nat) (key : Key),
      (∀ key message, live.messages.get? key = some message → message.key = key) →
      (∃ old ∈ stored, old.key = key ∧ old.isTranslated = true) →
      ∃ entry ∈ merge stored live pluralForms, entry.key = key ∧ entry.isTranslated = true ∧
        ∃ old ∈ stored, old.key = key ∧ old.isTranslated = true ∧
          entry.translation = old.translation := by
  intro always
  obtain ⟨entry, member, -⟩ := always ⟨∅, ∅⟩
    [notedGreeting, { notedGreeting with translation := .single "" }] 2 ⟨":Hi"⟩ nofun
    ⟨notedGreeting, .head _, by decide, by decide⟩
  -- The last entry has no translation, so nothing of the key is kept when it is out of use.
  have empty : merge [notedGreeting, { notedGreeting with translation := .single "" }]
      ⟨∅, ∅⟩ 2 = [] := by decide
  rw [empty] at member
  cases member

end MessageCatalog
