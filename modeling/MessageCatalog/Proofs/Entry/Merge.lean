import MessageCatalog.Entry.Merge
import MessageCatalog.Proofs.SortedMap

/-! A merge drops no translation, alters none and adds none, whatever messages are in use. -/

namespace MessageCatalog

/-- The translations of a catalog that have been made, by key. -/
def translations (entries : List Entry) : SortedMap Key Translation :=
  .ofList ((entries.filter Entry.isTranslated).map fun entry => (entry.key, entry.translation))

/-- Where keys differ, a translation is that of the entry with its key. -/
theorem get?_translations {entries : List Entry} (distinct : (entries.map Entry.key).Nodup)
    {key : Key} {translation : Translation} :
    (translations entries).get? key = some translation ↔
      ∃ entry ∈ entries, entry.isTranslated = true ∧ entry.key = key ∧
        entry.translation = translation := by
  -- The map of a list tells its entries only where no key comes twice.
  have keys : (((entries.filter Entry.isTranslated).map fun entry =>
      (entry.key, entry.translation)).map (·.1)).Nodup := by
    rw [List.map_map]
    exact (List.filter_sublist.map Entry.key).nodup distinct
  rw [translations, SortedMap.get?_ofList keys, List.mem_map]
  constructor
  · rintro ⟨entry, member, same⟩
    obtain ⟨inside, translated⟩ := List.mem_filter.1 member
    cases same
    exact ⟨entry, inside, translated, rfl, rfl⟩
  · rintro ⟨entry, inside, translated, rfl, rfl⟩
    exact ⟨entry, List.mem_filter.2 ⟨inside, translated⟩, rfl⟩

/-- Where keys differ, a stored entry is found by its key. -/
theorem get?_entriesByKey {entries : List Entry} (distinct : (entries.map Entry.key).Nodup)
    {key : Key} {entry : Entry} :
    (entriesByKey entries).get? key = some entry ↔ entry ∈ entries ∧ entry.key = key := by
  -- No key comes twice, so none of the entries is overwritten.
  have keys : ((entries.map fun entry => (entry.key, entry)).map (·.1)).Nodup := by
    rw [List.map_map]
    exact distinct
  rw [entriesByKey, SortedMap.get?_ofList keys, List.mem_map]
  constructor
  · rintro ⟨_, member, ⟨⟩⟩
    exact ⟨member, rfl⟩
  · rintro ⟨member, rfl⟩
    exact ⟨entry, member, rfl⟩

/-- A key below another one is not that one. -/
theorem Key.ne_of_lt {a b : Key} (below : compare a b = .lt) : a ≠ b := by
  intro same
  have equal : compare a b = .eq := same ▸ Std.ReflCmp.compare_self
  rw [equal] at below
  cases below

/-- The stored entry that counts for a key is the last one with it. -/
def lastStored (stored : List Entry) (key : Key) : Option Entry :=
  stored.reverse.find? fun entry => entry.key = key

/-- The entry that counts for a key is a stored one with that key. -/
theorem lastStored_eq_some {stored : List Entry} {key : Key} {entry : Entry}
    (found : lastStored stored key = some entry) : entry ∈ stored ∧ entry.key = key := by
  have member := List.mem_of_find?_eq_some found
  have same := List.find?_some found
  exact ⟨List.mem_reverse.1 member, by simpa using same⟩

/-- Entries are merged by the stored entry that counts for a key. -/
theorem get?_entriesByKey_eq (stored : List Entry) (key : Key) :
    (entriesByKey stored).get? key = lastStored stored key := by
  -- A later entry takes the place of an earlier one, so the search begins at the end.
  have test : (fun entry : Key × Entry => compare key entry.1 == .eq) ∘
      (fun entry : Entry => (entry.key, entry)) = fun entry => decide (entry.key = key) := by
    funext entry
    rw [Bool.eq_iff_iff, decide_eq_true_iff, Function.comp, beq_iff_eq, Std.compare_eq_iff_eq]
    exact eq_comm
  rw [entriesByKey, SortedMap.get?_ofList_eq_find?, ← List.map_reverse, List.find?_map, test,
    Option.map_map]
  exact Option.map_id'

/-- Messages in use are named by their keys, and their references pass a test. -/
structure LiveMessages.Sound (test : Reference → Prop) (live : LiveMessages) : Prop where
  keys : ∀ {key message}, live.messages.get? key = some message → message.key = key
  usages : ∀ {key usages}, live.usages.get? key = some usages →
    ∀ reference ∈ SortedSet.elements usages, test reference

namespace LiveMessages

variable {test : Reference → Prop} {live : LiveMessages}

/-- No message is in use yet. -/
theorem sound_empty : Sound test ⟨∅, ∅⟩ where
  keys := nofun
  usages := nofun

/-- References that pass a test pass a weaker one. -/
theorem Sound.imp {weaker : Reference → Prop} (sound : live.Sound test)
    (passes : ∀ reference, test reference → weaker reference) : live.Sound weaker where
  keys := sound.keys
  usages found reference member := passes reference (sound.usages found reference member)

/-- The references of a key pass the test. -/
theorem Sound.references (sound : live.Sound test) (key : Key) :
    ∀ reference ∈ live.references key, test reference := by
  intro reference member
  unfold LiveMessages.references at member
  split at member
  · rename_i usages found
    exact sound.usages found reference member
  · cases member

end LiveMessages

/-- A placeholder is no translation. -/
theorem isDone_placeholder (plural : Bool) (forms : Nat) :
    (Translation.placeholder plural forms).isDone = false := by
  cases plural with
  | false => rfl
  | true =>
    rw [Translation.placeholder, if_pos rfl, Translation.isDone, List.any_eq_false]
    intro text member
    rw [List.eq_of_mem_replicate member]
    decide

section

variable {live : LiveMessages} {pluralForms : Nat} {stored : Option Entry} {key : Key}

/-- What a key becomes: its translated entry with other references and another status, or a new entry
for a message in use. -/
theorem mergeKey_eq_some {entry : Entry}
    (made : mergeKey live pluralForms stored key = some entry) :
    (∃ old references status, stored = some old ∧ old.isTranslated = true ∧
      entry = { old with references, status } ∧ references ⊆ live.references key) ∨
    (∃ message, live.messages.get? key = some message ∧
      entry = .new message pluralForms (live.references key) stored) := by
  -- A translated entry is kept, in use or not; without one, only a message in use has an entry.
  unfold mergeKey at made
  dsimp only at made
  split at made
  · rename_i kept
    cases made
    obtain ⟨found, translated⟩ := Option.filter_eq_some_iff.1 kept
    exact .inl ⟨_, _, _, found, translated, rfl, List.Subset.refl _⟩
  · rename_i message inUse _
    cases made
    exact .inr ⟨message, inUse, rfl⟩
  · rename_i kept
    cases made
    obtain ⟨found, translated⟩ := Option.filter_eq_some_iff.1 kept
    exact .inl ⟨_, _, _, found, translated, rfl, List.nil_subset _⟩
  · cases made

/-- A translated entry is kept, but for its references and its status. -/
theorem mergeKey_of_translated {old : Entry} (translated : old.isTranslated = true) :
    ∃ references status,
      mergeKey live pluralForms (some old) key = some { old with references, status } := by
  -- A translated entry passes the filter, whether or not the key is in use.
  have kept : (some old).filter Entry.isTranslated = some old := by
    rw [Option.filter_some, if_pos translated]
  unfold mergeKey
  rw [kept]
  cases live.messages.get? key with
  | none => exact ⟨_, _, rfl⟩
  | some message => exact ⟨_, _, rfl⟩

end

section

variable {test : Reference → Prop} {live : LiveMessages} {stored : List Entry}

/-- What becomes of a key has that key. -/
theorem key_of_mergeKey (sound : live.Sound test) {pluralForms : Nat} {key : Key} {entry : Entry}
    (made : mergeKey live pluralForms ((entriesByKey stored).get? key) key = some entry) :
    entry.key = key := by
  rcases mergeKey_eq_some made with ⟨old, references, status, found, -, rfl, -⟩ |
    ⟨message, inUse, rfl⟩
  · rw [get?_entriesByKey_eq] at found
    exact (lastStored_eq_some found).2
  · exact sound.keys inUse

/-- The entries of a merged catalog are in strictly ascending order of their keys. -/
theorem ascending_merge (sound : live.Sound test) (stored : List Entry) (pluralForms : Nat) :
    (merge stored live pluralForms).Pairwise fun a b => compare a.key b.key = .lt := by
  -- Each key becomes one entry at most, and that has the key itself.
  have keys : (mergedKeys (entriesByKey stored) live).elements.Pairwise
      fun a b => compare a b = .lt :=
    List.pairwise_map.2 (mergedKeys (entriesByKey stored) live).ascending
  rw [merge, List.pairwise_filterMap]
  refine keys.imp ?_
  intro first second below entry made other made'
  rw [key_of_mergeKey sound made, key_of_mergeKey sound made']
  exact below

/-- The keys of a merged catalog differ. -/
theorem nodup_merge (sound : live.Sound test) (stored : List Entry) (pluralForms : Nat) :
    ((merge stored live pluralForms).map Entry.key).Nodup := by
  rw [List.Nodup, List.pairwise_map]
  exact (ascending_merge sound stored pluralForms).imp Key.ne_of_lt

/-- The keys that are merged are those of stored entries and of messages in use. -/
theorem mem_mergedKeys_iff {entries : SortedMap Key Entry} {key : Key} :
    key ∈ (mergedKeys entries live).elements ↔
      entries.contains key = true ∨ live.messages.contains key = true := by
  rw [SortedSet.mem_elements, mergedKeys, SortedSet.contains_foldl_add,
    SortedSet.contains_ofElements, ← SortedMap.contains_eq_any, ← SortedMap.contains_eq_any,
    Bool.or_eq_true]

/-- The key of a stored entry is one of those that are merged. -/
theorem mem_mergedKeys {entries : SortedMap Key Entry} {key : Key} {entry : Entry}
    (found : entries.get? key = some entry) (live : LiveMessages) :
    key ∈ (mergedKeys entries live).elements := by
  rw [mem_mergedKeys_iff, SortedMap.contains_eq_isSome_get?, found]
  exact .inl rfl

/-- A merged catalog has the translations of the stored one. -/
theorem translations_merge (sound : live.Sound test) (distinct : (stored.map Entry.key).Nodup)
    (pluralForms : Nat) :
    translations (merge stored live pluralForms) = translations stored := by
  apply SortedMap.ext_get?
  intro key
  apply Option.ext
  intro translation
  -- Neither catalog has a key twice, so the translations are told by membership.
  rw [get?_translations (nodup_merge sound stored pluralForms), get?_translations distinct]
  constructor
  · rintro ⟨entry, member, translated, rfl, rfl⟩
    obtain ⟨key, -, made⟩ := List.mem_filterMap.1 member
    rcases mergeKey_eq_some made with ⟨old, references, status, found, done, rfl, -⟩ |
      ⟨message, inUse, rfl⟩
    · exact ⟨old, ((get?_entriesByKey distinct).1 found).1, done, rfl, rfl⟩
    · -- A new entry is not translated.
      rw [Entry.isTranslated, Entry.new, isDone_placeholder] at translated
      cases translated
  · -- A stored translation is kept whether or not its message is in use.
    rintro ⟨old, member, translated, rfl, rfl⟩
    have found := (get?_entriesByKey distinct).2 ⟨member, rfl⟩
    obtain ⟨references, status, made⟩ : ∃ references status,
        mergeKey live pluralForms (some old) old.key = some { old with references, status } :=
      mergeKey_of_translated translated
    refine ⟨{ old with references, status }, ?_, translated, rfl, rfl⟩
    rw [merge, List.mem_filterMap]
    exact ⟨old.key, mem_mergedKeys found live, by rw [found, made]⟩

/-- The references of merged entries are those of messages in use. -/
theorem references_merge (sound : live.Sound test) {pluralForms : Nat} {entry : Entry}
    (member : entry ∈ merge stored live pluralForms) :
    ∀ reference ∈ entry.references, test reference := by
  obtain ⟨key, -, made⟩ := List.mem_filterMap.1 member
  rcases mergeKey_eq_some made with ⟨old, references, status, -, -, rfl, some⟩ | ⟨message, -, rfl⟩
  · exact fun reference inside => sound.references key reference (some inside)
  · exact sound.references key

end

end MessageCatalog
