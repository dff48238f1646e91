import Mathlib.Data.List.Nodup
import MessageCatalog.SortedMap

/-! A sorted map is determined by its lookups, and each operation changes the lookup of one key. -/

namespace MessageCatalog

universe u v w

namespace SortedMap

variable {κ : Type u} {υ : Type v} [Ord κ]

@[simp] theorem entry?_empty (key : κ) : entry? (∅ : SortedMap κ υ) key = none := rfl

@[simp] theorem get?_empty (key : κ) : (∅ : SortedMap κ υ).get? key = none := rfl

/-- Nothing is found when no entry has an equal key. -/
theorem entry?_eq_none_iff {map : SortedMap κ υ} {key : κ} :
    map.entry? key = none ↔ ∀ entry ∈ map.toList, compare key entry.1 ≠ .eq := by
  simp [ entry?, List.find?_eq_none]

/-- A key belongs to a map exactly when it has a value there. -/
theorem contains_eq_isSome_get? (map : SortedMap κ υ) (key : κ) :
    map.contains key = (map.get? key).isSome := by
  simp [contains, get?]

/-- Mapping changes the value at each key. -/
theorem get?_map {ω : Type v} (f : υ → ω) (map : SortedMap κ υ) (key : κ) :
    (map.map fun _ => f).get? key = (map.get? key).map f := by
  rw [get?, get?, entry?, entry?, SortedMap.map, List.find?_map, Option.map_map, Option.map_map]
  rfl

variable [Std.TransOrd κ]

/-- Looking up a key finds exactly the entry whose key equals it. -/
theorem entry?_eq_some_iff {map : SortedMap κ υ} {key : κ} {entry : κ × υ} :
    map.entry? key = some entry ↔ entry ∈ map.toList ∧ compare key entry.1 = .eq := by
  obtain ⟨entries, ascending⟩ := map
  simp only [ entry?]
  -- Past the head, an equal key would have to lie above the head and equal it at once.
  induction entries with
  | nil => simp
  | cons head rest ih =>
    rw [List.pairwise_cons] at ascending
    rw [List.find?_cons]
    cases found : compare key head.1 == .eq with
    | true =>
      have equal : compare key head.1 = .eq := by simpa using found
      simp only [Option.some.injEq, List.mem_cons]
      constructor
      · rintro rfl
        exact ⟨.inl rfl, equal⟩
      · rintro ⟨same | later, other⟩
        · exact same.symm
        · -- An entry behind the head lies above it, so its key does not equal the same one.
          have above := ascending.1 entry later
          rw [Std.TransCmp.congr_left (Std.OrientedCmp.eq_symm equal), other] at above
          cases above
    | false =>
      have unequal : compare key head.1 ≠ .eq := by simpa using found
      simp only [ih ascending.2, List.mem_cons]
      constructor
      · rintro ⟨member, equal⟩
        exact ⟨.inr member, equal⟩
      · rintro ⟨rfl | member, equal⟩
        · exact absurd equal unequal
        · exact ⟨member, equal⟩

/-- Every entry of a map is found at its own key. -/
theorem entry?_of_mem {map : SortedMap κ υ} {entry : κ × υ} (member : entry ∈ map.toList) :
    map.entry? entry.1 = some entry :=
  entry?_eq_some_iff.2 ⟨member, Std.ReflCmp.compare_self⟩

/-- Equal keys find the same entry. -/
theorem entry?_congr {map : SortedMap κ υ} {a b : κ} (equal : compare a b = .eq) :
    map.entry? a = map.entry? b := by
  simp only [ entry?, Std.TransCmp.congr_left equal]

/-- Lists in strictly ascending order of keys are equal when they have the same members. -/
theorem eq_of_ascending {α : Type w} (key : α → κ) {first second : List α}
    (ascending : first.Pairwise fun a b => compare (key a) (key b) = .lt)
    (ascending' : second.Pairwise fun a b => compare (key a) (key b) = .lt)
    (members : ∀ element, element ∈ first ↔ element ∈ second) : first = second := by
  -- In ascending order no element comes twice, so the lists are permutations of each other.
  have differ {a b : α} (below : compare (key a) (key b) = .lt) : a ≠ b := by
    rintro rfl
    simp [Std.ReflCmp.compare_self] at below
  refine List.Perm.eq_of_pairwise ?_ ascending ascending'
    ((List.perm_ext_iff_of_nodup (ascending.imp differ) (ascending'.imp differ)).2 members)
  intro a b _ _ below above
  exact absurd above (Std.OrientedCmp.not_lt_of_lt below)

/-- Maps that find the same entries are equal. -/
theorem ext_entry? {a b : SortedMap κ υ} (same : ∀ key, a.entry? key = b.entry? key) : a = b := by
  apply ext
  -- Both lists ascend, and an entry of one is what the other one has at its key.
  refine eq_of_ascending Prod.fst a.ascending b.ascending fun entry => ?_
  constructor
  · intro inside
    exact (entry?_eq_some_iff.1 (same entry.1 ▸ entry?_of_mem inside)).1
  · intro inside
    exact (entry?_eq_some_iff.1 ((same entry.1).symm ▸ entry?_of_mem inside)).1

/-- Inserting changes the entry at the inserted key only, whose first spelling stays. -/
theorem entry?_insert (map : SortedMap κ υ) (key other : κ) (value : υ) :
    entry? (map.insert key value) other =
      if compare other key = .eq then some (((map.entry? key).map Prod.fst).getD key, value)
      else map.entry? other := by
  obtain ⟨entries, ascending⟩ := map
  simp only [insert, entry?]
  -- By induction on the entries; the order of the key and the head's tells where the insertion ends.
  induction entries with
  | nil =>
    by_cases equal : compare other key = .eq <;> simp [insertEntry, equal]
  | cons head rest ih =>
    obtain ⟨key', value'⟩ := head
    rw [List.pairwise_cons] at ascending
    unfold insertEntry
    cases order : compare key key' with
    | lt =>
      -- A key below the head is below all that follow it, so none of them equals it.
      have absent : ((key', value') :: rest).find? (fun entry => compare key entry.1 == .eq) =
          none := by
        simp only [List.find?_eq_none, List.mem_cons, beq_iff_eq]
        rintro entry (rfl | member)
        · simp [order]
        · simp [Std.TransCmp.lt_trans order (ascending.1 entry member)]
      rw [absent]
      by_cases equal : compare other key = .eq <;> simp [List.find?_cons, equal]
    | eq =>
      have head_eq : compare other key' = compare other key :=
        (Std.TransCmp.congr_right order).symm
      by_cases equal : compare other key = .eq <;> simp [head_eq, equal, order]
    | gt =>
      -- The new entry goes behind the head, which keeps its place.
      specialize ih ascending.2
      by_cases equal : compare other key = .eq
      · have behind : compare other key' = .gt := (Std.TransCmp.congr_left equal).trans order
        simpa [List.find?_cons, behind, order, equal] using ih
      · cases head_order : compare other key' with
        | eq => simp [head_order, equal]
        | lt | gt => simpa [List.find?_cons, head_order, equal] using ih

/-- Erasing removes the entry at one key only. -/
theorem entry?_erase (map : SortedMap κ υ) (key other : κ) :
    entry? (map.erase key) other =
      if compare other key = .eq then none else map.entry? other := by
  -- Equal keys go with their entry, and an entry of another key passes the filter.
  by_cases equal : compare other key = .eq
  · rw [if_pos equal, entry?_eq_none_iff]
    intro entry member
    simp only [erase, List.mem_filter, bne_iff_ne, ne_eq] at member
    rw [Std.TransCmp.congr_left equal]
    exact member.2
  · rw [if_neg equal]
    apply Option.ext
    intro entry
    rw [entry?_eq_some_iff, entry?_eq_some_iff]
    simp only [erase, List.mem_filter, bne_iff_ne, ne_eq]
    constructor
    · rintro ⟨⟨member, -⟩, found⟩
      exact ⟨member, found⟩
    · rintro ⟨member, found⟩
      refine ⟨⟨member, fun same => equal ?_⟩, found⟩
      exact Std.TransCmp.eq_trans found (Std.OrientedCmp.eq_symm same)

/-- Inserting changes the value at the inserted key only. -/
theorem get?_insert (map : SortedMap κ υ) (key other : κ) (value : υ) :
    (map.insert key value).get? other =
      if compare other key = .eq then some value else map.get? other := by
  rw [get?, entry?_insert]
  split <;> rfl

/-- Erasing removes the value at one key only. -/
theorem get?_erase (map : SortedMap κ υ) (key other : κ) :
    (map.erase key).get? other = if compare other key = .eq then none else map.get? other := by
  rw [get?, entry?_erase]
  split <;> rfl

/-- A key above all others goes to the end. -/
theorem toList_insert_of_above {map : SortedMap κ υ} {key : κ} {value : υ}
    (above : ∀ entry ∈ map.toList, compare entry.1 key = .lt) :
    (map.insert key value).toList = map.toList ++ [(key, value)] := by
  obtain ⟨entries, ascending⟩ := map
  change insertEntry key value entries = entries ++ [(key, value)]
  change ∀ entry ∈ entries, compare entry.1 key = .lt at above
  clear ascending
  -- By induction on the entries, behind each of which the key comes.
  induction entries with
  | nil => rfl
  | cons head rest ih =>
    have behind : compare key head.1 = .gt := Std.OrientedCmp.gt_of_lt (above head (.head _))
    rw [insertEntry, behind]
    dsimp only
    rw [ih fun entry member => above entry (.tail _ member), List.cons_append]

/-- Of two values for one key the later one counts. -/
theorem insert_insert (map : SortedMap κ υ) (key : κ) (first second : υ) :
    (map.insert key first).insert key second = map.insert key second := by
  apply ext_entry?
  intro other
  rw [entry?_insert, entry?_insert, entry?_insert, entry?_insert]
  -- At the key the second value counts, and elsewhere neither does.
  by_cases equal : compare other key = .eq
  · rw [if_pos equal, if_pos equal, if_pos Std.ReflCmp.compare_self]
    rfl
  · rw [if_neg equal, if_neg equal, if_neg equal]

/-- Equal keys both belong to a map, or neither does. -/
theorem contains_congr {map : SortedMap κ υ} {a b : κ} (equal : compare a b = .eq) :
    map.contains a = map.contains b := by
  rw [contains, contains, entry?_congr equal]

/-- Equal keys have the same value. -/
theorem get?_congr {map : SortedMap κ υ} {a b : κ} (equal : compare a b = .eq) :
    map.get? a = map.get? b := by
  rw [get?, get?, entry?_congr equal]

/-- The value that is there already changes nothing. -/
theorem insert_eq_self {map : SortedMap κ υ} {key : κ} {value : υ}
    (there : map.get? key = some value) : map.insert key value = map := by
  obtain ⟨entry, found, rfl⟩ := Option.map_eq_some_iff.1 there
  apply ext_entry?
  intro other
  rw [entry?_insert, found]
  -- The entry keeps the spelling of its key, and its value is the same.
  by_cases equal : compare other key = .eq
  · rw [if_pos equal, entry?_congr equal, found]
    rfl
  · rw [if_neg equal]

/-- A key that is not there is erased already. -/
theorem erase_eq_self {map : SortedMap κ υ} {key : κ} (absent : map.contains key = false) :
    map.erase key = map := by
  apply ext_entry?
  intro other
  rw [entry?_erase]
  -- There is no entry at the key that could go.
  by_cases equal : compare other key = .eq
  · rw [contains, Option.isSome_eq_false_iff, Option.isNone_iff_eq_none] at absent
    rw [if_pos equal, entry?_congr equal, absent]
  · rw [if_neg equal]

/-- A key belongs to a map after an insertion when it is the inserted one or belonged to it before. -/
theorem contains_insert (map : SortedMap κ υ) (key other : κ) (value : υ) :
    contains (map.insert key value) other = (compare other key == .eq || map.contains other) := by
  rw [contains, entry?_insert]
  by_cases equal : compare other key = .eq
  · simp [equal]
  · simp [equal, contains]

/-- Erasing leaves all keys but those that equal the erased one. -/
theorem contains_erase (map : SortedMap κ υ) (key other : κ) :
    (map.erase key).contains other = (map.contains other && compare other key != .eq) := by
  rw [contains, contains, entry?_erase]
  by_cases equal : compare other key = .eq
  · simp [equal]
  · simp [equal]

/-- The keys after an insertion are the inserted one and those from before. -/
theorem mem_keys_insert {map : SortedMap κ υ} {key other : κ} {value : υ}
    (member : other ∈ (map.insert key value).keys) : other = key ∨ other ∈ map.keys := by
  obtain ⟨entry, inside, rfl⟩ := List.mem_map.1 member
  have found := entry?_of_mem inside
  rw [entry?_insert] at found
  split at found
  · -- The key of the changed entry is the one that was there first.
    rcases old : map.entry? key with _ | first
    · simp only [old, Option.map_none, Option.getD_none, Option.some.injEq] at found
      exact .inl (congrArg Prod.fst found.symm)
    · simp only [old, Option.map_some, Option.getD_some, Option.some.injEq] at found
      have same := congrArg Prod.fst found
      exact .inr (List.mem_map.2 ⟨first, (entry?_eq_some_iff.1 old).1, same⟩)
  · -- Every other entry is one from before.
    exact .inr (List.mem_map.2 ⟨entry, (entry?_eq_some_iff.1 found).1, rfl⟩)

/-- An insertion keeps the keys as they are spelled. -/
theorem mem_keys_insert_of_mem {map : SortedMap κ υ} {other : κ} (member : other ∈ map.keys)
    (key : κ) (value : υ) : other ∈ (map.insert key value).keys := by
  obtain ⟨entry, inside, rfl⟩ := List.mem_map.1 member
  have found := entry?_of_mem inside
  -- An entry with an equal key keeps its spelling and gets another value.
  have kept : ∃ value', entry? (map.insert key value) entry.1 = some (entry.1, value') := by
    rw [entry?_insert]
    split
    · rename_i equal
      rw [← entry?_congr equal, found]
      exact ⟨value, rfl⟩
    · exact ⟨entry.2, found⟩
  obtain ⟨value', kept⟩ := kept
  exact List.mem_map.2 ⟨_, (entry?_eq_some_iff.1 kept).1, rfl⟩

/-- The keys of a map of a list are keys of the list. -/
theorem mem_keys_ofList {entries : List (κ × υ)} {key : κ} (member : key ∈ (ofList entries).keys) :
    key ∈ entries.map (·.1) := by
  suffices general : ∀ map : SortedMap κ υ,
      key ∈ keys (entries.foldl (fun map entry => map.insert entry.1 entry.2) map) →
        key ∈ map.keys ∨ key ∈ entries.map (·.1) by
    exact (general empty member).resolve_left List.not_mem_nil
  clear member
  -- By induction on the entries, for any map that they are added to.
  induction entries with
  | nil => exact fun _ => .inl
  | cons entry entries ih =>
    intro map inside
    rcases ih _ inside with earlier | later
    · rcases mem_keys_insert earlier with rfl | old
      · exact .inr (.head _)
      · exact .inl old
    · exact .inr (.tail _ later)

/-- Entries of a map for one key are one entry. -/
theorem eq_of_mem {map : SortedMap κ υ} {first second : κ × υ} (member : first ∈ map.toList)
    (member' : second ∈ map.toList) (equal : compare first.1 second.1 = .eq) : first = second := by
  have found := entry?_of_mem member
  rw [entry?_congr equal, entry?_of_mem member'] at found
  cases found
  rfl

/-- A key that belongs to a map is equal to one of its keys. -/
theorem contains_iff {map : SortedMap κ υ} {key : κ} :
    map.contains key = true ↔ ∃ other ∈ map.keys, compare key other = .eq := by
  simp only [contains, Option.isSome_iff_exists, entry?_eq_some_iff, keys, List.mem_map]
  constructor
  · rintro ⟨entry, member, equal⟩
    exact ⟨entry.1, ⟨entry, member, rfl⟩, equal⟩
  · rintro ⟨_, ⟨entry, member, rfl⟩, equal⟩
    exact ⟨entry, member, equal⟩

/-- A key is looked for among the keys of a map. -/
theorem contains_eq_any (map : SortedMap κ υ) (key : κ) :
    map.contains key = map.keys.any (compare key · == .eq) := by
  rw [Bool.eq_iff_iff, contains_iff, List.any_eq_true]
  simp

/-- The keys of a map differ from each other. -/
theorem nodup_keys (map : SortedMap κ υ) : map.keys.Nodup := by
  rw [keys, List.Nodup, List.pairwise_map]
  refine map.ascending.imp ?_
  intro first second below same
  have equal : compare first.1 second.1 = .eq := same ▸ Std.ReflCmp.compare_self
  rw [equal] at below
  cases below

/-- Of several entries for one key the last one counts. -/
theorem get?_ofList_eq_find? (entries : List (κ × υ)) (key : κ) :
    (ofList entries).get? key =
      (entries.reverse.find? fun entry => compare key entry.1 == .eq).map (·.2) := by
  -- The list is taken from its end, where the last insertion hides those before it.
  have folded : ofList entries =
      entries.reverse.foldr (fun entry map => map.insert entry.1 entry.2) empty :=
    List.foldr_reverse.symm
  rw [folded]
  induction entries.reverse with
  | nil => rfl
  | cons entry earlier ih =>
    rw [List.foldr_cons, get?_insert]
    by_cases equal : compare key entry.1 = .eq
    · rw [if_pos equal, List.find?_cons_of_pos (by simpa using equal)]
      rfl
    · rw [if_neg equal, List.find?_cons_of_neg (by simpa using equal)]
      exact ih

/-- A map of entries in ascending order of their keys has these entries. -/
theorem toList_ofList {entries : List (κ × υ)}
    (ascending : entries.Pairwise fun a b => compare a.1 b.1 = .lt) :
    (ofList entries).toList = entries := by
  -- By induction on the entries, each of which is above all that the map holds by then.
  suffices general : ∀ map : SortedMap κ υ,
      (∀ entry ∈ map.toList, ∀ other ∈ entries, compare entry.1 other.1 = .lt) →
      (entries.foldl (fun map entry => map.insert entry.1 entry.2) map).toList =
        map.toList ++ entries from general empty nofun
  induction entries with
  | nil => exact fun map _ => (List.append_nil _).symm
  | cons entry entries ih =>
    intro map below
    rw [List.pairwise_cons] at ascending
    have inserted : (map.insert entry.1 entry.2).toList = map.toList ++ [entry] :=
      toList_insert_of_above fun other member => below other member entry (.head _)
    rw [List.foldl_cons, ih ascending.2, inserted, List.append_assoc, List.singleton_append]
    rw [inserted]
    intro other member next later
    rcases List.mem_append.1 member with old | new
    · exact below other old next (.tail _ later)
    · rw [List.mem_singleton.1 new]
      exact ascending.1 next later

/-- A map is that of its entries. -/
theorem ofList_toList (map : SortedMap κ υ) : ofList map.toList = map :=
  ext (toList_ofList map.ascending)

/-- A map that has some of the entries of another one, with values that come of theirs, has these values
at its keys. -/
theorem get?_of_filterMap {ω : Type w} {some : SortedMap κ ω} {all : SortedMap κ υ}
    {f : υ → Option ω}
    (same : some.toList = all.toList.filterMap fun entry => (f entry.2).map (entry.1, ·)) (key : κ) :
    some.get? key = (all.get? key).bind f := by
  cases found : all.entry? key with
  | none =>
    have absent : some.entry? key = none := by
      -- An entry would be made from one of the same key, and there is none.
      rw [entry?_eq_none_iff, same]
      intro entry member
      obtain ⟨other, inside, told⟩ := List.mem_filterMap.1 member
      obtain ⟨value, -, rfl⟩ := Option.map_eq_some_iff.1 told
      exact entry?_eq_none_iff.1 found other inside
    rw [get?, get?, absent, found]
    rfl
  | some entry =>
    obtain ⟨inside, equal⟩ := entry?_eq_some_iff.1 found
    rw [get?, get?, found, Option.map_some, Option.bind_some]
    cases told : f entry.2 with
    | none =>
      -- Another entry with the key would be this one.
      have absent : some.entry? key = none := by
        rw [entry?_eq_none_iff, same]
        intro other member equal'
        obtain ⟨origin, inside', told'⟩ := List.mem_filterMap.1 member
        obtain ⟨value, here, rfl⟩ := Option.map_eq_some_iff.1 told'
        obtain rfl := eq_of_mem inside inside'
          (Std.TransCmp.eq_trans (Std.OrientedCmp.eq_symm equal) equal')
        cases told.symm.trans here
      rw [absent]
      rfl
    -- The value is kept under the spelling that the key has in the other map.
    | some value =>
      have there : some.entry? key = .some (entry.1, value) := by
        rw [entry?_eq_some_iff, same]
        exact ⟨List.mem_filterMap.2 ⟨entry, inside, by rw [told]; rfl⟩, equal⟩
      rw [there]
      rfl

variable [Std.LawfulEqOrd κ]

/-- Where equal keys are the same, maps with the same values are equal. -/
theorem ext_get? {a b : SortedMap κ υ} (same : ∀ key, a.get? key = b.get? key) : a = b := by
  -- An entry is spelled by its key, since keys that compare equal are equal here.
  have spelled (map : SortedMap κ υ) (key : κ) :
      map.entry? key = (map.get? key).map fun value => (key, value) := by
    rw [get?]
    cases found : map.entry? key with
    | none => rfl
    | some entry =>
      obtain ⟨key', value⟩ := entry
      have equal : key = key' := Std.LawfulEqOrd.eq_of_compare (entry?_eq_some_iff.1 found).2
      rw [equal]
      rfl
  apply ext_entry?
  intro key
  rw [spelled, spelled, same]

/-- A map of a list has exactly the entries of the list, when their keys differ. -/
theorem get?_ofList {entries : List (κ × υ)} (distinct : (entries.map (·.1)).Nodup) {key : κ}
    {value : υ} : (ofList entries).get? key = some value ↔ (key, value) ∈ entries := by
  -- By induction on the entries, for any map that they are added to.
  suffices general : ∀ map : SortedMap κ υ,
      (entries.foldl (fun map entry => map.insert entry.1 entry.2) map).get? key = some value ↔
        (key, value) ∈ entries ∨ (key ∉ entries.map (·.1) ∧ map.get? key = some value) by
    refine (general empty).trans ⟨fun either => either.resolve_right ?_, .inl⟩
    rintro ⟨-, found⟩
    cases found
  induction entries with
  | nil => simp
  | cons entry entries ih =>
    obtain ⟨other, otherValue⟩ := entry
    rw [List.map_cons, List.nodup_cons] at distinct
    obtain ⟨new, distinct⟩ := distinct
    intro map
    rw [List.foldl_cons, ih distinct, get?_insert]
    -- The key is in front and nowhere else, or it is one of the others.
    by_cases same : key = other
    · subst same
      have absent : (key, value) ∉ entries := fun member =>
        new (List.mem_map.2 ⟨_, member, rfl⟩)
      rw [if_pos Std.ReflCmp.compare_self]
      simp only [List.mem_cons, Prod.mk.injEq, true_and, absent, or_false, false_or, List.map_cons,
        new, not_false_eq_true, Option.some.injEq, not_true_eq_false, false_and]
      exact eq_comm
    · have differ : compare key other ≠ .eq := fun equal =>
        same (Std.LawfulEqOrd.eq_of_compare equal)
      rw [if_neg differ]
      simp [same]

/-- A key has the value of the entry that is found there. -/
theorem get?_eq_some_iff {map : SortedMap κ υ} {key : κ} {value : υ} :
    map.get? key = some value ↔ (key, value) ∈ map.toList := by
  rw [get?, Option.map_eq_some_iff]
  constructor
  · rintro ⟨⟨other, _⟩, found, rfl⟩
    obtain ⟨member, equal⟩ := entry?_eq_some_iff.1 found
    rw [Std.LawfulEqOrd.eq_of_compare equal]
    exact member
  · exact fun member => ⟨(key, value), entry?_of_mem member, rfl⟩

/-- A map of a list has the entries of the list in another order, when their keys differ. -/
theorem perm_ofList {entries : List (κ × υ)} (distinct : (entries.map (·.1)).Nodup) :
    (ofList entries).toList.Perm entries := by
  rw [List.perm_ext_iff_of_nodup (.of_map _ (ofList entries).nodup_keys) distinct.of_map]
  exact fun _ => get?_eq_some_iff.symm.trans (get?_ofList distinct)

end SortedMap

namespace SortedSet

variable {α : Type u} [Ord α]

/-- The elements of a set ascend strictly. -/
theorem ascending_elements (set : SortedSet α) :
    set.elements.Pairwise fun a b => compare a b = .lt :=
  List.pairwise_map.2 set.ascending

variable [Std.TransOrd α]

/-- Added elements belong to a set with those that belonged to it before. -/
theorem contains_foldl_add (set : SortedSet α) (elements : List α) (element : α) :
    SortedMap.contains (elements.foldl add set) element =
      (set.contains element || elements.any (compare element · == .eq)) := by
  induction elements generalizing set with
  | nil => simp
  | cons head rest ih =>
    rw [List.foldl_cons, ih, add, SortedMap.contains_insert, List.any_cons]
    ac_rfl

/-- A set of elements has the elements that equal one of them. -/
theorem contains_ofElements (elements : List α) (element : α) :
    (ofElements elements).contains element = elements.any (compare element · == .eq) := by
  refine (contains_foldl_add SortedMap.empty elements element).trans ?_
  simp [SortedMap.contains, SortedMap.entry?, SortedMap.empty]

/-- A set with added elements has those that it had and some of those that were added. -/
theorem mem_foldl_add {set : SortedSet α} {elements : List α} {element : α}
    (member : element ∈ SortedSet.elements (elements.foldl add set)) :
    element ∈ set.elements ∨ element ∈ elements := by
  -- By induction on the elements, for any set that they are added to.
  induction elements generalizing set with
  | nil => exact .inl member
  | cons head rest ih =>
    rcases ih member with before | later
    · rcases SortedMap.mem_keys_insert before with rfl | old
      · exact .inr (.head rest)
      · exact .inl old
    · exact .inr (.tail head later)

/-- A set keeps its elements as they are spelled when others are added. -/
theorem mem_foldl_add_of_mem {set : SortedSet α} {element : α} (member : element ∈ set.elements)
    (elements : List α) : element ∈ SortedSet.elements (elements.foldl add set) := by
  induction elements generalizing set with
  | nil => exact member
  | cons head rest ih => exact ih (SortedMap.mem_keys_insert_of_mem member head ())

/-- A set of elements keeps the spelling of one of them. -/
theorem mem_of_mem_ofElements {elements : List α} {element : α}
    (member : element ∈ (ofElements elements).elements) : element ∈ elements :=
  (mem_foldl_add member).resolve_left List.not_mem_nil

/-- Elements of a set that are equal are spelled in the same way. -/
theorem eq_of_mem_elements {set : SortedSet α} {a b : α} (member : a ∈ set.elements)
    (member' : b ∈ set.elements) (equal : compare a b = .eq) : a = b := by
  obtain ⟨first, inside, rfl⟩ := List.mem_map.1 member
  obtain ⟨second, inside', rfl⟩ := List.mem_map.1 member'
  rw [SortedMap.eq_of_mem inside inside' equal]

/-- Where equal elements are the same, a set contains its elements. -/
theorem mem_elements [Std.LawfulEqOrd α] {set : SortedSet α} {element : α} :
    element ∈ set.elements ↔ set.contains element = true := by
  rw [SortedMap.contains_iff]
  constructor
  · intro member
    exact ⟨element, member, Std.ReflCmp.compare_self⟩
  · rintro ⟨other, member, equal⟩
    rw [Std.LawfulEqOrd.eq_of_compare equal]
    exact member

/-- Where equal elements are the same, a set of elements has just these. -/
theorem mem_elements_ofElements [Std.LawfulEqOrd α] {elements : List α} {element : α} :
    element ∈ (ofElements elements).elements ↔ element ∈ elements := by
  rw [mem_elements, contains_ofElements, List.any_eq_true]
  simp

end SortedSet

end MessageCatalog
