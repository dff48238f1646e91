/-! Finite maps are lists of entries in strictly ascending key order, so equal contents are equal maps. -/

namespace MessageCatalog

universe u v

/-- Inserting replaces the value at an equal key and keeps the key as it was first written. -/
def insertEntry {κ : Type u} {υ : Type v} [Ord κ] (key : κ) (value : υ) :
    List (κ × υ) → List (κ × υ)
  | [] => [(key, value)]
  | (key', value') :: rest =>
    match compare key key' with
    | .lt => (key, value) :: (key', value') :: rest
    -- The first spelling of a key stays.
    | .eq => (key', value) :: rest
    | .gt => (key', value') :: insertEntry key value rest

/-- An inserted list holds one entry for the new key and otherwise only entries it had. -/
theorem mem_insertEntry {κ : Type u} {υ : Type v} [Ord κ] {key : κ} {value : υ}
    {entries : List (κ × υ)} {entry : κ × υ} (member : entry ∈ insertEntry key value entries) :
    entry = (key, value) ∨ (compare key entry.1 = .eq ∧ entry.2 = value) ∨ entry ∈ entries := by
  -- The new entry lands before the head, on it, or somewhere in the rest.
  induction entries with
  | nil => exact .inl (by simpa [insertEntry] using member)
  | cons head rest ih =>
    obtain ⟨key', value'⟩ := head
    unfold insertEntry at member
    split at member
    · simp only [List.mem_cons] at member ⊢
      grind
    · -- An equal key keeps its spelling and takes the new value.
      rename_i same
      simp only [List.mem_cons] at member ⊢
      rcases member with rfl | member
      · exact .inr (.inl ⟨same, rfl⟩)
      · exact .inr (.inr (.inr member))
    · simp only [List.mem_cons] at member ⊢
      rcases member with rfl | member
      · exact .inr (.inr (.inl rfl))
      · rcases ih member with same | equal | old
        · exact .inl same
        · exact .inr (.inl equal)
        · exact .inr (.inr (.inr old))

/-- Inserting keeps the keys strictly ascending. -/
theorem insertEntry_ascending {κ : Type u} {υ : Type v} [Ord κ] [Std.TransOrd κ] (key : κ)
    (value : υ) {entries : List (κ × υ)}
    (ascending : entries.Pairwise fun a b => compare a.1 b.1 = .lt) :
    (insertEntry key value entries).Pairwise fun a b => compare a.1 b.1 = .lt := by
  -- The order is checked where the new entry lands; everywhere else it is the old one.
  induction entries with
  | nil => simp [insertEntry]
  | cons head rest ih =>
    obtain ⟨key', value'⟩ := head
    rw [List.pairwise_cons] at ascending
    unfold insertEntry
    split
    · -- A key below the head is below all that follow it.
      rename_i below
      refine List.pairwise_cons.2 ⟨?_, List.pairwise_cons.2 ascending⟩
      intro entry member
      rcases List.mem_cons.1 member with rfl | member
      · exact below
      · exact Std.TransCmp.lt_trans below (ascending.1 entry member)
    · exact List.pairwise_cons.2 ascending
    · -- A key above the head goes into the rest, whose entries all stay above the head.
      rename_i above
      refine List.pairwise_cons.2 ⟨?_, ih ascending.2⟩
      intro entry member
      have below : compare key' key = .lt := Std.OrientedCmp.lt_of_gt above
      rcases mem_insertEntry member with rfl | ⟨equal, -⟩ | old
      · exact below
      · exact Std.TransCmp.lt_of_lt_of_eq below equal
      · exact ascending.1 entry old

/-- A map from ordered keys; keys that compare equal are one key. -/
structure SortedMap (κ : Type u) (υ : Type v) [Ord κ] where
  /-- The entries in key order. -/
  toList : List (κ × υ)
  /-- No two keys are equal, and each is below the next. -/
  ascending : toList.Pairwise fun a b => compare a.1 b.1 = .lt

namespace SortedMap

variable {κ : Type u} {υ : Type v} [Ord κ]

/-- Maps with the same entries are equal. -/
@[ext] theorem ext {a b : SortedMap κ υ} (same : a.toList = b.toList) : a = b := by
  cases a; cases b; simp_all

/-- Maps are compared by their entries. -/
instance [DecidableEq κ] [DecidableEq υ] : DecidableEq (SortedMap κ υ) := fun a b =>
  if same : a.toList = b.toList then isTrue (ext same)
  else isFalse fun equal => same (equal ▸ rfl)

/-- The map without entries. -/
def empty : SortedMap κ υ := ⟨[], .nil⟩

instance : EmptyCollection (SortedMap κ υ) := ⟨empty⟩

instance : Inhabited (SortedMap κ υ) := ⟨empty⟩

/-- The number of entries. -/
def size (map : SortedMap κ υ) : Nat := map.toList.length

/-- A map is empty when it has no entry. -/
def isEmpty (map : SortedMap κ υ) : Bool := map.toList.isEmpty

/-- The keys in ascending order. -/
def keys (map : SortedMap κ υ) : List κ := map.toList.map (·.1)

/-- The entry at a key, with the key as the map spells it. -/
def entry? (map : SortedMap κ υ) (key : κ) : Option (κ × υ) :=
  map.toList.find? fun entry => compare key entry.1 == .eq

/-- The value at a key. -/
def get? (map : SortedMap κ υ) (key : κ) : Option υ := (map.entry? key).map (·.2)

/-- A key belongs to a map when some entry's key equals it. -/
def contains (map : SortedMap κ υ) (key : κ) : Bool := (map.entry? key).isSome

/-- Erasing drops the entry at a key. -/
def erase (map : SortedMap κ υ) (key : κ) : SortedMap κ υ :=
  ⟨map.toList.filter fun entry => compare key entry.1 != .eq, map.ascending.filter _⟩

/-- Filtering keeps the entries that pass. -/
def filter (map : SortedMap κ υ) (keep : κ → υ → Bool) : SortedMap κ υ :=
  ⟨map.toList.filter fun entry => keep entry.1 entry.2, map.ascending.filter _⟩

/-- Mapping changes values only. -/
def map {ω : Type v} (f : κ → υ → ω) (map : SortedMap κ υ) : SortedMap κ ω :=
  ⟨map.toList.map fun entry => (entry.1, f entry.1 entry.2), by
    rw [List.pairwise_map]; exact map.ascending⟩

variable [Std.TransOrd κ]

/-- Inserting sets the value at a key. -/
def insert (map : SortedMap κ υ) (key : κ) (value : υ) : SortedMap κ υ :=
  ⟨insertEntry key value map.toList, insertEntry_ascending key value map.ascending⟩

/-- A new key gets a value, and a key that is there keeps the one it has. -/
def insertIfNew (map : SortedMap κ υ) (key : κ) (value : υ) : SortedMap κ υ :=
  if map.contains key then map else map.insert key value

/-- Later entries of a list replace earlier ones at an equal key. -/
def ofList (entries : List (κ × υ)) : SortedMap κ υ :=
  entries.foldl (fun map entry => map.insert entry.1 entry.2) empty

end SortedMap

/-- A set of ordered elements, kept in ascending order. -/
abbrev SortedSet (α : Type u) [Ord α] := SortedMap α Unit

namespace SortedSet

variable {α : Type u} [Ord α]

/-- The elements in ascending order. -/
def elements (set : SortedSet α) : List α := SortedMap.keys set

variable [Std.TransOrd α]

/-- Adding an element keeps one that equals it as it was. -/
def add (set : SortedSet α) (element : α) : SortedSet α := SortedMap.insert set element ()

/-- The set of the elements of a list. -/
def ofElements (elements : List α) : SortedSet α := elements.foldl add SortedMap.empty

end SortedSet

end MessageCatalog
