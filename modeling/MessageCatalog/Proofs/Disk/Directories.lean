import MessageCatalog.Proofs.Disk.Memory
import MessageCatalog.Proofs.Disk.View

/-! Which directories there are in memory, and which come to be there while files are written. -/

namespace MessageCatalog

/-- The directories on the way to a file. -/
def Path.way (path : Path) : List Path := (path.parent?.map ancestors).getD []

namespace MemoryDisk

/-- A path matches some pattern and none to be ignored. -/
def passes (patterns ignore : List Pattern) (path : Path) : Bool :=
  patterns.any (·.matchesPath path) && !ignore.any (·.matchesLoosely path)

/-- The directories that match some pattern and none to be ignored. -/
def matchingDirs (disk : MemoryDisk) (patterns ignore : List Pattern) : List Path :=
  disk.dirs.elements.filter (passes patterns ignore)

/-- A disk with more files and directories, the latter on the way to certain files. -/
structure Grows (touched : Path → Prop) (before after : MemoryDisk) : Prop where
  hindrances : after.hindrances = before.hindrances
  files : ∀ path, before.files.contains path = true → after.files.contains path = true
  keeps : ∀ dir ∈ before.dirs.elements, dir ∈ after.dirs.elements
  only : ∀ dir ∈ after.dirs.elements,
    dir ∈ before.dirs.elements ∨ ∃ path, touched path ∧ dir ∈ path.way

section

variable {disk before after : MemoryDisk} {touched : Path → Prop} {patterns ignore : List Pattern}

/-- What is listed among the directories names one. -/
theorem hasDir_of_mem {dir : Path} (member : dir ∈ disk.dirs.elements) : disk.hasDir dir = true :=
  SortedMap.contains_iff.2 ⟨dir, member, Std.ReflCmp.compare_self⟩

/-- No file of an orderly disk names a directory. -/
theorem Orderly.hasDir_of_file (orderly : disk.Orderly) {path : Path} (file : path ∈ disk.files.keys) :
    disk.hasDir path = false :=
  orderly.apart path (SortedMap.contains_iff.2 ⟨path, file, Std.ReflCmp.compare_self⟩)

/-- What matches on an orderly disk is a matching directory where it names one. -/
theorem Orderly.dir_of_mem_matching (orderly : disk.Orderly) {path : Path}
    (found : path ∈ (disk.matching patterns ignore).elements) (there : disk.hasDir path = true) :
    path ∈ disk.matchingDirs patterns ignore := by
  obtain ⟨inside, passes⟩ := List.mem_filter.1 (SortedSet.mem_of_mem_ofElements found)
  rcases List.mem_append.1 inside with dir | file
  · exact List.mem_filter.2 ⟨dir, passes⟩
  · rw [orderly.hasDir_of_file file] at there
    cases there

/-- On an orderly disk the matching paths that name directories are the matching directories. -/
theorem Orderly.matchingDirs_eq (orderly : disk.Orderly) :
    (disk.matching patterns ignore).elements.filter (Disk.isDir disk) =
      disk.matchingDirs patterns ignore := by
  -- Both lists ascend, so it is enough that they have the same members.
  refine SortedMap.eq_of_ascending id ((SortedSet.ascending_elements _).filter _)
    ((SortedSet.ascending_elements _).filter _) fun path => ?_
  have isDir (path : Path) : Disk.isDir disk path = disk.hasDir path := rfl
  rw [List.mem_filter, isDir]
  constructor
  · rintro ⟨found, there⟩
    exact orderly.dir_of_mem_matching found there
  · intro member
    obtain ⟨dir, passes⟩ := List.mem_filter.1 member
    have found : (disk.matching patterns ignore).contains path = true := by
      rw [matching, SortedSet.contains_ofElements, List.any_eq_true]
      refine ⟨path, List.mem_filter.2 ⟨List.mem_append_left _ dir, passes⟩, ?_⟩
      rw [show compare path path = .eq from Std.ReflCmp.compare_self]
      rfl
    -- What was found is a directory too, whatever its spelling, and so it is the same one.
    obtain ⟨other, inside, equal⟩ := SortedMap.contains_iff.1 found
    have there : disk.hasDir other = true := by
      rw [← hasDir_congr equal]
      exact hasDir_of_mem dir
    obtain ⟨dir', -⟩ := List.mem_filter.1 (orderly.dir_of_mem_matching inside there)
    obtain rfl := SortedSet.eq_of_mem_elements dir dir' equal
    exact ⟨inside, hasDir_of_mem dir⟩

theorem Grows.refl (disk : MemoryDisk) : Grows touched disk disk :=
  ⟨rfl, fun _ => id, fun _ => id, fun _ => .inl⟩

theorem Grows.trans {a b c : MemoryDisk} (first : Grows touched a b) (second : Grows touched b c) :
    Grows touched a c where
  hindrances := second.hindrances.trans first.hindrances
  files path := second.files path ∘ first.files path
  keeps dir := second.keeps dir ∘ first.keeps dir
  only dir member := (second.only dir member).elim (first.only dir) .inr

/-- Writing certain files and making the directories that hold them makes no other directories. -/
theorem grows_of_follows (follows : Disk.Follows touched before after) :
    Grows touched before after := by
  -- By induction on the changes: only the making of a directory adds some, and those are on its way.
  induction follows with
  | refl => exact .refl _
  | @makeDir path parent disk after _ inside held made ih =>
    refine ih.trans ?_
    have made := outcome_of_attempt made
    cases made
    refine ⟨rfl, fun _ => id, fun dir member => SortedSet.mem_foldl_add_of_mem member _, ?_⟩
    intro dir member
    refine (SortedSet.mem_foldl_add member).imp_right fun added => ⟨path, inside, ?_⟩
    rw [Path.way, held]
    exact added
  | @write path text disk after _ inside written ih =>
    refine ih.trans ?_
    have written := outcome_of_attempt written
    cases written
    refine ⟨rfl, fun other stored => ?_, fun _ => id, fun _ => .inl⟩
    show SortedMap.contains (disk.files.insert path text) other = true
    rw [SortedMap.contains_insert, stored, Bool.or_true]

/-- A disk is orderly when one that has grown from it is. -/
theorem Grows.orderly (grows : Grows touched before after) (orderly : after.Orderly) :
    before.Orderly := by
  refine ⟨grows.hindrances.symm.trans orderly.unhindered, fun path stored => ?_⟩
  have absent := orderly.apart path (grows.files path stored)
  rw [Bool.eq_false_iff] at absent ⊢
  intro there
  obtain ⟨dir, member, equal⟩ := SortedMap.contains_iff.1 there
  exact absent (SortedMap.contains_iff.2 ⟨dir, grows.keeps dir member, equal⟩)

/-- The matching directories stay the same where those that are made on the way to files do not match. -/
theorem Grows.matchingDirs_eq (grows : Grows touched before after)
    (unmatched : ∀ path, touched path → ∀ dir ∈ path.way,
      before.hasDir dir = true ∨ passes patterns ignore dir = false) :
    after.matchingDirs patterns ignore = before.matchingDirs patterns ignore := by
  refine SortedMap.eq_of_ascending id ((SortedSet.ascending_elements _).filter _)
    ((SortedSet.ascending_elements _).filter _) fun dir => ?_
  -- No directory is lost, so what is to be shown is that none of the new ones matches.
  rw [matchingDirs, matchingDirs, List.mem_filter, List.mem_filter]
  refine and_congr_left fun passes => ⟨fun member => ?_, grows.keeps dir⟩
  rcases grows.only dir member with old | ⟨path, inside, way⟩
  · exact old
  · -- A directory that matches was there before, and has kept its spelling.
    rcases unmatched path inside dir way with there | fails
    · obtain ⟨other, member', equal⟩ := SortedMap.contains_iff.1 there
      obtain rfl := SortedSet.eq_of_mem_elements member (grows.keeps other member') equal
      exact member'
    · rw [fails] at passes
      cases passes

end

end MemoryDisk

end MessageCatalog
