import MessageCatalog.Proofs.Disk.View
import MessageCatalog.Proofs.Entry.Fault

/-! What can be read on a disk in memory on which nothing is made to fail. -/

namespace MessageCatalog

namespace MemoryDisk

/-- An action succeeds where nothing is made to fail. -/
theorem attempt_of_unhindered {disk : MemoryDisk} (unhindered : disk.hindrances = [])
    (action : DiskAction) (path : Path) : disk.attempt action path = .ok () := by
  rw [attempt, unhindered]
  rfl

/-- Where nothing is made to fail, a file is read as it is, and one that is not there is not found. -/
theorem read_of_unhindered {disk : MemoryDisk} (unhindered : disk.hindrances = []) (path : Path) :
    Disk.read disk path = match disk.files.get? path with
      | some text => .ok text
      | none => .error (.of (.file ⟨.notFound, "File not found: " ++ path.text⟩)) := by
  rw [read_eq, attempt_of_unhindered unhindered]
  cases disk.files.get? path <;> rfl

/-- Nothing is made to fail, and no path names both a file and a directory. -/
structure Orderly (disk : MemoryDisk) : Prop where
  unhindered : disk.hindrances = []
  apart : ∀ path, disk.files.contains path = true → disk.hasDir path = false

/-- It is enough to look at the paths of the files that there are. -/
theorem orderly_of_keys {disk : MemoryDisk} (unhindered : disk.hindrances = [])
    (apart : ∀ path ∈ disk.files.keys, disk.hasDir path = false) : disk.Orderly where
  unhindered := unhindered
  apart := by
    intro path stored
    obtain ⟨key, member, equal⟩ := SortedMap.contains_iff.1 stored
    rw [hasDir, SortedMap.contains_congr equal]
    exact apart key member

/-- A file on an orderly disk is read as it is, and one that is not there is not found. -/
theorem Orderly.read {disk : MemoryDisk} (orderly : disk.Orderly) (path : Path) :
    Disk.read disk path = match disk.files.get? path with
      | some text => .ok text
      | none => .error (.of (.file ⟨.notFound, "File not found: " ++ path.text⟩)) :=
  read_of_unhindered orderly.unhindered path

/-- The paths that match are those of directories and files that pass. -/
theorem glob_eq {disk : MemoryDisk} {patterns ignore : List String} {included ignored : List Pattern}
    (compiled : compilePatterns patterns = .ok included)
    (left : compilePatterns ignore = .ok ignored) :
    Disk.glob disk patterns ignore = .ok (disk.matching included ignored) := by
  have opened : Disk.glob disk patterns ignore = (do
      let patterns ← compilePatterns patterns
      return disk.matching patterns (← compilePatterns ignore)) := rfl
  rw [opened, compiled, left]
  rfl

/-- Where paths are found, the patterns are such. -/
theorem compiled_of_glob {disk : MemoryDisk} {patterns ignore : List String}
    {found : SortedSet Path} (globbed : Disk.glob disk patterns ignore = .ok found) :
    ∃ included ignored, compilePatterns patterns = .ok included ∧
      compilePatterns ignore = .ok ignored := by
  obtain ⟨included, compiled, globbed⟩ := bind_eq_ok.1 globbed
  obtain ⟨ignored, left, -⟩ := bind_eq_ok.1 globbed
  exact ⟨included, ignored, compiled, left⟩

/-- The paths that match and name no directory. -/
def matchingFiles (disk : MemoryDisk) (included ignored : List Pattern) : SortedSet Path :=
  .ofElements ((disk.matching included ignored).elements.filter fun path => !disk.hasDir path)

/-- A path names a directory however it is spelled. -/
theorem hasDir_congr {disk : MemoryDisk} {path other : Path} (equal : compare path other = .eq) :
    disk.hasDir path = disk.hasDir other := by
  -- Paths are compared by their components, so that two spellings may be equal.
  exact SortedMap.contains_congr equal

/-- A path that matches and names no directory is a file's, as the disk spells it. -/
theorem entry?_of_mem_matchingFiles {disk : MemoryDisk} {included ignored : List Pattern}
    {path : Path} (member : path ∈ (disk.matchingFiles included ignored).elements) :
    (included.any (·.matchesPath path) && !ignored.any (·.matchesLoosely path)) = true ∧
      ∃ text, disk.files.entry? path = some (path, text) := by
  obtain ⟨matched, noDir⟩ := List.mem_filter.1 (SortedSet.mem_of_mem_ofElements member)
  obtain ⟨inside, passes⟩ := List.mem_filter.1 (SortedSet.mem_of_mem_ofElements matched)
  refine ⟨passes, ?_⟩
  -- What matches is a directory or a file, and directories are left out.
  rcases List.mem_append.1 inside with dir | file
  · have isDir : disk.hasDir path = true :=
      SortedMap.contains_iff.2 ⟨path, dir, Std.ReflCmp.compare_self⟩
    simp [isDir] at noDir
  · obtain ⟨⟨_, text⟩, stored, rfl⟩ := List.mem_map.1 file
    exact ⟨text, SortedMap.entry?_of_mem stored⟩

/-- Every file that matches is among the paths that match and name no directory. -/
theorem Orderly.contains_matchingFiles {disk : MemoryDisk} (orderly : disk.Orderly)
    {included ignored : List Pattern} {path : Path} {file : Path × String}
    (found : disk.files.entry? path = some file)
    (passes : (included.any (·.matchesPath file.1) && !ignored.any (·.matchesLoosely file.1)) =
      true) :
    (disk.matchingFiles included ignored).contains path = true := by
  obtain ⟨stored, equal⟩ := SortedMap.entry?_eq_some_iff.1 found
  have matched : (disk.matching included ignored).contains path = true := by
    rw [matching, SortedSet.contains_ofElements, List.any_eq_true]
    refine ⟨file.1, List.mem_filter.2 ⟨List.mem_append_right _ ?_, passes⟩, by simp [equal]⟩
    exact List.mem_map.2 ⟨file, stored, rfl⟩
  -- What matched may be an equal path in another spelling, and it names no directory either.
  obtain ⟨other, inside, same⟩ := SortedMap.contains_iff.1 matched
  have noDir : disk.hasDir other = false := by
    rw [← hasDir_congr same]
    exact orderly.apart path (by simp [SortedMap.contains, found])
  rw [matchingFiles, SortedSet.contains_ofElements, List.any_eq_true]
  exact ⟨other, List.mem_filter.2 ⟨inside, by simp [noDir]⟩, by simp [same]⟩

end MemoryDisk

namespace World

/-- A world with certain files and directories in memory, where nothing is made to fail. -/
def ofFiles (files : List (Path × String)) (dirs : List Path) : World MemoryDisk where
  disk := { files := .ofList files, dirs := .ofElements dirs }

/-- No files at all. -/
def bare : World MemoryDisk := ofFiles [] []

/-- One script, which uses one message. -/
def oneScript : World MemoryDisk := ofFiles [(⟨"a.js"⟩, "__('A')")] []

/-- The world when an action on a path is not permitted any more. -/
def forbid (world : World MemoryDisk) (action : DiskAction) (path : Path) : World MemoryDisk :=
  world.setDisk (world.disk.hinder ⟨path, action, .permissionDenied⟩)

theorem honest_ofFiles (files : List (Path × String)) (dirs : List Path) :
    (ofFiles files dirs).disk.Honest := MemoryDisk.honest_of_unhindered rfl

/-- Files without directories do not share their paths with any. -/
theorem orderly_ofFiles (files : List (Path × String)) : (ofFiles files []).disk.Orderly where
  unhindered := rfl
  apart _ _ := rfl

theorem orderly_oneScript : oneScript.disk.Orderly := orderly_ofFiles _

/-- What is not permitted is not reported as not found. -/
theorem honest_forbid {world : World MemoryDisk} (honest : world.disk.Honest) (action : DiskAction)
    (path : Path) : (world.forbid action path).disk.Honest := by
  intro hindrance member
  rcases List.mem_cons.1 member with rfl | old
  · exact nofun
  · exact honest hindrance (List.mem_filter.1 old).1

end World

end MessageCatalog
