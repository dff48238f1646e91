import MessageCatalog.Disk.Basic

/-! Files kept in memory, some operations on which can be made to fail. -/

namespace MessageCatalog

/-- The operations that can be made to fail. -/
inductive DiskAction where
  | read
  | write
  | makeDir
  | removeDir
  | makeTempDir
  deriving DecidableEq, Repr, Inhabited

/-- An action as it is told. -/
def DiskAction.name : DiskAction → String
  | read => "read"
  | write => "write"
  | makeDir => "mkdir"
  | removeDir => "rmdir"
  | makeTempDir => "tempdir"

/-- Trouble that an action on a path meets. -/
structure Hindrance where
  path : Path
  action : DiskAction
  trouble : FileTrouble
  deriving DecidableEq, Repr, Inhabited

/-- A hindrance is for one action on one path, however that is spelled. -/
def Hindrance.concerns (hindrance : Hindrance) (action : DiskAction) (path : Path) : Bool :=
  hindrance.action == action && hindrance.path.same path

/-- Files with their texts, directories, and the writes so far, last one first. -/
structure MemoryDisk where
  files : SortedMap Path String := ∅
  dirs : SortedSet Path := ∅
  writes : List (Path × String) := []
  tempDirs : Nat := 0
  hindrances : List Hindrance := []
  deriving DecidableEq

namespace MemoryDisk

/-- Adding a directory and those on the way to it. -/
def addDirs (disk : MemoryDisk) (path : Path) : MemoryDisk :=
  { disk with dirs := path.ancestors.foldl SortedSet.add disk.dirs }

/-- Adding a file and the directories on the way to it. -/
def addFile (disk : MemoryDisk) (path : Path) (text : String) : MemoryDisk :=
  let disk := match path.parent? with
    | some parent => disk.addDirs parent
    | none => disk
  { disk with files := disk.files.insert path text }

/-- Dropping a file. -/
def removeFile (disk : MemoryDisk) (path : Path) : MemoryDisk :=
  { disk with files := disk.files.erase path }

/-- Dropping a directory with all that lies under it. -/
def removeUnder (disk : MemoryDisk) (path : Path) : MemoryDisk :=
  { disk with
    files := disk.files.filter fun file _ => !file.isUnder path
    dirs := disk.dirs.filter fun dir _ => !dir.isUnder path }

/-- An action on a path meets trouble from now on. -/
def hinder (disk : MemoryDisk) (hindrance : Hindrance) : MemoryDisk :=
  { disk with hindrances := hindrance ::
      disk.hindrances.filter fun old => !old.concerns hindrance.action hindrance.path }

/-- An action on a path meets no trouble any more. -/
def release (disk : MemoryDisk) (action : DiskAction) (path : Path) : MemoryDisk :=
  { disk with hindrances := disk.hindrances.filter fun old => !old.concerns action path }

/-- An action fails when it is hindered. -/
def attempt (disk : MemoryDisk) (action : DiskAction) (path : Path) : Outcome Unit :=
  match disk.hindrances.find? fun hindrance => hindrance.concerns action path with
  | some hindrance => .error (.of (.file ⟨hindrance.trouble,
      "injected " ++ action.name ++ " fault: " ++ path.text⟩))
  | none => .ok ()

/-- A path names a directory of the disk. -/
def hasDir (disk : MemoryDisk) (path : Path) : Bool := disk.dirs.contains path

/-- The paths of directories and files that match some pattern and none to be ignored. -/
def matching (disk : MemoryDisk) (patterns ignore : List Pattern) : SortedSet Path :=
  .ofElements ((disk.dirs.elements ++ disk.files.keys).filter fun path =>
    patterns.any (·.matchesPath path) && !ignore.any (·.matchesLoosely path))

instance : Disk MemoryDisk where
  read disk path := do
    disk.attempt .read path
    match disk.files.get? path with
    | some text => return text
    | none => throw (.of (.file ⟨.notFound, "File not found: " ++ path.text⟩))
  write disk path text := do
    disk.attempt .write path
    return { disk with
      files := disk.files.insert path text
      writes := (path, text) :: disk.writes }
  isThere disk path := disk.files.contains path || disk.hasDir path
  isDir disk path := disk.hasDir path
  makeDir disk path := do
    disk.attempt .makeDir path
    return disk.addDirs path
  removeDir disk path := do
    disk.attempt .removeDir path
    return disk.removeUnder path
  makeTempDir disk start :=
    let path : Path := ⟨s!"/tmp/{start}{disk.tempDirs}"⟩
    let disk := { disk with tempDirs := disk.tempDirs + 1 }
    match disk.attempt .makeTempDir path with
    | .error failure => (.error failure, disk)
    | .ok () => (.ok path, disk.addDirs path)
  glob disk patterns ignore := do
    let patterns ← compilePatterns patterns
    return disk.matching patterns (← compilePatterns ignore)

end MemoryDisk

end MessageCatalog
