import MessageCatalog.Failure
import MessageCatalog.SortedMap

/-! Files and directories, as a program sees them and as a state that can be reasoned about. -/

namespace MessageCatalog

/-- The files that a program works on. -/
class FileSystem (m : Type → Type) where
  /-- The text of a file. -/
  read : Path → m (Outcome String)
  /-- Giving a file a text, whether it is there or not. -/
  write : Path → String → m (Outcome Unit)
  /-- Whether a path names a file or a directory. -/
  isThere : Path → m Bool
  isDir : Path → m Bool
  /-- Making a directory and those on the way to it. -/
  makeDir : Path → m (Outcome Unit)
  /-- Removing a directory with all that lies under it. -/
  removeDir : Path → m (Outcome Unit)
  /-- Making a directory of a fresh name that starts with a text. -/
  makeTempDir : String → m (Outcome Path)
  /-- The paths that match some pattern of the first list and none of the second. -/
  glob : List String → List String → m (Outcome (SortedSet Path))

/-- A state of files. An operation that fails leaves it as it was, except that a fresh name is used
up. -/
class Disk (δ : Type) where
  read : δ → Path → Outcome String
  write : δ → Path → String → Outcome δ
  isThere : δ → Path → Bool
  isDir : δ → Path → Bool
  makeDir : δ → Path → Outcome δ
  removeDir : δ → Path → Outcome δ
  makeTempDir : δ → String → Outcome Path × δ
  glob : δ → List String → List String → Outcome (SortedSet Path)

/-- All that a program can change: files, and what has been printed. -/
structure World (δ : Type) where
  disk : δ
  screen : Screen := {}
  deriving DecidableEq

namespace World

variable {δ : Type}

/-- A world with another state of files. -/
def setDisk (world : World δ) (disk : δ) : World δ := { world with disk }

/-- Taking the state of files that an operation leaves, if it does not fail. -/
def settle (world : World δ) : Outcome δ → Outcome Unit × World δ
  | .ok disk => (.ok (), world.setDisk disk)
  | .error failure => (.error failure, world)

instance : Console (StateM (World δ)) where
  limit := fun world => (world.screen.limit, world)
  setLimit limit := fun world => ((), { world with screen := { world.screen with limit } })
  print channel text := fun world => ((), { world with screen := world.screen.print channel text })

instance [Disk δ] : FileSystem (StateM (World δ)) where
  read path := fun world => (Disk.read world.disk path, world)
  write path text := fun world => world.settle (Disk.write world.disk path text)
  isThere path := fun world => (Disk.isThere world.disk path, world)
  isDir path := fun world => (Disk.isDir world.disk path, world)
  makeDir path := fun world => world.settle (Disk.makeDir world.disk path)
  removeDir path := fun world => world.settle (Disk.removeDir world.disk path)
  makeTempDir start := fun world =>
    let (made, disk) := Disk.makeTempDir world.disk start
    (made, world.setDisk disk)
  glob patterns ignore := fun world => (Disk.glob world.disk patterns ignore, world)

end World

end MessageCatalog
