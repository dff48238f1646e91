import MessageCatalog.Disk.Host

/-! The directories of a machine as a tree, with the faults that its system tells. -/

namespace MessageCatalog

/-- What a name stands for. -/
inductive Node where
  | file (bytes : ByteArray)
  | dir

/-- Files are the same when their bytes are. -/
instance : DecidableEq Node
  | .dir, .dir => isTrue rfl
  | .dir, .file _ => isFalse nofun
  | .file _, .dir => isFalse nofun
  | .file bytes, .file other =>
    decidable_of_iff (bytes.data = other.data)
      ⟨fun same => congrArg Node.file (ByteArray.ext same),
        fun same => congrArg ByteArray.data (Node.file.inj same)⟩

/-- Nodes by the names on the way to them from the root, and the working directory. -/
structure Tree where
  nodes : SortedMap (List String) Node := ∅
  workingDir : List String := []
  tempDirs : Nat := 0
  deriving DecidableEq

namespace Tree

/-- The faults of the system. -/
def noEntry : FileFault := ⟨.notFound, "No such file or directory (os error 2)"⟩

/-- A directory was needed. -/
def noDirectory : FileFault := ⟨.notADirectory, "Not a directory (os error 20)"⟩

/-- A file was needed. -/
def aDirectory : FileFault := ⟨.isADirectory, "Is a directory (os error 21)"⟩

/-- The name is taken. -/
def nameTaken : FileFault := ⟨.alreadyExists, "File exists (os error 17)"⟩

/-- The node at names; the root is a directory. -/
def node? (tree : Tree) (names : List String) : Option Node :=
  if names.isEmpty then some .dir else tree.nodes.get? names

/-- Whether names lead to a directory. -/
def isDirAt (tree : Tree) (names : List String) : Bool :=
  match tree.node? names with
  | some .dir => true
  | _ => false

/-- Names have to lead to a directory. -/
def needDir (tree : Tree) (names : List String) : Except FileFault Unit :=
  match tree.node? names with
  | some .dir => .ok ()
  | some (.file _) => .error noDirectory
  | none => .error noEntry

/-- The names on the way from the root that the pieces of a spelling lead to. Every piece needs a
directory to go on from. -/
def lead (tree : Tree) (names : List String) : List (List Char) → Except FileFault (List String)
  | [] => .ok names
  | piece :: pieces => do
    -- Even an empty piece, as a slash at the end leaves one, asks for a directory before it.
    tree.needDir names
    if piece = [] ∨ piece = ['.'] then tree.lead names pieces
    else if piece = ['.', '.'] then tree.lead names.dropLast pieces
    else tree.lead (names ++ [String.ofList piece]) pieces

/-- The names that a path leads to; the last one may not be there. -/
def resolve (tree : Tree) (path : Path) : Except FileFault (List String) :=
  match path.text.toList with
  | [] => .error noEntry
  | '/' :: rest => tree.lead [] (splitSlashes rest)
  | text => tree.lead tree.workingDir (splitSlashes text)

/-- The node that a path leads to. -/
def lookup (tree : Tree) (path : Path) : Except FileFault (List String × Node) := do
  let names ← tree.resolve path
  match tree.node? names with
  | some node => return (names, node)
  | none => throw noEntry

/-- Whether a path leads to a node. -/
def isThere (tree : Tree) (path : Path) : Bool := (tree.lookup path).isOk

/-- Whether a path leads to a directory. -/
def isDir (tree : Tree) (path : Path) : Bool :=
  match tree.lookup path with
  | .ok (_, .dir) => true
  | _ => false

/-- The bytes of a file. -/
def readBytes (tree : Tree) (path : Path) : Except FileFault ByteArray := do
  match ← tree.lookup path with
  | (_, .file bytes) => return bytes
  | (_, .dir) => throw aDirectory

/-- The text of a file. -/
def readText (tree : Tree) (path : Path) : Except FileFault String := do
  match String.fromUTF8? (← tree.readBytes path) with
  | some text => return text
  | none => throw .noText

/-- Setting a node. -/
def setNode (tree : Tree) (names : List String) (node : Node) : Tree :=
  { tree with nodes := tree.nodes.insert names node }

/-- Replacing a file: the directory takes a temporary one, which then gets the name. A slash at the end
of the name asks for a directory. -/
def replace (tree : Tree) (dir path : Path) (bytes : ByteArray) :
    Except (ReplaceStep × FileFault) Tree := do
  let during {α : Type} (step : ReplaceStep) (result : Except FileFault α) :
      Except (ReplaceStep × FileFault) α := result.mapError fun fault => (step, fault)
  -- The temporary file needs a directory, and the new name must not be one.
  let names ← during .makeTemporary (tree.resolve dir)
  during .makeTemporary (tree.needDir names)
  if path.text.toList.getLast? = some '/' then throw (.rename, noDirectory)
  let names ← during .rename (tree.resolve path)
  if tree.isDirAt names then throw (.rename, aDirectory)
  return tree.setNode names (.file bytes)

/-- The names in a directory. -/
def list (tree : Tree) (path : Path) : Except FileFault (List String) := do
  let names ← tree.resolve path
  tree.needDir names
  return tree.nodes.keys.filterMap fun key =>
    if key.dropLast = names then key.getLast? else none

/-- A spelling without the slashes at its end, unless it has nothing else. -/
def dropEndSlashes (path : Path) : Path :=
  match path.text.toList.reverse.dropWhile (· == '/') with
  | [] => path
  | reversed => ⟨String.ofList reversed.reverse⟩

/-- Making one directory where there is nothing; slashes at the end do not count. -/
def makeDir (tree : Tree) (path : Path) : Except FileFault Tree := do
  let names ← tree.resolve (dropEndSlashes path)
  match tree.node? names with
  | some _ => throw nameTaken
  | none => return tree.setNode names .dir

/-- Making a directory and those on the way to it, which are as many as `depth` at most. -/
def makeDirsTo : Nat → Tree → Path → Except FileFault Tree
  | 0, _, _ => .error noEntry
  | depth + 1, tree, path =>
    if path.isEmpty then .ok tree
    else
      let settle (tree : Tree) (fault : FileFault) : Except FileFault Tree :=
        if tree.isDir path then .ok tree else .error fault
      -- The directory is tried first, then the one that holds it, then the directory again.
      match tree.makeDir path with
      | .ok tree => .ok tree
      | .error fault =>
        if fault.trouble = .notFound then
          match path.parent? with
          | none => .error ⟨.other, "failed to create whole tree"⟩
          | some parent => do
            let tree ← makeDirsTo depth tree parent
            match tree.makeDir path with
            | .ok tree => return tree
            | .error fault => settle tree fault
        else settle tree fault

/-- Making a directory and those on the way to it. -/
def makeDirs (tree : Tree) (path : Path) : Except FileFault Tree :=
  makeDirsTo (path.components.length + 1) tree path

/-- Removing a directory with all that lies under it. -/
def removeDir (tree : Tree) (path : Path) : Except FileFault Tree := do
  match ← tree.lookup path with
  | (_, .file _) => throw noDirectory
  | (names, .dir) =>
    return { tree with nodes := tree.nodes.filter fun key _ => !names.isPrefixOf key }

/-- Removing a file. -/
def removeFile (tree : Tree) (path : Path) : Except FileFault Tree := do
  match ← tree.lookup path with
  | (names, .file _) => return { tree with nodes := tree.nodes.erase names }
  | (_, .dir) => throw aDirectory

/-- Adding a file with the directories on the way to it. -/
def addFile (tree : Tree) (path : Path) (bytes : ByteArray) : Except FileFault Tree := do
  let tree ← match path.parent? with
    | some parent => tree.makeDirs parent
    | none => .ok tree
  match tree.replace path.directory path bytes with
  | .ok tree => return tree
  | .error (_, fault) => throw fault

/-- The path from the root along names. -/
def absolute (names : List String) : Path := ⟨"/" ++ "/".intercalate names⟩

/-- The directory for temporary files. -/
def tempRoot : List String := ["tmp"]

/-- Making a directory of a fresh name. -/
def makeTempDir (tree : Tree) (start : String) : Path × Tree :=
  let names := tempRoot ++ [s!"{start}{tree.tempDirs}"]
  (absolute names, { tree with
    nodes := (tree.nodes.insertIfNew tempRoot .dir).insert names .dir
    tempDirs := tree.tempDirs + 1 })

/-- The files under the working directory, with their names from there. -/
def files (tree : Tree) : List (String × ByteArray) :=
  tree.nodes.toList.filterMap fun (names, node) =>
    match node with
    | .file bytes =>
      -- What lies outside of the working directory is not shown.
      if tree.workingDir.isPrefixOf names then
        some ("/".intercalate (names.drop tree.workingDir.length), bytes)
      else none
    | .dir => none

/-- A tree with nothing but an empty working directory. -/
def empty : Tree :=
  let names := ["work"]
  { nodes := (SortedMap.empty.insert tempRoot .dir).insert names .dir, workingDir := names }

/-- Taking the tree that an operation leaves, if it does not fail. -/
def settle {ε : Type} (result : Except ε Tree) (world : World Tree) :
    Except ε Unit × World Tree :=
  match result with
  | .ok tree => (.ok (), world.setDisk tree)
  | .error fault => (.error fault, world)

instance : Host (StateM (World Tree)) where
  readText path := fun world => (world.disk.readText path, world)
  replaceText dir path text := fun world => settle (world.disk.replace dir path text.toUTF8) world
  isThere path := fun world => (world.disk.isThere path, world)
  isDir path := fun world => (world.disk.isDir path, world)
  isListed path := fun world => (world.disk.isThere path, world)
  list path := fun world => (world.disk.list path, world)
  makeDirs path := fun world => settle (world.disk.makeDirs path) world
  removeDir path := fun world => settle (world.disk.removeDir path) world
  makeTempDir start := fun world =>
    let (path, tree) := world.disk.makeTempDir start
    (.ok path, world.setDisk tree)
  workingDir := fun world => (.ok (absolute world.disk.workingDir), world)
  makeWatcher := fun world => (.ok (), world)
  watch _ := fun world => (.ok (), world)

end Tree

end MessageCatalog
