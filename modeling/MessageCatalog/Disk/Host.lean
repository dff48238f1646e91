import MessageCatalog.Disk.Basic

/-! The file system of a machine: what it offers, how patterns walk through it, and how it is told
what was being done when something failed. -/

namespace MessageCatalog

/-- A file is replaced in three steps, each of which can fail. -/
inductive ReplaceStep where
  | makeTemporary
  | write
  | rename
  deriving DecidableEq, Repr, Inhabited

/-- What a machine does with files and directories. -/
class Host (m : Type → Type) where
  readText : Path → m (Except FileFault String)
  /-- Giving a file a text by way of a temporary file in a directory, so that no one sees a part. -/
  replaceText : Path → Path → String → m (Except (ReplaceStep × FileFault) Unit)
  isThere : Path → m Bool
  isDir : Path → m Bool
  /-- Whether a directory lists a name, even one that leads nowhere. -/
  isListed : Path → m Bool
  /-- The names in a directory. -/
  list : Path → m (Except FileFault (List String))
  makeDirs : Path → m (Except FileFault Unit)
  removeDir : Path → m (Except FileFault Unit)
  makeTempDir : String → m (Except FileFault Path)
  workingDir : m (Except FileFault Path)
  /-- Making a watcher, which watches nothing yet. -/
  makeWatcher : m (Except FileFault Unit)
  /-- Watching a directory with all that lies under it. -/
  watch : Path → m (Except FileFault Unit)

/-- The bytes of a file are no text. -/
def FileFault.noText : FileFault := ⟨.invalidData, "stream did not contain valid UTF-8"⟩

/-- A fault as a failure while something was being done. -/
def FileFault.within {α : Type} (context : String) (result : Except FileFault α) : Outcome α :=
  result.mapError fun fault => (Failure.of (.file fault)).within context

namespace Glob

/-- A path that a walk has come to. -/
structure Place where
  path : Path
  isDir : Bool

/-- What a walk has still to look at. -/
inductive Item where
  /-- A place that matches. -/
  | found (place : Place)
  /-- A place whose name has to match the first of some patterns. -/
  | pending (place : Place) (patterns : List Pattern)
  /-- A directory that could not be read. -/
  | unreadable (path : Path) (fault : FileFault)

/-- The text of a pattern without wildcards. -/
def literal? (pattern : Pattern) : Option String :=
  (pattern.tokens.mapM fun (token : GlobToken) =>
    match token with
    | .char c => some c
    | _ => none).map String.ofList

/-- A pattern for any number of directories. -/
def isRecursive (pattern : Pattern) : Bool := pattern.tokens.contains .anyDirectories

section

variable {m : Type → Type} [Monad m] [Host m]

/-- The place at a path. -/
def placeAt (path : Path) : m Place := return ⟨path, ← Host.isDir path⟩

/-- A name in a directory; in the working directory the name alone. -/
def inside (dir : Path) (name : String) : Path :=
  if dir.same ⟨"."⟩ then ⟨name⟩ else dir.join ⟨name⟩

/-- What has to be looked at for patterns inside a place, in order. A pattern without wildcards names
what it matches, and any other is for the names in the directory. -/
def itemsIn : List Pattern → Place → m (List Item)
  | [], _ => return []
  | pattern :: rest, place => do
    let enter (path : Path) : m (List Item) := do
      let place ← placeAt path
      if rest.isEmpty then return [.found place] else itemsIn rest place
    match literal? pattern with
    | some name =>
      -- A plain name is looked up and the directory is not listed.
      let path := inside place.path name
      let isKnown ← if name = "." ∨ name = ".." then pure place.isDir else Host.isListed path
      if isKnown then enter path else return []
    | none =>
      if place.isDir then
        match ← Host.list place.path with
        | .error fault => return [.unreadable place.path fault]
        | .ok names =>
          let children ← (names.mergeSort fun a b => (compare a b).isLE).mapM fun name => do
            return Item.pending (← placeAt (inside place.path name)) (pattern :: rest)
          -- The two special names are no entries of a listing, and a pattern has to spell the dot.
          let special (name : String) : m (List Item) :=
            if pattern.tokens.head? = some (.char '.') ∧ pattern.matchesLoosely ⟨name⟩ then
              enter (place.path.join ⟨name⟩)
            else return []
          return (← special "..") ++ (← special ".") ++ children
      else return []

/-- The paths that items lead to, in order; the walk goes down no further than a depth. -/
def follow (needsDir : Bool) : Nat → List Item → m (List (Except (Path × FileFault) Path))
  | 0, _ => return []
  | depth + 1, items => do
    let found ← items.mapM fun item => do
      let matchName (place : Place) (patterns : List Pattern) :
          m (List (Except (Path × FileFault) Path)) :=
        match patterns, place.path.fileName? with
        | pattern :: rest, some name =>
          if pattern.matchesLoosely ⟨name⟩ then
            if rest.isEmpty then
              return if needsDir && !place.isDir then [] else [.ok place.path]
            else do follow needsDir depth (← itemsIn rest place)
          else return []
        | _, _ => return []
      match item with
      | .found place => return if needsDir && !place.isDir then [] else [.ok place.path]
      | .unreadable path fault => return [.error (path, fault)]
      | .pending place patterns =>
        match patterns with
        | [] => return []
        | pattern :: rest =>
          -- Several patterns for any number of directories are one of them.
          if isRecursive pattern then
            let rest := rest.dropWhile isRecursive
            if place.isDir then
              let below ← itemsIn (pattern :: rest) place
              let here ← if rest.isEmpty then pure [.ok place.path] else matchName place rest
              return here ++ (← follow needsDir depth below)
            else if rest.isEmpty then return []
            else matchName place rest
          else matchName place patterns
    return found.flatten

/-- No path of a machine is longer, so no walk goes deeper. -/
def maxDepth : Nat := 4096

/-- The components of a pattern. The end of a slash at the end is none, and a pattern that is nothing
but a root has an empty one. -/
def componentPatterns (text : List Char) : Outcome (List Pattern) := do
  let relative := if text.head? = some '/' then text.drop 1 else text
  let pieces := splitSlashes relative
  -- Behind a slash at the end stands an empty piece, which asks for a directory only.
  let pieces := if pieces.getLast? = some [] then pieces.dropLast else pieces
  let pieces := if relative.isEmpty then [[]] else pieces
  pieces.mapM fun piece =>
    (Pattern.parse (String.ofList piece)).mapError fun fault => .of (.pattern fault)

/-- The paths that a pattern leads to, from the root or from the working directory. -/
def walk (text : String) : m (Outcome (List (Except (Path × FileFault) Path))) := do
  -- The whole pattern is compiled first, so that its fault is told by its own positions.
  let compiled : Outcome (List Pattern) := do
    let _ ← (Pattern.parse text).mapError fun fault => Failure.of (.pattern fault)
    componentPatterns text.toList
  match compiled with
  | .error failure => return .error (failure.within ("Invalid glob pattern: " ++ text))
  | .ok patterns =>
    let isAbsolute := text.toList.head? = some '/'
    let start ← placeAt (if isAbsolute then ⟨"/"⟩ else ⟨"."⟩)
    let needsDir := text.toList.getLast? = some '/'
    -- A step goes down by one level, so the pieces and the depth bound the walk.
    return .ok (← follow needsDir (patterns.length + maxDepth) (← itemsIn patterns start))

variable [Console m]

/-- The paths that patterns lead to and that are not ignored. What cannot be read is warned about. -/
def walkAll (ignore : List Pattern) : List String → SortedSet Path → m (Outcome (SortedSet Path))
  | [], found => return .ok found
  | text :: texts, found => do
    match ← walk text with
    | .error failure => return .error failure
    | .ok results =>
      let found ← results.foldlM (fun found result =>
        match result with
        | .ok path =>
          return if ignore.any (·.matchesLoosely path) then found else SortedSet.add found path
        -- One path that cannot be read does not end the search.
        | .error (path, fault) => do
          log .warn ("Skipping unreadable path: attempting to read `" ++ path.text ++
            "` resulted in an error: " ++ fault.text)
          return found) found
      walkAll ignore texts found

end

end Glob

/-- The directory in which a file lies, as it is named to the machine. -/
def Path.directory (path : Path) : Path :=
  match path.parent? with
  | some parent => if parent.isEmpty then ⟨"."⟩ else parent
  | none => ⟨"."⟩

instance {m : Type → Type} [Monad m] [Host m] [Console m] : FileSystem m where
  read path := FileFault.within ("Failed to read " ++ path.text) <$> Host.readText path
  write path text := do
    let dir := path.directory
    let context : ReplaceStep → String
      | .makeTemporary => "Failed to create temp file in " ++ dir.text
      | .write => "Failed to write " ++ path.text
      | .rename => "Failed to replace " ++ path.text
    return (← Host.replaceText dir path text).mapError fun (step, fault) =>
      (Failure.of (.file fault)).within (context step)
  isThere := Host.isThere
  isDir := Host.isDir
  makeDir path :=
    FileFault.within ("Failed to create directory " ++ path.text) <$> Host.makeDirs path
  removeDir path :=
    FileFault.within ("Failed to remove directory " ++ path.text) <$> Host.removeDir path
  makeTempDir start :=
    FileFault.within "Failed to create temporary directory" <$> Host.makeTempDir start
  glob patterns ignore := do
    match compilePatterns ignore with
    | .error failure => return .error failure
    | .ok ignore => Glob.walkAll ignore patterns ∅

end MessageCatalog
