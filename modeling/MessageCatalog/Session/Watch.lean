import MessageCatalog.Session.Basic
import MessageCatalog.Text.Quoted

/-! A session follows a watcher of files; each path it tells is taken as the session knows it. -/

namespace MessageCatalog

/-- What a watcher of files tells at one time. -/
inductive Events where
  | changed (paths : List Path)
  | trouble (text : String)
  deriving DecidableEq, Repr, Inhabited

namespace Session

/-- A path concerns a session when it is a source, or was one. -/
def isConcernedBy (session : Session) (path : Path) : Bool :=
  session.isSource path || session.isTracked path

/-- A told path as the session knows it: as seen from a root, or as it was told. -/
def resolve? (session : Session) (root path : Path) : Option Path :=
  [root.relativeTo path, path].find? session.isConcernedBy

/-- The told paths that concern a session, each once; the last spelling of a path counts. -/
def resolveAll (session : Session) (root : Path) (paths : List Path) : List Path :=
  (SortedSet.ofElements (paths.filterMap (session.resolve? root)).reverse).elements

/-- How trouble with a watcher is told. -/
def troubleMessage (text : String) : String :=
  "Watch error: Error \x7b kind: Generic(" ++ quoted text ++ "), paths: [] \x7d"

/-- A character that counts as one of a wildcard. Braces do too, which are characters as others for the
matching. -/
def isWildChar (c : Char) : Bool := ['*', '?', '[', '\x7b'].contains c

/-- A component of a pattern that may stand for several names. -/
def isWild (component : Component) : Bool := component.text.toList.any isWildChar

/-- The start of a pattern, in front of its first component with a wildcard. A pattern without wildcards
names a file, which lies in a directory. -/
def watchPrefix (pattern : String) : Path :=
  let components := (Path.mk pattern).components
  let fixed := components.takeWhile (!isWild ·)
  let path := Path.ofComponents fixed
  if fixed.length = components.length then path.parent?.getD path else path

/-- The directory in which all that a pattern matches lies. -/
def watchDir (pattern : String) : Path :=
  let dir := watchPrefix pattern
  if dir.isEmpty then ⟨"."⟩ else dir

section

variable {m : Type → Type} [Monad m] [FileSystem m] [Console m]

/-- The directories to watch for patterns, those that are there. -/
def watchDirs (patterns : List String) : m (SortedSet Path) := do
  return .ofElements (← keepPaths FileSystem.isDir (patterns.map watchDir))

/-- A report as a step of a session. -/
def reportStep : SessionM m Unit := do
  monadLift (report (← get) : m Unit)

/-- What a watcher tells brings a session up to date. Trouble with the watcher is no failure. -/
def handle (root : Path) : Events → SessionM m Unit
  | .trouble text => logStep .error (troubleMessage text)
  | .changed paths => do
    -- No path at all would mean that everything may have changed.
    let changed := (← get).resolveAll root paths
    unless changed.isEmpty do
      for path in changed do
        logStep .debug ("Changed: " ++ path.text)
      if ← update (some changed) then reportStep

/-- The first update of a session that follows a watcher. -/
def startWatching : SessionM m Unit := do
  let _ ← update none
  reportStep
  logStep .info "Watching for changes... (Ctrl+C to stop)"

/-- The first update, and then all that a watcher tells, until something fails. -/
def follow (root : Path) (told : List Events) : SessionM m Unit := do
  startWatching
  told.forM (handle root)

end

end Session

end MessageCatalog
