import MessageCatalog.Config
import MessageCatalog.Session.Index
import MessageCatalog.Session.WriteCache

/-! A session keeps the sources, the catalogs and the bundles of a project in step. -/

namespace MessageCatalog

open Json (Value)

/-- What the last writing did. -/
structure Summary where
  filesScanned : Nat := 0
  keys : Nat := 0
  scanFailures : Nat := 0
  newEntries : Nat := 0
  unusedEntries : Nat := 0
  catalogWrites : Nat := 0
  bundleWrites : Nat := 0
  deriving DecidableEq, Repr, Inhabited

/-- The state of a session. -/
structure Session where
  config : Config
  functions : List Source.Function
  included : List Pattern
  ignored : List Pattern
  /-- The directory of the catalogs. -/
  templateDir : Path
  /-- The directory of the catalogs when the session made it for itself. -/
  scratchDir : Option Path
  /-- The texts of the tracked files. -/
  sources : SortedMap Path String := ∅
  index : Index := {}
  catalogCache : WriteCache := ∅
  /-- The known texts of bundles, by target. -/
  bundleCaches : SortedMap Path WriteCache := ∅
  hasRead : Bool := false
  summary : Summary := {}

/-- Steps of a session; what has changed by a failure stays changed. -/
abbrev SessionM (m : Type → Type) := ExceptT Failure (StateT Session m)

namespace Session

/-- How the names of scratch directories start. -/
def scratchStart : String := "locale-sync-"

/-- The directory inside a target for its bundles. -/
def bundleDir : String := ".locales"

/-- A path is a source when some pattern includes it and none leaves it out. -/
def isSource (session : Session) (path : Path) : Bool :=
  session.included.any (·.matchesPath path) && !session.ignored.any (·.matchesLoosely path)

/-- A path is tracked when its text is kept. -/
def isTracked (session : Session) (path : Path) : Bool := session.sources.contains path

/-- The file of a locale's catalog. -/
def catalogPath (session : Session) (locale : String) : Path :=
  session.templateDir / (locale ++ "." ++ session.config.format.name)

/-- The layout of documents, without regard to a file that is there. -/
def style (session : Session) : Json.Style := .ofWidth session.config.indentation

section

variable {m : Type → Type} [Monad m] [FileSystem m] [Console m]

/-- A session begins with settings that pass; without a directory for catalogs it makes one. -/
def new (config : Config) : m (Outcome Session) := do
  -- All that can be refused is refused before a directory is made.
  let checked : Outcome (List Pattern × List Pattern) := do
    config.validate
    return (← compilePatterns config.input, ← compilePatterns config.ignore)
  match checked with
  | .error failure => return .error failure
  | .ok (included, ignored) =>
    let session (dir : Path) (scratch : Option Path) : Session := {
      config, included, ignored
      functions := Source.Function.ofBases config.functions
      templateDir := dir
      scratchDir := scratch }
    match config.templateDir? with
    | some dir => return .ok (session dir none)
    | none =>
      match ← FileSystem.makeTempDir scratchStart with
      | .error failure => return .error failure
      | .ok dir =>
        log .debug ("Keeping catalogs in " ++ dir.text)
        return .ok (session dir (some dir))

/-- A file operation as a step of a session. -/
def perform {α : Type} (operation : m (Outcome α)) : SessionM m α := ExceptT.mk operation

/-- A log line as a step of a session. -/
def logStep (level : Level) (message : String) : SessionM m Unit :=
  monadLift (log level message : m Unit)

/-- A tracked file is dropped. The answer says whether it was tracked. -/
def dropSource (path : Path) : SessionM m Bool := do
  let session ← get
  if session.isTracked path then
    logStep .debug ("Removed " ++ path.text)
    set { session with
      sources := session.sources.erase path
      index := session.index.dropFile path }
    return true
  else return false

/-- A file is read, and its text kept. A file that is gone is dropped. The answer says whether
anything changed. -/
def loadSource (path : Path) : SessionM m Bool := do
  match ← monadLift (FileSystem.read path : m (Outcome String)) with
  | .error failure =>
    if failure.isNotFound then dropSource path
    else throw (failure.within ("Failed to read source " ++ path.text))
  | .ok text =>
    -- The text that is tracked already is no change.
    let session ← get
    if session.sources.get? path = some text then return false
    logStep .debug ("Loaded " ++ path.text)
    set { session with sources := session.sources.insert path text }
    return true

/-- A step for each path in order; the answer says whether any of them changed something. -/
def anyChange (step : Path → SessionM m Bool) : List Path → SessionM m Bool
  | [] => return false
  | path :: paths => do
    let changed ← step path
    let others ← anyChange step paths
    return changed || others

/-- The index is made anew from all sources. -/
def rebuild : SessionM m Unit := do
  let session ← get
  let scans := Index.scans session.functions session.sources
  -- What the scans have found is told before the index is used.
  for (path, scanned) in scans do
    for (level, message) in Index.scanLog path scanned do
      logStep level message
  set { session with index := .ofScans scans }

/-- Those of some paths that pass a test of the file system. -/
def keepPaths (test : Path → m Bool) : List Path → m (List Path)
  | [] => return []
  | path :: paths => do
    let passes ← test path
    let others ← keepPaths test paths
    return if passes then path :: others else others

/-- Reading every source: tracked files that are no sources any more are dropped. -/
def readAll : SessionM m Bool := do
  let session ← get
  let matching ← perform (FileSystem.glob session.config.input session.config.ignore)
  let files ← monadLift
    (keepPaths (fun path => return !(← FileSystem.isDir path)) matching.elements : m (List Path))
  -- What is not found any more goes first, then every file found is read.
  let found := SortedSet.ofElements files
  let dropped ← anyChange dropSource (session.sources.keys.filter fun path => !found.contains path)
  let loaded ← anyChange loadSource found.elements
  return dropped || loaded

/-- Reading some paths: those that are gone are dropped, and so are those that are no sources. -/
def readSome (paths : List Path) : SessionM m Bool := do
  -- All paths are looked up before any of them is read.
  let present ← monadLift
    (paths.mapM fun path => return (path, ← FileSystem.isThere path) : m (List (Path × Bool)))
  let gone := present.filterMap fun (path, isThere) => if isThere then none else some path
  let there := present.filterMap fun (path, isThere) => if isThere then some path else none
  let dropped ← anyChange dropSource gone
  let loaded ← anyChange (fun path => do
    if (← get).isSource path then loadSource path else dropSource path) there
  return dropped || loaded

/-- Reading what may have changed; the first time, and without a list of paths, every source is read.
The answer says whether anything changed, and the first time it always has. -/
def read (changed : Option (List Path)) : SessionM m Bool := do
  let first := !(← get).hasRead
  -- A first reading that fails is not the first one again.
  modify fun session => { session with hasRead := true }
  let changes ← match changed.filter fun paths => !first && !paths.isEmpty with
    | none => readAll
    | some paths => readSome paths
  if first || changes then rebuild
  return first || changes

/-- Giving a file a text by way of a cache, which is part of the session. -/
def writeCached (cache : Session → WriteCache) (setCache : Session → WriteCache → Session)
    (path : Path) (text : String) : SessionM m Bool := do
  let (written, updated) ← monadLift (WriteCache.writeIfChanged (cache (← get)) path text :
    m (Outcome Bool × WriteCache))
  modify fun session => setCache session updated
  liftExcept written
where
  /-- An outcome that is there already. -/
  liftExcept {α : Type} : Outcome α → SessionM m α
    | .ok value => return value
    | .error failure => throw failure

/-- The text of a catalog; one that is not there is blank. -/
def readCatalog (path : Path) : SessionM m String := do
  match ← monadLift (FileSystem.read path : m (Outcome String)) with
  | .ok text => return text
  | .error failure => if failure.isNotFound then return "" else throw failure

/-- A catalog fault as a failure while something was being done with a file. -/
def inCatalog {α : Type} (doing : String) (path : Path) (result : Except CatalogFault α) :
    SessionM m α :=
  match result with
  | .ok value => return value
  | .error fault => throw ((Failure.of (.catalog fault)).within (doing ++ " " ++ path.text))

/-- Merging the catalog of a locale with the messages in use, and writing it when it changes. The
ends of its lines stay as they are. -/
def writeCatalog (locale : String) : SessionM m (List Entry) := do
  let session ← get
  let path := session.catalogPath locale
  -- The catalog is read each time, for a translator may have changed it.
  let stored ← readCatalog path
  let entries ← inCatalog "Failed to parse catalog" path (session.config.format.parse stored)
  let merged := merge entries session.index.live (session.config.pluralFormsFor locale)
  let style := { session.style with crlf := Json.usesCrlf stored.toList }
  let text ← inCatalog "Failed to serialize catalog" path
    (session.config.format.stringify style merged)
  let written ← writeCached catalogCache (fun session cache =>
    { session with catalogCache := cache }) path text
  modify fun session => { session with summary := { session.summary with
    catalogWrites := session.summary.catalogWrites + written.toNat
    newEntries := session.summary.newEntries + countStatus merged .new
    unusedEntries := session.summary.unusedEntries + countStatus merged .unused } }
  return merged

/-- The catalogs of all locales, each with its merged entries. -/
def writeCatalogs : List String → SortedMap String (List Entry) →
    SessionM m (SortedMap String (List Entry))
  | [], merged => return merged
  | locale :: locales, merged => do
    let entries ← writeCatalog locale
    writeCatalogs locales (merged.insert locale entries)

/-- The sources that belong to each target: those that lie under it, and those that lie under no
target at all. -/
def filesByTarget (targets : List Path) (sources : List Path) : SortedMap Path (List Path) :=
  .ofList (targets.map fun target => (target, sources.filter fun source =>
    source.isUnder target || !targets.any source.isUnder))

/-- The translations of some keys, by key. -/
def bundle (entries : List Entry) (keys : SortedSet Key) : SortedMap String Translation :=
  .ofList ((entries.filter fun entry => entry.isTranslated && keys.contains entry.key).map
    fun entry => (entry.key.text, entry.translation))

/-- A bundle as a document. -/
def bundleDocument (bundle : SortedMap String Translation) : Value String :=
  .object (bundle.toList.map fun (key, translation) => (key, translation.document))

/-- The keys that some files use. -/
def usedKeys (index : Index) (files : List Path) : SortedSet Key :=
  .ofElements (files.flatMap fun file => ((index.keysByFile.get? file).map (·.elements)).getD [])

/-- The files for a target with their texts: a bundle for each locale, and all of them in one. -/
def bundleFiles (style : Json.Style) (merged : SortedMap String (List Entry)) (index : Index)
    (target : Path) (files : List Path) : List (Path × String) :=
  let dir := target / bundleDir
  let keys := usedKeys index files
  let bundles := merged.toList.map fun (locale, entries) =>
    (locale, bundleDocument (bundle entries keys))
  let text (document : Value String) : String := String.ofList (Json.write style document)
  (bundles.map fun (locale, document) => (dir / (locale ++ ".json"), text document)) ++
    [(dir / "index.json", text (.object bundles))]

/-- The target that a bundle belongs to. -/
def targetOf (path : Path) : Path := (path.parent?.bind Path.parent?).getD ⟨""⟩

/-- Writing files of bundles, those that change. -/
def writeBundleFiles : List (Path × String) → SessionM m Unit
  | [] => return
  | (path, text) :: files => do
    let target := targetOf path
    -- Each target has a cache of its own, which is made when it is first needed.
    let cache (session : Session) : WriteCache := (session.bundleCaches.get? target).getD ∅
    let written ← writeCached cache (fun session cache =>
      { session with bundleCaches := session.bundleCaches.insert target cache }) path text
    modify fun session => { session with summary := { session.summary with
      bundleWrites := session.summary.bundleWrites + written.toNat } }
    writeBundleFiles files

/-- Writing the bundles of all targets. -/
def writeBundles (merged : SortedMap String (List Entry)) : SessionM m Unit := do
  let session ← get
  -- All texts are made before the first one is written.
  let matching ← perform (FileSystem.glob session.config.targets session.config.ignore)
  let targets ← monadLift (keepPaths FileSystem.isDir matching.elements : m (List Path))
  let files := filesByTarget targets session.sources.keys
  writeBundleFiles (files.toList.flatMap fun (target, files) =>
    bundleFiles session.style merged session.index target files)

/-- Writing catalogs and bundles. The answer says whether any file was written. -/
def write : SessionM m Bool := do
  -- The counts of writes begin at zero.
  modify fun session => { session with summary := {
    filesScanned := session.sources.size
    keys := session.index.live.messages.size
    scanFailures := session.index.failures.size } }
  let merged ← writeCatalogs (← get).config.locales ∅
  writeBundles merged
  let summary := (← get).summary
  return decide (0 < summary.catalogWrites + summary.bundleWrites)

/-- Reading what may have changed, and writing when it has. -/
def update (changed : Option (List Path)) : SessionM m Bool := do
  if ← read changed then
    -- Whether anything was written does not matter to the answer.
    let _ ← write
    return true
  else
    logStep .debug "No source changes"
    return false

/-- The end of a session removes the directory that it made for itself. -/
def close : SessionM m Unit := do
  -- The session forgets the directory first, so a second end does nothing.
  let session ← get
  set { session with scratchDir := none }
  if let some dir := session.scratchDir then
    if ← monadLift (FileSystem.isThere dir : m Bool) then perform (FileSystem.removeDir dir)

/-- A report of what the last writing did. -/
def report (session : Session) : m Unit := do
  let summary := session.summary
  log .info (s!"Files: {summary.filesScanned}, keys: {summary.keys}, " ++
    s!"new: {summary.newEntries}, unused: {summary.unusedEntries}, " ++
    s!"catalogs written: {summary.catalogWrites}, bundles written: {summary.bundleWrites}")
  for (path, fault) in session.index.failures.toList do
    log .warn (path.text ++ ": " ++ fault.message)

end

end Session

end MessageCatalog
