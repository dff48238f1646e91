import MessageCatalog.Session.Basic
import MessageCatalog.Text.Quoted

/-! One run over all sources, with what it prints. -/

namespace MessageCatalog

/-- The name of a format in titles. -/
def Format.title : Format → String
  | .po => "Po"
  | .json => "Json"
  | .json5 => "Json5"

namespace Extraction

/-- The lines about settings. -/
def settingLines (config : Config) : List String :=
  let dir := config.templateDirectory.getD "scratch directory"
  ["Configuration:",
    "  Input patterns: " ++ quotedList config.input,
    "  Catalogs: " ++ dir ++ " (" ++ config.format.title ++ ")",
    "  Targets: " ++ quotedList config.targets,
    "  Locales: " ++ quotedList config.locales,
    "  Functions: " ++ quotedList config.functions,
    ""]

/-- The lines about files that could not be scanned. -/
def failureLines (index : Index) : List String :=
  let failures := index.failures.toList
  if failures.isEmpty then []
  else "\nFiles that could not be scanned:" ::
    failures.map (fun (path, fault) => "  " ++ path.text ++ ": " ++ fault.message) ++ [""]

/-- A line between sections. -/
def rule : String := "".pushn '-' 60

/-- The lines about the keys that a file uses. -/
def fileLines (index : Index) (path : Path) : List String :=
  match ((index.keysByFile.get? path).map (·.elements)).getD [] with
  | [] => []
  | keys => ("\n" ++ path.text) :: keys.map fun key => "  - " ++ key.text

/-- The lines about the keys of all files. -/
def keyLines (session : Session) : List String :=
  ["Keys by file:", rule] ++ session.sources.keys.flatMap (fileLines session.index) ++
    ["\n" ++ rule]

/-- The lines about what a run has done. -/
def summaryLines (summary : Summary) : List String :=
  ["\nExtraction Summary:",
    s!"  Files scanned: {summary.filesScanned}",
    s!"  Unique keys found: {summary.keys}",
    s!"  New entries: {summary.newEntries}",
    s!"  Unused entries: {summary.unusedEntries}",
    s!"  Catalogs written: {summary.catalogWrites}",
    s!"  Bundles written: {summary.bundleWrites}"] ++
  if 0 < summary.scanFailures then [s!"  Scan failures: {summary.scanFailures}"] else []

variable {m : Type → Type} [Monad m] [FileSystem m] [Console m]

/-- A session that updates everything and ends; it ends also when the update fails, and then the
failure of the update counts. -/
def updateAll (session : Session) : m (Outcome Session) := do
  -- The end comes after the update in any case, but the update's failure goes first.
  let (outcome, session) ← (Session.update none).run session
  let (closed, session) ← Session.close.run session
  return do
    let _ ← outcome
    closed
    return session

/-- The start of a run: its settings are told, and its session begins. -/
def opening (config : Config) : m (Outcome Session) := do
  putLine "=== locale-sync extract ===\n"
  (settingLines config).forM putLine
  Session.new config

/-- What a run tells behind the end of its session. Files that could not be scanned make it fail if that
is asked for. -/
def tell (session : Session) (failOnScanErrors : Bool) : m (Outcome Unit) := do
  (failureLines session.index).forM putErrorLine
  (keyLines session).forM putLine
  (summaryLines session.summary).forM putLine
  -- The report comes first, so that a failed run has told everything.
  let failures := session.summary.scanFailures
  if failOnScanErrors ∧ 0 < failures then return .error (.of (.unscannedFiles failures))
  putLine "\nDone!"
  return .ok ()

/-- One run over all sources. -/
def run (config : Config) (failOnScanErrors : Bool) : m (Outcome Unit) := do
  match ← opening config with
  | .error failure => return .error failure
  | .ok session =>
    match ← updateAll session with
    | .error failure => return .error failure
    | .ok session => tell session failOnScanErrors

end Extraction

end MessageCatalog
