import MessageCatalog.Disk.Host
import MessageCatalog.Session.Watch

/-! A run that goes on as long as files are watched. -/

namespace MessageCatalog

namespace Watching

variable {m : Type → Type} [Monad m] [Host m] [Console m]

/-- The start of a run, with its session. -/
def opening (config : Config) : m (Outcome Session) := do
  putLine "=== locale-sync watch ===\n"
  Session.new config

/-- Watching each of some directories; the first one that cannot be watched stops it. -/
def watchAll : List Path → m (Outcome Unit)
  | [] => return .ok ()
  | dir :: dirs => do
    log .info ("Watching: " ++ dir.text)
    match FileFault.within ("Failed to watch directory: " ++ dir.text) (← Host.watch dir) with
    | .error failure => return .error failure
    | .ok () => watchAll dirs

/-- A watcher for all that patterns match. The answer is the directory from which paths are told, and
the directories that are watched. -/
def prepare (input : List String) : m (Outcome (Path × List Path)) := do
  match FileFault.within "Failed to resolve working directory" (← Host.workingDir) with
  | .error failure => return .error failure
  | .ok root =>
    match FileFault.within "Failed to create file watcher" (← Host.makeWatcher) with
    | .error failure => return .error failure
    | .ok () =>
      let dirs := (← Session.watchDirs input).elements
      -- Patterns may lead to no directory that is there.
      if dirs.isEmpty then return .error (.of .nothingToWatch)
      match ← watchAll dirs with
      | .error failure => return .error failure
      | .ok () => return .ok (root, dirs)

/-- Bringing a session up to date as long as a watcher tells changes, and ending it then; it ends also
when an update fails, and then the failure of the update counts. -/
def followAll (session : Session) (follow : SessionM m Unit) : m (Outcome Unit) := do
  let (outcome, session) ← (do
    Session.startWatching
    follow : SessionM m Unit).run session
  let (closed, _) ← Session.close.run session
  -- The session is closed either way, and the failure of the updates is told first.
  return do
    outcome
    closed

/-- A run that follows a watcher from some directories on. What the watcher tells comes to the session
by `follow`, which is given the root of the told paths and the directories. Without a watcher, or with
nothing to watch, the session does not end. -/
def run (follow : Path → List Path → SessionM m Unit) (config : Config) : m (Outcome Unit) := do
  match ← opening config with
  | .error failure => return .error failure
  | .ok session =>
    match ← prepare config.input with
    | .error failure => return .error failure
    | .ok (root, dirs) => followAll session (follow root dirs)

end Watching

end MessageCatalog
