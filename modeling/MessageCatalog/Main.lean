import MessageCatalog.Program.Run

/-! The program on the machine that it runs on. -/

namespace MessageCatalog

/-- Steps on a machine, with the limit of the log. -/
abbrev Terminal := StateT Level IO

namespace Terminal

instance : Console Terminal where
  limit := get
  setLimit := set
  print
    | .out, text => do
      let stream ← IO.getStdout
      stream.putStr text
      stream.flush
    | .err, text => do
      let stream ← IO.getStderr
      stream.putStr text
      stream.flush

/-- The troubles that the system numbers, with what it calls them. -/
def knownTroubles : List (UInt32 × FileTrouble × String) := [
  (1, .permissionDenied, "Operation not permitted"),
  (2, .notFound, "No such file or directory"),
  (13, .permissionDenied, "Permission denied"),
  (17, .alreadyExists, "File exists"),
  (20, .notADirectory, "Not a directory"),
  (21, .isADirectory, "Is a directory"),
  (39, .other, "Directory not empty")]

/-- Trouble by its number, which may be given with the sign turned, and its description. -/
def numbered (code : UInt32) (details : String) : FileFault :=
  let number := min code (0 - code)
  let (trouble, name) := (knownTroubles.lookup number).getD (.other, details)
  ⟨trouble, name ++ s!" (os error {number})"⟩

/-- An error of the system as a fault. -/
def faultOf : IO.Error → FileFault
  | .alreadyExists _ code details => numbered code details
  | .otherError code details => numbered code details
  | .resourceBusy code details => numbered code details
  | .resourceVanished code details => numbered code details
  | .unsupportedOperation code details => numbered code details
  | .hardwareFault code details => numbered code details
  | .unsatisfiedConstraints code details => numbered code details
  | .illegalOperation code details => numbered code details
  | .protocolError code details => numbered code details
  | .timeExpired code details => numbered code details
  | .interrupted _ code details => numbered code details
  | .noFileOrDirectory _ code details => numbered code details
  | .invalidArgument _ code details => numbered code details
  | .permissionDenied _ code details => numbered code details
  | .resourceExhausted _ code details => numbered code details
  | .inappropriateType _ code details => numbered code details
  | .noSuchThing _ code details => numbered code details
  | .unexpectedEof => ⟨.other, "unexpected end of file"⟩
  | .userError text => ⟨.other, text⟩

/-- An operation of the system, whose errors are faults. -/
def attempt {α : Type} (operation : IO α) : Terminal (Except FileFault α) := do
  match ← operation.toBaseIO with
  | .ok value => return .ok value
  | .error error => return .error (faultOf error)

/-- The names in a directory of the system. -/
def listNames (dir : Path) : IO (List String) := do
  return (← (← IO.FS.realPath dir.text).readDir).toList.map (·.fileName)

/-- A question to the system; where it has no answer the answer is no. -/
def ask (question : IO Bool) : Terminal Bool := return (← attempt question).toOption.getD false

/-- Giving a file a text by way of a temporary one with a fresh name. -/
def replaceText (dir path : Path) (text : String) : IO (Except (ReplaceStep × FileFault) Unit) := do
  let during (step : ReplaceStep) (operation : IO Unit) :
      ExceptT (ReplaceStep × FileFault) IO Unit := do
    match ← (operation.toBaseIO : IO _) with
    | .ok () => return
    | .error error => throw (step, faultOf error)
  let temporary := (dir / s!".tmp{← IO.monoNanosNow}").text
  (do
    during .makeTemporary (IO.FS.writeFile temporary "")
    during .write (IO.FS.writeFile temporary text)
    during .rename (IO.FS.rename temporary path.text)).run

/-- Making a directory for temporary files with a fresh name. -/
def makeTempDir (start : String) : IO Path := do
  let parent := (← IO.getEnv "TMPDIR").getD "/tmp"
  let path : Path := (Path.mk parent) / s!"{start}{← IO.monoNanosNow}"
  IO.FS.createDir path.text
  return path

instance : Host Terminal where
  readText path := do
    match ← attempt (IO.FS.readBinFile path.text) with
    | .error fault => return .error fault
    | .ok bytes =>
      match String.fromUTF8? bytes with
      | some text => return .ok text
      | none => return .error .noText
  replaceText dir path text := (replaceText dir path text : IO _)
  isThere path := ask do (← IO.FS.realPath path.text).pathExists
  isDir path := ask do (← IO.FS.realPath path.text).isDir
  isListed path := ask do
    return (← listNames path.directory).any fun name => some name == path.fileName?
  list path := attempt (listNames path)
  makeDirs path := attempt (IO.FS.createDirAll path.text)
  removeDir path := attempt (IO.FS.removeDirAll path.text)
  makeTempDir start := attempt (makeTempDir start)
  workingDir := attempt (return ⟨(← IO.currentDir).toString⟩)
  -- Files are looked at again and again, so there is nothing to make.
  makeWatcher := return .ok ()
  watch _ := return .ok ()

/-- The texts of the files under a directory, no deeper than a depth. -/
def snapshot : Nat → Path → IO (List (Path × UInt64))
  | 0, _ => return []
  | depth + 1, dir => do
    let names ← try listNames dir catch _ => pure []
    let found ← names.mapM fun name => do
      let path := dir / name
      try
        let real ← IO.FS.realPath path.text
        if ← real.isDir then snapshot depth path
        else return [(path, hash (← IO.FS.readBinFile path.text))]
      catch _ => return []
    return found.flatten

/-- The files under directories. -/
def snapshotAll (dirs : List Path) : IO (SortedMap Path UInt64) := do
  return .ofList (← dirs.mapM (snapshot 64)).flatten

/-- The paths at which two states of files differ. -/
def changedPaths (before after : SortedMap Path UInt64) : List Path :=
  let fresh := after.keys.filter fun path => before.get? path != after.get? path
  fresh ++ before.keys.filter fun path => !after.contains path

/-- The time between two looks at the files, in milliseconds. -/
def pause : UInt32 := 300

/-- Looking at the files again and again, and telling what has changed. -/
partial def watchFrom (root : Path) (dirs : List Path) (before : SortedMap Path UInt64) :
    SessionM Terminal Unit := do
  IO.sleep pause
  let after ← (snapshotAll dirs : IO _)
  let changed := changedPaths before after
  unless changed.isEmpty do
    Session.handle root (.changed (changed.map root.join))
  watchFrom root dirs after

/-- Watching directories without end. -/
def follow (root : Path) (dirs : List Path) : SessionM Terminal Unit := do
  watchFrom root dirs (← (snapshotAll dirs : IO _))

end Terminal

end MessageCatalog

/-- The program with the arguments of its command line. -/
def main (arguments : List String) : IO UInt32 := do
  let (code, _) ← (MessageCatalog.Program.run MessageCatalog.Terminal.follow arguments :
    MessageCatalog.Terminal Nat).run .info
  return code.toUInt32
