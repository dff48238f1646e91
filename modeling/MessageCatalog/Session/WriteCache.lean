import MessageCatalog.Disk.Basic

/-! A file is written only when its text differs from the last one known. -/

namespace MessageCatalog

/-- The texts that files are known to have. -/
abbrev WriteCache := SortedMap Path String

namespace WriteCache

variable {m : Type → Type} [Monad m] [FileSystem m] [Console m]

/-- Writing a text that is not on the disk yet: the directory is made first. -/
def place (path : Path) (text : String) : m (Outcome Unit) := do
  -- A path that is nothing but a name lies in the working directory, which is there.
  let made ← match path.parent? with
    | some parent => if parent.isEmpty then pure (.ok ()) else FileSystem.makeDir parent
    | none => pure (.ok ())
  match made with
  | .error failure => return .error failure
  | .ok () =>
    match ← FileSystem.write path text with
    | .error failure => return .error (failure.within ("Failed to write " ++ path.text))
    | .ok () =>
      log .info ("Wrote " ++ path.text)
      return .ok ()

/-- Giving a file a text. The disk is read when the text is not the last one known, and written when
it is not the one read. The answer says whether it was written. -/
def writeIfChanged (cache : WriteCache) (path : Path) (text : String) :
    m (Outcome Bool × WriteCache) := do
  -- A text that is known to be there is neither read nor written.
  if cache.get? path = some text then return (.ok false, cache)
  let stored ← FileSystem.read path
  match stored with
  | .ok existing =>
    if existing = text then return (.ok false, cache.insert path text)
  | .error failure =>
    unless failure.isNotFound do return (.error failure, cache)
  match ← place path text with
  | .error failure => return (.error failure, cache)
  | .ok () => return (.ok true, cache.insert path text)

end WriteCache

end MessageCatalog
