import MessageCatalog.Config
import MessageCatalog.Disk.Host

/-! Settings come from a file that is named, or from the default one when it is there. -/

namespace MessageCatalog

namespace Config

variable {m : Type → Type} [Monad m] [Host m]

/-- The settings of a file. -/
def load (path : Path) : m (Outcome Config) := do
  let text ← Host.readText path
  return FileFault.within ("Failed to read config file: " ++ path.text) text >>= parseFile path

/-- The settings of a named file; without a name those of the default file, if it is there. -/
def loadOrDefault : Option Path → m (Outcome Config)
  | some path => load path
  | none => do
    if ← Host.isThere defaultFile then load defaultFile else return .ok {}

end Config

/-- The limit of a log by the name of a level; without a name it stays. -/
def initLog {m : Type → Type} [Monad m] [Console m] : Option String → m (Outcome Unit)
  | none => return .ok ()
  | some name =>
    match Level.ofText? name with
    | some level => do
      Console.setLimit level
      return .ok ()
    | none => return .error (.of (.unknownLevel name))

end MessageCatalog
