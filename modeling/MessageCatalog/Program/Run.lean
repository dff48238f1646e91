import MessageCatalog.Config.File
import MessageCatalog.Program.Arguments
import MessageCatalog.Program.Extraction
import MessageCatalog.Program.Watching

/-! The program, from its arguments to its exit code. -/

namespace MessageCatalog

namespace Program

/-- The name of the program with its version. -/
def version : String := "locale-sync 0.1.0"

/-- What is printed for help. -/
def helpText : String := "\n".intercalate [
  "Keep translation catalogs in sync with the strings used in source",
  "",
  "Usage: locale-sync [OPTIONS] <COMMAND>",
  "",
  "Commands:",
  "  extract  Scan sources once and update catalogs and bundles",
  "  watch    Update catalogs and bundles whenever sources change",
  "  help     Print this message or the help of the given subcommand(s)",
  "",
  "Options:",
  "  -c, --config <CONFIG>        Path to configuration file",
  "      --log-level <LOG_LEVEL>  Log level: error, warn, info or debug (overrides config)",
  "  -h, --help                   Print help",
  "  -V, --version                Print version"]

variable {m : Type → Type} [Monad m] [Host m] [Console m]

/-- The settings for a run, with the limit of its log, which the command line sets before them. -/
def prepare (config : Option Path) (logLevel : Option String) : m (Outcome Config) := do
  match ← Config.loadOrDefault config with
  | .error failure => return .error failure
  | .ok config => return (← initLog (logLevel <|> config.logLevel)).map fun () => config

/-- A run with its settings. -/
def perform (follow : Path → List Path → SessionM m Unit) (invocation : Invocation) :
    m (Outcome Unit) := do
  match ← prepare invocation.config invocation.logLevel with
  | .error failure => return .error failure
  | .ok config =>
    match invocation.task with
    | .extract failOnScanErrors => Extraction.run config failOnScanErrors
    | .watch => Watching.run follow config

/-- The program. It exits with 1 after a failure, and with 2 when its arguments make no sense. -/
def run (follow : Path → List Path → SessionM m Unit) (arguments : List String) : m Nat := do
  match Request.ofArguments arguments with
  | .error fault =>
    putErrorLine ("error: " ++ fault.message)
    return 2
  | .ok .help =>
    putLine helpText
    return 0
  | .ok .version =>
    putLine version
    return 0
  | .ok (.run invocation) =>
    match ← perform follow invocation with
    | .error failure =>
      Console.print .err failure.report
      return 1
    | .ok () => return 0

end Program

end MessageCatalog
