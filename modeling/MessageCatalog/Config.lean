import MessageCatalog.Failure
import MessageCatalog.Format
import MessageCatalog.Text.Identifier

/-! The settings of a run: what is read, what is written, and how. -/

namespace MessageCatalog

open Json (Document)

/-- The settings of a run. -/
structure Config where
  /-- Patterns for source files. -/
  input : List String := ["src/**/*.js", "src/**/*.ts", "src/**/*.html", "src/**/*.ejs"]
  /-- Patterns for what is left out of sources and targets. -/
  ignore : List String := []
  /-- The directory of the catalogs; without one they are kept as long as a session lasts. -/
  templateDirectory : Option String := some "locales"
  /-- Patterns for the directories that receive bundles. -/
  targets : List String := []
  locales : List String := ["en"]
  format : Format := .po
  /-- The base names of the translation functions. -/
  functions : List String := ["__"]
  /-- The number of plural forms by locale. -/
  pluralForms : SortedMap String Nat := ∅
  /-- The width of an indentation in documents. -/
  indentation : Nat := 2
  logLevel : Option String := none
  deriving DecidableEq

namespace Config

/-- The file with the settings, where no other is named. -/
def defaultFile : Path := ⟨"locale-sync.json"⟩

/-- The number of plural forms of a locale for which none is set. -/
def defaultPluralForms : Nat := 2

/-- The names of the settings, in order. -/
def fieldNames : List String :=
  ["input", "ignore", "templateDirectory", "targets", "locales", "format", "functions",
    "pluralForms", "indentation", "logLevel"]

/-- Counts by name; of several with one name the last counts. -/
def countsByName? : Document → Option (SortedMap String Nat)
  | .object members =>
    (members.mapM fun (member : Option String × Document) => do
      return (← member.1, ← Json.Convention.plain.countOf? member.2)).map SortedMap.ofList
  | _ => none

/-- The settings of a document; all of them may be left out, and there are no others. -/
def ofDocument? (value : Document) : Option Config := do
  -- A setting that is left out has the value of the default settings.
  let default : Config := {}
  let texts (fallback : List String) := Json.orElse? fallback (Json.list? Json.text?)
  let text (fallback : Option String) := Json.orElse? fallback (Json.nullable? Json.text?)
  let format? (value : Document) := (Json.Convention.plain.choice? value).bind Format.ofName?
  match ← Json.fields? .plain true fieldNames value with
  | [input, ignore, templateDirectory, targets, locales, format, functions, pluralForms,
      indentation, logLevel] =>
    return {
      input := ← texts default.input input
      ignore := ← texts default.ignore ignore
      templateDirectory := ← text default.templateDirectory templateDirectory
      targets := ← texts default.targets targets
      locales := ← texts default.locales locales
      format := ← Json.orElse? default.format format? format
      functions := ← texts default.functions functions
      pluralForms := ← Json.orElse? default.pluralForms countsByName? pluralForms
      indentation := ← Json.orElse? default.indentation Json.Convention.plain.countOf? indentation
      logLevel := ← text default.logLevel logLevel }
  | _ => none

/-- A base name is an identifier when it is not empty and holds identifier characters only. -/
def isFunctionName (name : String) : Bool :=
  !name.isEmpty && name.toList.all isIdentifierChar

/-- The first setting that no run can work with, apart from patterns and levels. -/
def settingFault? (config : Config) : Option SettingFault :=
  if config.input.isEmpty then some .noInput
  else if config.locales.isEmpty then some .noLocales
  else if config.functions.isEmpty then some .noFunctions
  -- A name that no scan could find, and a locale without forms, are told by name.
  else match config.functions.find? fun name => !isFunctionName name with
    | some name => some (.invalidFunction name)
    | none =>
      (config.pluralForms.toList.find? fun (_, forms) => forms == 0).map fun (locale, _) =>
        .noPluralForms locale

/-- Settings pass when none of them is at fault, every pattern for what is left out is one, and the
level of the log has a known name. -/
def validate (config : Config) : Outcome Unit := do
  -- Patterns for sources and targets are checked where they are used first.
  if let some fault := config.settingFault? then throw (.of (.setting fault))
  let _ ← compilePatterns config.ignore
  if let some name := config.logLevel then
    if (Level.ofText? name).isNone then throw (.of (.unknownLevel name))

/-- The settings that a text holds. -/
def read? (text : String) : Option Config := (Json.plain.read? text.toList).bind ofDocument?

/-- The settings of a text, which have to pass. -/
def parse (text : String) : Outcome Config :=
  match read? text with
  | none => .error ((Failure.of .settingsText).within "Failed to parse config JSON string")
  | some config => do
    config.validate
    return config

/-- The settings of a file's text, which have to pass. -/
def parseFile (path : Path) (text : String) : Outcome Config :=
  match read? text with
  | none => .error ((Failure.of .settingsText).within ("Failed to parse config file: " ++ path.text))
  | some config => do
    Outcome.within config.validate ("Invalid config file: " ++ path.text)
    return config

/-- The number of plural forms of a locale. -/
def pluralFormsFor (config : Config) (locale : String) : Nat :=
  (config.pluralForms.get? locale).getD defaultPluralForms

/-- The directory of the catalogs. -/
def templateDir? (config : Config) : Option Path := config.templateDirectory.map Path.mk

end Config

end MessageCatalog
