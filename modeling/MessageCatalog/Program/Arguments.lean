import MessageCatalog.Path

/-! What a command line asks for. -/

namespace MessageCatalog

/-- What a run does. -/
inductive Task where
  | extract (failOnScanErrors : Bool)
  | watch
  deriving DecidableEq, Repr, Inhabited

/-- A run, with the settings that its command line makes. -/
structure Invocation where
  /-- The file with the settings. -/
  config : Option Path := none
  logLevel : Option String := none
  task : Task
  deriving DecidableEq, Repr, Inhabited

/-- What a command line asks for. -/
inductive Request where
  | run (invocation : Invocation)
  | help
  | version
  deriving DecidableEq, Repr, Inhabited

/-- What is wrong with a command line. -/
inductive ArgumentFault where
  | unknown (argument : String)
  | missingValue (option : String)
  | emptyValue (option : String)
  | unexpectedValue (option : String)
  | repeated (option : String)
  | missingCommand
  deriving DecidableEq, Repr, Inhabited

/-- An argument fault as it is told. -/
def ArgumentFault.message : ArgumentFault → String
  | unknown argument => "unexpected argument '" ++ argument ++ "'"
  | missingValue option => "a value is required for '" ++ option ++ "'"
  | emptyValue option => "the value of '" ++ option ++ "' must not be empty"
  | unexpectedValue option => "'" ++ option ++ "' takes no value"
  | repeated option => "'" ++ option ++ "' cannot be used more than once"
  | missingCommand => "a command is required: extract or watch"

/-- The names of commands. -/
inductive CommandName where
  | extract
  | watch
  | help
  deriving DecidableEq, Repr, Inhabited

/-- The command with a name. -/
def CommandName.ofText? (text : String) : Option CommandName :=
  if text = "extract" then some extract
  else if text = "watch" then some watch
  else if text = "help" then some help
  else none

/-- An option, which may be spelled with its value. -/
inductive OptionName where
  | config
  | logLevel
  | failOnScanErrors
  | help
  | version
  deriving DecidableEq, Repr, Inhabited

/-- An option as it is spelled out. -/
def OptionName.long : OptionName → String
  | config => "--config"
  | logLevel => "--log-level"
  | failOnScanErrors => "--fail-on-scan-errors"
  | help => "--help"
  | version => "--version"

/-- Whether an option has a value. -/
def OptionName.takesValue : OptionName → Bool
  | config => true
  | logLevel => true
  | _ => false

/-- The form of one argument. -/
inductive ArgumentForm where
  | endOfOptions
  /-- An option with the value that is spelled with it. -/
  | option (name : OptionName) (value : Option String)
  /-- An argument that looks like an option and is none. -/
  | noOption (text : String)
  | plain (text : String)
  deriving DecidableEq, Repr, Inhabited

namespace ArgumentForm

/-- The option with a long name. -/
def long? (name : String) : Option OptionName :=
  [OptionName.config, .logLevel, .failOnScanErrors, .help, .version].find? (·.long == name)

/-- The option with a letter. -/
def short? (letter : Char) : Option OptionName :=
  if letter = 'c' then some .config
  else if letter = 'h' then some .help
  else if letter = 'V' then some .version
  else none

/-- An option of one letter is spelled with its value behind it, after an equals sign or not. One that
has no value acts at once, whatever stands behind it. -/
def ofLetter (text : String) (letter : Char) (behind : List Char) : ArgumentForm :=
  match short? letter with
  | none => noOption text
  | some name =>
    -- The equals sign is left out once; the rest belongs to the value.
    match name.takesValue, behind with
    | true, '=' :: value => option name (some (String.ofList value))
    | true, c :: value => option name (some (String.ofList (c :: value)))
    | _, _ => option name none

/-- The form of an argument. A long option has its value after the first equals sign. -/
def ofText (text : String) : ArgumentForm :=
  match text.toList with
  | ['-', '-'] => endOfOptions
  | '-' :: '-' :: chars =>
    let name := String.ofList ('-' :: '-' :: chars.takeWhile (· != '='))
    match long? name with
    | none => noOption text
    | some name =>
      match chars.dropWhile (· != '=') with
      | [] => option name none
      | _ :: value => option name (some (String.ofList value))
  | '-' :: letter :: behind => ofLetter text letter behind
  -- A dash alone is no option.
  | _ => plain text

end ArgumentForm

/-- The options before a command, or after it. -/
structure Options where
  config : Option Path := none
  logLevel : Option String := none
  failOnScanErrors : Bool := false
  deriving DecidableEq, Repr, Inhabited

namespace Options

/-- Setting the value of an option, once. -/
def setValue (options : Options) (name : OptionName) (value : String) :
    Except ArgumentFault Options :=
  match name with
  | .config =>
    if value.isEmpty then .error (.emptyValue name.long)
    else if options.config.isSome then .error (.repeated name.long)
    else .ok { options with config := some ⟨value⟩ }
  | .logLevel =>
    if options.logLevel.isSome then .error (.repeated name.long)
    else .ok { options with logLevel := some value }
  -- The other options are switches.
  | _ => .error (.unexpectedValue name.long)

/-- Options before a command give way to those after it. -/
def override (before after : Options) : Options where
  config := after.config <|> before.config
  logLevel := after.logLevel <|> before.logLevel
  failOnScanErrors := after.failOnScanErrors

end Options

namespace Request

/-- Reading the arguments for a command, or those before one. The arguments after the end of options
are plain, and no command takes any. -/
def read (command : Option (CommandName × Options)) (options : Options) :
    List String → Except ArgumentFault Request
  | [] =>
    match command with
    | none => .error .missingCommand
    | some (name, before) =>
      let all := before.override options
      let run (task : Task) : Request := .run ⟨all.config, all.logLevel, task⟩
      match name with
      | .extract => .ok (run (.extract all.failOnScanErrors))
      | .watch => .ok (run .watch)
      | .help => .ok .help
  | text :: rest =>
    match ArgumentForm.ofText text with
    -- What follows the end of options is plain, and nothing plain may follow a command.
    | .endOfOptions =>
      match rest with
      | [] => read command options []
      | argument :: _ => .error (.unknown argument)
    | .noOption text => .error (.unknown text)
    | .plain text =>
      match command, CommandName.ofText? text with
      | none, some name => read (some (name, options)) {} rest
      | some (.help, _), some _ => .ok .help
      | _, _ => .error (.unknown text)
    | .option .help none => .ok .help
    | .option .version none =>
      if command.isNone then .ok .version else .error (.unknown text)
    | .option .failOnScanErrors none =>
      match command with
      | some (.extract, _) =>
        if options.failOnScanErrors then .error (.repeated text)
        else read command { options with failOnScanErrors := true } rest
      | _ => .error (.unknown text)
    | .option name (some value) => do read command (← options.setValue name value) rest
    -- The value is the next argument, if that does not look like an option.
    | .option name none =>
      match rest with
      | [] => .error (.missingValue name.long)
      | value :: rest =>
        match ArgumentForm.ofText value with
        | .plain _ => do read command (← options.setValue name value) rest
        | _ => .error (.missingValue name.long)

/-- What the arguments of a command line ask for. -/
def ofArguments (arguments : List String) : Except ArgumentFault Request :=
  read none {} arguments

end Request

end MessageCatalog
