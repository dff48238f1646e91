import MessageCatalog.Proofs.Disk.Memory
import MessageCatalog.Proofs.Session.Run

/-! How a session begins, what it is before and behind its first reading of one file, and how the catalogs
of such a session read. -/

namespace MessageCatalog

/-- The text of a catalog without messages. -/
def blankCatalog : String := String.ofList Po.header

/-- The text of a catalog with one new message, which is used on the first line of a file. -/
def newCatalog (file text : String) : String :=
  blankCatalog ++ "\n#: " ++ file ++ ":1\n#, new\nmsgid \"" ++ text ++ "\"\nmsgstr \"\"\n"

namespace Session

/-- A session as it begins with certain settings, patterns and directories. -/
def begun (config : Config) (included ignored : List Pattern) (dir : Path) (scratch : Option Path) :
    Session where
  config
  functions := Source.Function.ofBases config.functions
  included
  ignored
  templateDir := dir
  scratchDir := scratch

section

variable {σ : Type} [FileSystem (StateM σ)] [Console (StateM σ)] {config : Config}

/-- A session begins with settings that pass, with compiled patterns and without texts. -/
theorem new_eq_ok {session : Session} {world later : σ}
    (made : (new config : StateM σ (Outcome Session)).run world = (.ok session, later)) :
    config.validate = .ok () ∧ ∃ included ignored dir scratch,
      compilePatterns config.input = .ok included ∧ compilePatterns config.ignore = .ok ignored ∧
        session = begun config included ignored dir scratch := by
  unfold new at made
  -- Patterns that do not compile and a directory that cannot be made leave no session.
  cases valid : config.validate with
  | error failure => rw [valid] at made; cases made
  | ok =>
    cases compiled : compilePatterns config.input with
    | error failure => rw [valid, compiled] at made; cases made
    | ok included =>
      cases left : compilePatterns config.ignore with
      | error failure => rw [valid, compiled, left] at made; cases made
      | ok ignored =>
        refine ⟨rfl, included, ignored, ?_⟩
        rw [valid, compiled, left] at made
        cases place : config.templateDir? with
        -- A directory that is named is taken as it is.
        | some dir =>
          rw [place] at made
          cases made
          exact ⟨dir, none, rfl, rfl, rfl⟩
        | none =>
          -- The directory is made for the session, unless that fails.
          rw [place] at made
          rcases fresh : (FileSystem.makeTempDir scratchStart : StateM σ (Outcome Path)).run world
            with ⟨failure | dir, middle⟩
          all_goals
            simp only [Bind.bind, Except.bind, Pure.pure, Except.pure, StateT.run, StateT.bind]
              at made fresh
            rw [fresh] at made
            cases made
          exact ⟨dir, some dir, rfl, rfl, rfl⟩

/-- Settings that pass, whose patterns compile and that name a directory for catalogs begin a session. -/
theorem run_new_of_compiled {included ignored : List Pattern} {dir : Path}
    (valid : config.validate = .ok ()) (compiled : compilePatterns config.input = .ok included)
    (left : compilePatterns config.ignore = .ok ignored) (placed : config.templateDir? = some dir)
    (world : σ) : (new config : StateM σ (Outcome Session)).run world =
      (.ok (begun config included ignored dir none), world) := by
  unfold new
  rw [valid, compiled, left, placed]
  rfl

/-- With a directory for catalogs, how a session begins does not depend on the world, which stays as it
is. -/
theorem run_new_of_templateDir {dir : Path} (placed : config.templateDir? = some dir) :
    ∃ made : Outcome Session, ∀ world,
      (new config : StateM σ (Outcome Session)).run world = (made, world) := by
  unfold new
  rw [placed]
  dsimp only
  -- Whether settings pass and patterns compile is told without a look at the world.
  split <;> exact ⟨_, fun _ => rfl⟩

end

/-- A session on the one file of that name, as it begins. -/
def onFile (file : String) (locales targets : List String) : Session :=
  begun { input := [file], locales, targets } [⟨file, file.toList.map .char⟩] [] ⟨"locales"⟩ none

/-- The pattern for the scripts of the working directory. -/
def scripts : Pattern := ⟨"*.js", [.anySequence, .char '.', .char 'j', .char 's']⟩

/-- A session on the scripts of the working directory, as it begins. -/
def onScripts (locales : List String) : Session :=
  begun { input := ["*.js"], locales } [scripts] [] ⟨"locales"⟩ none

/-- A session on one script, with an English catalog. -/
def fileSession : Session := onFile "a.js" ["en"] []

/-- A session on the scripts of the working directory, with an English catalog. -/
def englishSession : Session := onScripts ["en"]

section

variable {σ : Type} [FileSystem (StateM σ)] [Console (StateM σ)] (world : σ)

/-- A session on one file begins where its settings pass and the name of the file is a plain pattern. -/
theorem run_new_onFile {file : String} {locales targets : List String}
    (valid : (onFile file locales targets).config.validate = .ok ())
    (plain : compilePatterns [file] = .ok [⟨file, file.toList.map .char⟩]) :
    (new (onFile file locales targets).config : StateM σ (Outcome Session)).run world =
      (.ok (onFile file locales targets), world) :=
  run_new_of_compiled valid plain rfl rfl world

theorem compilePatterns_scripts : compilePatterns ["*.js"] = .ok [scripts] := by decide +kernel

/-- A session on the scripts of the working directory begins where its settings pass. -/
theorem run_new_onScripts {locales : List String}
    (valid : (onScripts locales).config.validate = .ok ()) :
    (new (onScripts locales).config : StateM σ (Outcome Session)).run world =
      (.ok (onScripts locales), world) :=
  run_new_of_compiled valid compilePatterns_scripts rfl rfl world

theorem run_new_fileSession :
    (new fileSession.config : StateM σ (Outcome Session)).run world = (.ok fileSession, world) :=
  run_new_onFile world (by decide +kernel) (by decide +kernel)

theorem run_new_englishSession :
    (new englishSession.config : StateM σ (Outcome Session)).run world =
      (.ok englishSession, world) :=
  run_new_onScripts world (by decide +kernel)

end

/-- The session when all that it has read is one file that uses one message. -/
def withMessage (session : Session) (file text : String) : Session :=
  let key : Key := ⟨":" ++ text⟩
  { session with
    hasRead := true
    sources := .ofList [(⟨file⟩, "__('" ++ text ++ "')")]
    index := {
      keysByFile := .ofList [(⟨file⟩, .ofElements [key])]
      live := ⟨.ofList [(key, ⟨none, text, none⟩)], .ofList [(key, .ofElements [⟨file, 1⟩])]⟩ } }

end Session

end MessageCatalog
