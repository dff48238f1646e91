import Mathlib
import MessageCatalog.Program.Extraction
import MessageCatalog.Program.Watching
import MessageCatalog.Proofs.Disk.Tree
import MessageCatalog.Proofs.Session.World
import MessageCatalog.Proofs.Session.Write

/-! A command removes the directory that its session made for itself, except when it has nothing to watch
or cannot watch. -/

namespace MessageCatalog

section

variable {σ : Type} [Host (StateM σ)] {dir : Path} {α β : Type}

/-- A directory is there. -/
def There (dir : Path) (world : σ) : Prop :=
  ((Host.isThere dir : StateM σ Bool).run world).1 = true

instance (dir : Path) (world : σ) : Decidable (There dir world) := inferInstanceAs (Decidable (_ = _))

/-- A directory is there behind an operation when it was there before. -/
def SparesDir (dir : Path) (operation : StateM σ α) : Prop :=
  ∀ world, There dir (operation.run world).2 ↔ There dir world

/-- An operation after another one. -/
theorem SparesDir.bind {operation : StateM σ α} {next : α → StateM σ β}
    (first : SparesDir dir operation) (second : ∀ value, SparesDir dir (next value)) :
    SparesDir dir (operation >>= next) :=
  fun world => (second _ _).trans (first world)

/-- An operation for each of some items. -/
theorem sparesDir_forM {operation : α → StateM σ PUnit} (each : ∀ item, SparesDir dir (operation item))
    (items : List α) : SparesDir dir (items.forM operation) := by
  induction items with
  | nil => exact fun _ => .rfl
  | cons item items ih => exact (each item).bind fun _ => ih

variable [Console (StateM σ)]

/-- A machine on which a directory comes and goes by few operations only: it is gone when it was removed,
and looking, watching and printing leave it there. -/
structure Tidy (σ : Type) [Host (StateM σ)] [Console (StateM σ)] (dir : Path) : Prop where
  removed : ∀ world : σ,
    ((Host.removeDir dir : StateM σ (Except FileFault Unit)).run world).1 = .ok () →
    ¬ There dir ((Host.removeDir dir : StateM σ (Except FileFault Unit)).run world).2
  isThere : SparesDir dir (Host.isThere dir : StateM σ Bool)
  isDir : ∀ path, SparesDir dir (Host.isDir path : StateM σ Bool)
  workingDir : SparesDir dir (Host.workingDir : StateM σ (Except FileFault Path))
  makeWatcher : SparesDir dir (Host.makeWatcher : StateM σ (Except FileFault Unit))
  watch : ∀ path, SparesDir dir (Host.watch path : StateM σ (Except FileFault Unit))
  limit : SparesDir dir (Console.limit : StateM σ Level)
  print : ∀ channel text, SparesDir dir (Console.print channel text : StateM σ Unit)

namespace Tidy

variable (tidy : Tidy σ dir)

include tidy

/-- Logging leaves a directory there. -/
theorem log (level : Level) (message : String) :
    SparesDir dir (MessageCatalog.log level message : StateM σ Unit) := by
  refine SparesDir.bind tidy.limit fun limit => ?_
  split
  · exact tidy.print _ _
  · exact fun _ => .rfl

/-- Watching directories leaves a directory there. -/
theorem watchAll (dirs : List Path) :
    SparesDir dir (Watching.watchAll dirs : StateM σ (Outcome Unit)) := by
  -- By induction on the directories: each is told and watched, and trouble with one ends it.
  induction dirs with
  | nil => exact fun _ => .rfl
  | cons watched dirs ih =>
    refine (tidy.log _ _).bind fun _ => SparesDir.bind (tidy.watch _) fun result => ?_
    split
    · exact fun _ => .rfl
    · exact ih

/-- Looking for directories leaves a directory there. -/
theorem keepPaths (paths : List Path) :
    SparesDir dir (Session.keepPaths (FileSystem.isDir : Path → StateM σ Bool) paths) := by
  induction paths with
  | nil => exact fun _ => .rfl
  | cons path paths ih =>
    exact SparesDir.bind (tidy.isDir path) fun _ => ih.bind fun _ _ => .rfl

/-- Making a watcher for patterns leaves a directory there. -/
theorem prepare (input : List String) :
    SparesDir dir (Watching.prepare input : StateM σ (Outcome (Path × List Path))) := by
  -- Each step only asks for something, or adds a watch.
  refine SparesDir.bind tidy.workingDir fun root => ?_
  split
  · exact fun _ => .rfl
  · refine SparesDir.bind tidy.makeWatcher fun made => ?_
    split
    · exact fun _ => .rfl
    · refine SparesDir.bind ((tidy.keepPaths _).bind fun _ _ => .rfl) fun dirs => ?_
      dsimp only
      split
      · exact fun _ => .rfl
      · refine (tidy.watchAll _).bind fun watched => ?_
        split <;> exact fun _ => .rfl

end Tidy

end

namespace Session

/-- The session keeps the directory that it made for itself. -/
def KeepsScratch (before after : Session) : Prop := after.scratchDir = before.scratchDir

theorem KeepsScratch.trans {a b c : Session} (first : KeepsScratch a b) (second : KeepsScratch b c) :
    KeepsScratch a c := Eq.trans second first

section

variable {σ : Type} [FileSystem (StateM σ)] [Console (StateM σ)]

theorem keepsScratch_write : Keeps KeepsScratch (write : SessionM (StateM σ) Bool) := by
  refine (stepLaw_keeps KeepsScratch (fun _ => rfl) .trans).write (fun _ _ => rfl)
    (fun locales session world => ?_) fun merged session world => ?_
  · rw [KeepsScratch, keepsBundles_writeCatalogs locales ∅ session world]
  · rw [KeepsScratch, keepsCatalogs_writeBundles merged session world]

theorem keepsScratch_update (changed : Option (List Path)) :
    Keeps KeepsScratch (update changed : SessionM (StateM σ) Bool) := by
  intro session world
  rcases ran : runOn (update changed) session world with ⟨outcome, after, later⟩
  -- Neither reading nor writing changes which directory the session made.
  rcases update_cases ran with ⟨_, -, read⟩ | ⟨_, -, -, read⟩ | ⟨_, _, _, -, read, wrote⟩
  · rw [KeepsScratch, keepsRest_of_read read]
  · rw [KeepsScratch, keepsRest_of_read read]
  · refine Eq.trans (keepsScratch_write.of_ran wrote) ?_
    rw [keepsRest_of_read read]

/-- What a watcher tells leaves a session its directory. -/
theorem keepsScratch_handle (root : Path) (events : Events) :
    Keeps KeepsScratch (handle root events : SessionM (StateM σ) Unit) := by
  -- Trouble is only logged, and told paths are logged before the update.
  cases events with
  | trouble text => exact fun _ _ => rfl
  | changed paths =>
    refine Keeps.after_get fun session => ?_
    dsimp only
    split
    · exact fun _ _ => rfl
    · refine Keeps.bind (fun session world => ?_) (fun _ => ?_) .trans
      · rw [runOn_forIn fun world path => logged .debug ("Changed: " ++ path.text) world]
        · rfl
        · exact fun _ _ _ => rfl
      · refine (keepsScratch_update _).bind (fun told => ?_) .trans
        split <;> exact fun _ _ => rfl

/-- The first update of a session that follows a watcher leaves it its directory. -/
theorem keepsScratch_startWatching :
    Keeps KeepsScratch (startWatching : SessionM (StateM σ) Unit) :=
  (keepsScratch_update none).bind (fun _ _ _ => rfl) .trans

end

section

variable {σ : Type} [Host (StateM σ)] [Console (StateM σ)] {dir : Path} {session : Session}

/-- The end of a session that comes behind a step, whatever that led to, does not fail. -/
def EndsBehind {α : Type} (step : SessionM (StateM σ) α) (session : Session) (world : σ) : Prop :=
  (runOn close (runOn step session world).2.1 (runOn step session world).2.2).1 = .ok ()

/-- Behind the end of a session, which fails only when a removal does, its directory is gone. -/
theorem not_there_of_close (tidy : Tidy σ dir) (made : session.scratchDir = some dir) {world : σ}
    (ended : (runOn close session world).1 = .ok ()) : ¬ There dir (runOn close session world).2.2 := by
  have opened : runOn close session world =
      runOn (if ((Host.isThere dir : StateM σ Bool).run world).1 then perform (FileSystem.removeDir dir)
        else pure ()) { session with scratchDir := none }
        ((Host.isThere dir : StateM σ Bool).run world).2 := by
    rw [close, runOn_bind, runOn_get]
    dsimp only
    rw [runOn_bind, runOn_set, made]
    dsimp only
    rw [runOn_bind, runOn_monadLift]
    rfl
  rw [opened] at ended ⊢
  -- The look at the directory tells whether there is something to remove.
  have looked := tidy.isThere world
  generalize ((Host.isThere dir : StateM σ Bool).run world).2 = later at ended looked ⊢
  cases there : ((Host.isThere dir : StateM σ Bool).run world).1 with
  | true =>
    rw [there, if_pos rfl, runOn_perform] at ended
    rw [if_pos rfl, runOn_perform]
    -- The removal succeeds with the end.
    refine tidy.removed later ?_
    have removed : FileFault.within ("Failed to remove directory " ++ dir.text)
        ((Host.removeDir dir : StateM σ (Except FileFault Unit)).run later).1 = .ok () := ended
    cases told : ((Host.removeDir dir : StateM σ (Except FileFault Unit)).run later).1 with
    | error fault =>
      rw [told] at removed
      cases removed
    | ok => rfl
  | false =>
    rw [if_neg Bool.false_ne_true]
    intro still
    cases there.symm.trans (looked.1 still)

/-- Behind a step that leaves a session its directory, and the end of the session, that is gone. -/
theorem not_there_behind {α : Type} (tidy : Tidy σ dir) {step : SessionM (StateM σ) α}
    (keeps : Keeps KeepsScratch step) (made : session.scratchDir = some dir) {world : σ}
    (ended : EndsBehind step session world) :
    ¬ There dir (runOn close (runOn step session world).2.1 (runOn step session world).2.2).2.2 :=
  not_there_of_close tidy (Eq.trans (keeps session world) made) ended

end

end Session

namespace Extraction

variable {σ : Type} [Host (StateM σ)] [Console (StateM σ)] {dir : Path}

/-- What a run tells leaves a directory there. -/
theorem sparesDir_tell (tidy : Tidy σ dir) (session : Session) (failOnScanErrors : Bool) :
    SparesDir dir (tell session failOnScanErrors : StateM σ (Outcome Unit)) := by
  -- Three lists are printed, and then maybe one more line.
  refine (sparesDir_forM (fun _ => tidy.print _ _) _).bind fun _ => ?_
  refine (sparesDir_forM (fun _ => tidy.print _ _) _).bind fun _ => ?_
  refine (sparesDir_forM (fun _ => tidy.print _ _) _).bind fun _ => ?_
  dsimp only
  split
  · exact fun _ => .rfl
  · exact SparesDir.bind (tidy.print _ _) fun _ _ => .rfl

/-- A session that has updated everything has ended. -/
theorem run_updateAll (session : Session) (world : σ) :
    ((updateAll session : StateM σ (Outcome Session)).run world).2 =
      (Session.runOn Session.close (Session.runOn (Session.update none) session world).2.1
        (Session.runOn (Session.update none) session world).2.2).2.2 := rfl

/-- Behind a run the directory of its session is gone. -/
theorem not_there_of_run (tidy : Tidy σ dir) {config : Config} {session : Session} {world opened : σ}
    (began : (opening config : StateM σ (Outcome Session)).run world = (.ok session, opened))
    (made : session.scratchDir = some dir)
    (ended : Session.EndsBehind (Session.update none) session opened) (failOnScanErrors : Bool) :
    ¬ There dir ((run config failOnScanErrors : StateM σ (Outcome Unit)).run world).2 := by
  -- The directory is gone behind the update, and telling the outcome brings no directory back.
  have gone := Session.not_there_behind tidy (Session.keepsScratch_update none) made ended
  rw [← run_updateAll] at gone
  rw [run, Session.run_worldBind, began]
  dsimp only
  rw [Session.run_worldBind]
  generalize (updateAll session : StateM σ (Outcome Session)).run opened = ran at gone ⊢
  obtain ⟨failure | after, later⟩ := ran
  · exact gone
  · exact fun still => gone ((sparesDir_tell tidy after failOnScanErrors later).1 still)

end Extraction

namespace Watching

variable {σ : Type} [Host (StateM σ)] [Console (StateM σ)] {dir : Path}

/-- What a watcher tells at one time after the other; in front of each, other programs do something. -/
def followTold (told : Path → List Path → List (StateM σ Unit × Events)) (root : Path)
    (dirs : List Path) : SessionM (StateM σ) Unit :=
  (told root dirs).forM fun (meanwhile, events) => do
    (monadLift meanwhile : SessionM (StateM σ) Unit)
    Session.handle root events

/-- What a watcher tells leaves a session its directory. -/
theorem keepsScratch_followTold (told : Path → List Path → List (StateM σ Unit × Events)) (root : Path)
    (dirs : List Path) : Session.Keeps Session.KeepsScratch (followTold told root dirs) := by
  rw [followTold]
  generalize told root dirs = turns
  -- By induction on what is told, turn by turn.
  induction turns with
  | nil => exact fun _ _ => rfl
  | cons turn turns ih =>
    refine Session.Keeps.bind ?_ (fun _ => ih) .trans
    exact Session.Keeps.bind (fun _ _ => rfl) (fun _ => Session.keepsScratch_handle _ _) .trans

/-- A session that has followed a watcher has ended. -/
theorem run_followAll (session : Session) (follow : SessionM (StateM σ) Unit) (world : σ) :
    ((followAll session follow : StateM σ (Outcome Unit)).run world).2 =
      (Session.runOn Session.close
        (Session.runOn (do Session.startWatching; follow) session world).2.1
        (Session.runOn (do Session.startWatching; follow) session world).2.2).2.2 := rfl

/-- Behind a run that watches the directory of its session is gone. -/
theorem not_there_of_run (tidy : Tidy σ dir) {config : Config} {session : Session} {world opened : σ}
    (began : (opening config : StateM σ (Outcome Session)).run world = (.ok session, opened))
    (made : session.scratchDir = some dir) {root : Path} {dirs : List Path} {watched : σ}
    (prepared : (prepare config.input : StateM σ (Outcome (Path × List Path))).run opened =
      (.ok (root, dirs), watched))
    (told : Path → List Path → List (StateM σ Unit × Events))
    (ended : Session.EndsBehind (do Session.startWatching; followTold told root dirs) session watched) :
    ¬ There dir ((run (followTold told) config).run world).2 := by
  have keeps : Session.Keeps Session.KeepsScratch (do
      Session.startWatching
      followTold told root dirs : SessionM (StateM σ) Unit) :=
    Session.keepsScratch_startWatching.bind (fun _ => keepsScratch_followTold told root dirs) .trans
  -- The directory is kept by what comes before the end, and so the end finds it.
  have gone := Session.not_there_behind tidy keeps made ended
  rw [← run_followAll] at gone
  rw [run, Session.run_worldBind, began]
  dsimp only
  rw [Session.run_worldBind, prepared]
  exact gone

/-- Behind a run that cannot watch the directory of its session is there as it was. -/
theorem there_of_run_iff (tidy : Tidy σ dir) {config : Config} {session : Session} {world opened : σ}
    (began : (opening config : StateM σ (Outcome Session)).run world = (.ok session, opened))
    {failure : Failure}
    (refused : ((prepare config.input : StateM σ (Outcome (Path × List Path))).run opened).1 =
      .error failure)
    (follow : Path → List Path → SessionM (StateM σ) Unit) :
    There dir ((run follow config).run world).2 ↔ There dir opened := by
  have spared := tidy.prepare config.input opened
  rw [run, Session.run_worldBind, began]
  dsimp only
  rw [Session.run_worldBind, refused]
  exact spared

end Watching

section

variable {σ : Type} [Host (StateM σ)] [Console (StateM σ)] {dir : Path}

/-- A run over all sources leaves no directory that its session made for itself, and neither does one
that watches them, unless it cannot make a watcher or has nothing to watch: then, and only then, the
directory is still there. -/
theorem there_after_run_iff (tidy : Tidy σ dir) {config : Config} {session : Session} {world opened : σ}
    (made : session.scratchDir = some dir) :
    (∀ failOnScanErrors,
      (Extraction.opening config : StateM σ (Outcome Session)).run world = (.ok session, opened) →
      Session.EndsBehind (Session.update none) session opened →
      ¬ There dir ((Extraction.run config failOnScanErrors : StateM σ (Outcome Unit)).run world).2) ∧
    ∀ told : Path → List Path → List (StateM σ Unit × Events),
      (Watching.opening config : StateM σ (Outcome Session)).run world = (.ok session, opened) →
      There dir opened →
      (∀ root dirs watched,
        (Watching.prepare config.input : StateM σ (Outcome (Path × List Path))).run opened =
          (.ok (root, dirs), watched) →
        Session.EndsBehind (do Session.startWatching; Watching.followTold told root dirs)
          session watched) →
      (There dir ((Watching.run (Watching.followTold told) config).run world).2 ↔
        ∃ failure, ((Watching.prepare config.input :
          StateM σ (Outcome (Path × List Path))).run opened).1 = .error failure) := by
  refine ⟨fun failOnScanErrors began ended =>
    Extraction.not_there_of_run tidy began made ended failOnScanErrors,
    fun told began there ends => ?_⟩
  rcases prepared : (Watching.prepare config.input :
    StateM σ (Outcome (Path × List Path))).run opened with ⟨failure | ⟨root, dirs⟩, watched⟩
  · have refused := congrArg Prod.fst prepared
    exact iff_of_true ((Watching.there_of_run_iff tidy began refused _).2 there) ⟨failure, rfl⟩
  · exact iff_of_false
      (Watching.not_there_of_run tidy began made prepared told (ends root dirs watched prepared)) nofun

end

namespace Tree

/-- A directory of a tree other than the root comes and goes so. -/
theorem tidy {dir : Path} (absolute : dir.isAbsolute = true) {known : Tree} {names : List String}
    (led : known.resolve dir = .ok names) (inside : names ≠ []) : Tidy (World Tree) dir where
  removed world succeeded := by
    show ¬ (settle (world.disk.removeDir dir) world).2.disk.isThere dir = true
    have succeeded : (settle (world.disk.removeDir dir) world).1 = .ok () := succeeded
    -- A removal that fails has not succeeded, so there is nothing to show for it.
    cases removed : world.disk.removeDir dir with
    | error fault =>
      rw [removed] at succeeded
      cases succeeded
    | ok after => exact Bool.not_eq_true _ ▸ isThere_of_removeDir absolute led inside removed
  isThere _ := .rfl
  isDir _ _ := .rfl
  workingDir _ := .rfl
  makeWatcher _ := .rfl
  watch _ _ := .rfl
  limit _ := .rfl
  print _ _ _ := .rfl

end Tree

/-- Settings without a directory for catalogs, with a pattern that no walk can take. -/
private def homeless : Config := { input := ["nope/a[/]b"], templateDirectory := none }

/-- The directory that a session makes for itself first. -/
private def firstScratch : Path := ⟨"/tmp/locale-sync-0"⟩

/-- A machine without files. -/
private def bareMachine : World Tree := ⟨.empty, {}⟩

private def homelessSession : Session :=
  .begun homeless [⟨"nope/a[/]b", [.char 'n', .char 'o', .char 'p', .char 'e', .char '/', .char 'a',
    .anyOf [.single '/'], .char 'b']⟩] [] firstScratch (some firstScratch)

private theorem tidy_firstScratch : Tidy (World Tree) firstScratch := by
  have led : Tree.empty.resolve firstScratch = .ok ["tmp", "locale-sync-0"] := by cbv
  exact Tree.tidy (by decide) led (by decide)

/-- The machine when a run over all sources has begun. -/
private def extracting : World Tree :=
  ((Extraction.opening homeless : StateM (World Tree) (Outcome Session)).run bareMachine).2

/-- The machine when a run that watches has begun. -/
private def watching : World Tree :=
  ((Watching.opening homeless : StateM (World Tree) (Outcome Session)).run bareMachine).2

private theorem began_watching :
    (Watching.opening homeless : StateM (World Tree) (Outcome Session)).run bareMachine =
      (.ok homelessSession, watching) := by
  have told : ((Watching.opening homeless : StateM (World Tree) (Outcome Session)).run
    bareMachine).1 = .ok homelessSession := by cbv
  exact Prod.ext told rfl

private theorem nothing_watched :
    ((Watching.prepare homeless.input : StateM (World Tree) (Outcome (Path × List Path))).run
      watching).1 = .error (.of .nothingToWatch) := by decide +kernel

/-- The machine behind that run. -/
private def abandoned : World Tree :=
  ((Watching.run (Watching.followTold fun _ _ => []) homeless).run bareMachine).2

/-- A run over all sources that fails because of the pattern removes the directory, and a run that has
nothing to watch leaves it. -/
theorem there_after_run_iff_homeless :
    ¬ There firstScratch ((Extraction.run homeless false :
        StateM (World Tree) (Outcome Unit)).run bareMachine).2 ∧
      There firstScratch ((Watching.run (Watching.followTold fun _ _ => []) homeless).run
        bareMachine).2 := by
  have began : (Extraction.opening homeless : StateM (World Tree) (Outcome Session)).run bareMachine =
      (.ok homelessSession, extracting) := by
    have told : ((Extraction.opening homeless : StateM (World Tree) (Outcome Session)).run
      bareMachine).1 = .ok homelessSession := by cbv
    exact Prod.ext told rfl
  have ended : Session.EndsBehind (Session.update none) homelessSession extracting := by
    unfold Session.EndsBehind
    cbv
  have there : There firstScratch watching := by decide +kernel
  refine ⟨(there_after_run_iff tidy_firstScratch rfl).1 false began ended,
    ((there_after_run_iff tidy_firstScratch rfl).2 _ began_watching there ?_).2
      ⟨_, nothing_watched⟩⟩
  -- No run gets so far that something is watched.
  intro root dirs watched prepared
  cases (congrArg Prod.fst prepared).symm.trans nothing_watched

/-- A run that has nothing to watch leaves the directory of its session, although it could be removed. -/
theorem not_scratch_removed :
    ¬ ∀ (config : Config) (dir : Path) (session : Session) (world opened last : World Tree)
      (outcome : Outcome Unit) (told : Path → List Path → List (StateM (World Tree) Unit × Events)),
      config.templateDirectory = none →
      (Watching.opening config : StateM (World Tree) (Outcome Session)).run world =
        (.ok session, opened) → session.scratchDir = some dir →
      (Watching.run (Watching.followTold told) config).run world = (outcome, last) →
      ((Host.removeDir dir : StateM (World Tree) (Except FileFault Unit)).run last).1 = .ok () →
      ¬ There dir last := by
  intro claimed
  have removable : ((Host.removeDir firstScratch : StateM (World Tree) (Except FileFault Unit)).run
      abandoned).1 = .ok () := by decide +kernel
  have there : There firstScratch abandoned := by decide +kernel
  exact claimed homeless firstScratch homelessSession bareMachine watching abandoned _
    (fun _ _ => []) rfl began_watching rfl (Prod.ext rfl rfl) removable there

end MessageCatalog
