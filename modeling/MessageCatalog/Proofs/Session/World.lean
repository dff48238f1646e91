import MessageCatalog.Proofs.Session.StepLaw

/-! Reading and logging leave the files of a world as they are. -/

namespace MessageCatalog

/-- Reading a file leaves a world as it is. -/
theorem World.run_read {δ : Type} [Disk δ] (world : World δ) (path : Path) :
    (FileSystem.read path : StateM (World δ) (Outcome String)).run world =
      (Disk.read world.disk path, world) := rfl

namespace Session

section

variable {δ : Type}

/-- Logging leaves the files as they are. -/
@[simp] theorem disk_logged (level : Level) (message : String) (world : World δ) :
    (logged level message world).disk = world.disk := by
  show (if level.shownAt world.screen.limit then
    ((Console.print level.channel (level.label ++ message ++ "\n") : StateM (World δ) Unit))
    else pure () : StateM (World δ) Unit).run world |>.2.disk = world.disk
  split <;> rfl

/-- Logging leaves the files as they are. -/
@[simp] theorem disk_loggedAll (lines : List (Level × String)) (world : World δ) :
    (loggedAll world lines).disk = world.disk := by
  -- By induction on the lines.
  induction lines generalizing world with
  | nil => rfl
  | cons line lines ih =>
    rw [loggedAll, List.foldl_cons]
    exact (ih _).trans (disk_logged _ _ _)

/-- A step of the world after another one. -/
theorem run_worldBind {σ α β : Type} (step : StateM σ α) (next : α → StateM σ β) (world : σ) :
    (step >>= next).run world = (next (step.run world).1).run (step.run world).2 := rfl

/-- The paths of which a test holds that looks at the world only. -/
theorem run_keepPaths {σ : Type} {test : Path → StateM σ Bool} {holds : Path → Bool} {world : σ}
    (each : ∀ path, (test path).run world = (holds path, world)) (paths : List Path) :
    (keepPaths test paths).run world = (paths.filter holds, world) := by
  induction paths with
  | nil => rfl
  | cons path paths ih =>
    rw [keepPaths, run_worldBind, each, run_worldBind, ih, List.filter_cons]
    rfl

/-- A look at a world that leaves its files as they are. -/
def Looks {α : Type} (look : StateM (World δ) α) : Prop :=
  ∀ world, (look.run world).2.disk = world.disk

/-- A look after another one. -/
theorem Looks.bind {α β : Type} {look : StateM (World δ) α} {next : α → StateM (World δ) β}
    (first : Looks look) (second : ∀ value, Looks (next value)) : Looks (look >>= next) :=
  fun world => (second _ _).trans (first world)

/-- A step that leaves the files of a world as they are. -/
def KeepsDisk {α : Type} (step : SessionM (StateM (World δ)) α) : Prop :=
  ∀ session world, (runOn step session world).2.2.disk = world.disk

/-- A run of a step that leaves the files of a world as they are. -/
theorem KeepsDisk.of_ran {α : Type} {step : SessionM (StateM (World δ)) α}
    (keeps : KeepsDisk step) {session after : Session} {world later : World δ}
    {outcome : Outcome α} (ran : runOn step session world = (outcome, after, later)) :
    later.disk = world.disk := by
  simpa only [ran] using keeps session world

/-- A step after another one. -/
theorem KeepsDisk.bind {α β : Type} {step : SessionM (StateM (World δ)) α}
    {next : α → SessionM (StateM (World δ)) β} (first : KeepsDisk step)
    (second : ∀ value, KeepsDisk (next value)) : KeepsDisk (step >>= next) := by
  intro session world
  rw [runOn_bind]
  rcases ran : runOn step session world with ⟨failure | value, between, middle⟩
  · exact first.of_ran ran
  · exact (second value between middle).trans (first.of_ran ran)

/-- A sequence leaves the files as they are when its steps do. -/
theorem stepLaw_keepsDisk :
    StepLaw fun α (step : SessionM (StateM (World δ)) α) => KeepsDisk step where
  pure _ _ _ := rfl
  get _ _ := rfl
  bind := KeepsDisk.bind

/-- A step for each path. -/
theorem keepsDisk_anyChange {step : Path → SessionM (StateM (World δ)) Bool}
    (each : ∀ path, KeepsDisk (step path)) (paths : List Path) :
    KeepsDisk (anyChange step paths) :=
  stepLaw_keepsDisk.anyChange each paths

theorem keepsDisk_dropSource (path : Path) :
    KeepsDisk (dropSource path : SessionM (StateM (World δ)) Bool) := by
  intro session world
  rw [runOn_dropSource]
  split
  · exact disk_logged _ _ _
  · rfl

theorem keepsDisk_rebuild : KeepsDisk (rebuild : SessionM (StateM (World δ)) Unit) := by
  intro session world
  rw [runOn_rebuild]
  dsimp only
  generalize Index.scans session.functions session.sources = scans
  -- By induction on the scans, of which only log lines come.
  induction scans generalizing world with
  | nil => rfl
  | cons scanned scans ih => exact (ih _).trans (disk_loggedAll _ _)

/-- Those of some paths that pass a test are looked for. -/
theorem looks_keepPaths {test : Path → StateM (World δ) Bool} (each : ∀ path, Looks (test path))
    (paths : List Path) : Looks (keepPaths test paths) := by
  induction paths with
  | nil => exact fun _ => rfl
  | cons path paths ih => exact (each path).bind fun _ => ih.bind fun _ _ => rfl

/-- Each of some paths is looked up. -/
theorem looks_mapM {α : Type} {look : Path → StateM (World δ) α} (each : ∀ path, Looks (look path))
    (paths : List Path) : Looks (paths.mapM look) := by
  induction paths with
  | nil => exact fun _ => rfl
  | cons path paths ih =>
    rw [List.mapM_cons]
    exact (each path).bind fun _ => ih.bind fun _ _ => rfl

/-- Picking paths by what was found at them is keeping those that pass a test. -/
theorem filterMap_looked {look : Path → Bool} (keep : Path → Bool) {pick : Path × Bool → Option Path}
    (picks : ∀ path, pick (path, look path) = if keep path then some path else none)
    (paths : List Path) :
    (paths.map fun path => (path, look path)).filterMap pick = paths.filter keep := by
  induction paths with
  | nil => rfl
  | cons path paths ih =>
    rw [List.map_cons, List.filterMap_cons, picks, List.filter_cons, ih]
    cases keep path <;> rfl

variable [Disk δ]

theorem keepsDisk_loadSource (path : Path) :
    KeepsDisk (loadSource path : SessionM (StateM (World δ)) Bool) := by
  -- A file that is gone is dropped, and a new text is noted; both only log.
  intro session world
  rw [runOn_loadSource, World.run_read]
  cases Disk.read world.disk path with
  | error failure =>
    dsimp only
    split
    · exact keepsDisk_dropSource path session world
    · rfl
  | ok text =>
    dsimp only
    split
    · rfl
    · exact disk_logged _ _ _

/-- Reading every source leaves the files as they are. -/
theorem keepsDisk_readAll : KeepsDisk (readAll : SessionM (StateM (World δ)) Bool) :=
  stepLaw_keepsDisk.readAll keepsDisk_dropSource keepsDisk_loadSource (fun _ _ _ _ => rfl)
    fun _ _ => looks_keepPaths (fun _ _ => rfl) _

theorem keepsDisk_takeUp (path : Path) :
    KeepsDisk (takeUp path : SessionM (StateM (World δ)) Bool) :=
  stepLaw_keepsDisk.takeUp keepsDisk_dropSource keepsDisk_loadSource path

/-- Reading some paths leaves the files as they are. -/
theorem keepsDisk_readSome (paths : List Path) :
    KeepsDisk (readSome paths : SessionM (StateM (World δ)) Bool) :=
  stepLaw_keepsDisk.readSome keepsDisk_dropSource keepsDisk_loadSource
    (fun _ _ => looks_mapM (fun _ _ => rfl) _) paths

/-- Looking each path up in a world. -/
theorem run_mapM_isThere (paths : List Path) (world : World δ) :
    (paths.mapM fun path => return (path, ← FileSystem.isThere path) :
      StateM (World δ) (List (Path × Bool))).run world =
        (paths.map fun path => (path, Disk.isThere world.disk path), world) := by
  induction paths with
  | nil => rfl
  | cons path paths ih =>
    rw [List.mapM_cons]
    exact congrArg (fun rest => ((path, Disk.isThere world.disk path) :: rest.1, rest.2)) ih

/-- Reading some paths drops those that are not there, and then takes up the others. -/
theorem runOn_readSome (paths : List Path) (session : Session) (world : World δ) :
    runOn (readSome paths) session world = runOn (do
      let dropped ← anyChange dropSource (paths.filter (!Disk.isThere world.disk ·))
      let taken ← anyChange takeUp (paths.filter (Disk.isThere world.disk ·))
      return dropped || taken) session world := by
  rw [readSome, runOn_bind, runOn_monadLift, run_mapM_isThere]
  dsimp only
  -- Looking at each path first tells the two parts apart.
  rw [filterMap_looked (!Disk.isThere world.disk ·), filterMap_looked (Disk.isThere world.disk ·)]
  · rfl
  · intro path
    rfl
  · intro path
    cases Disk.isThere world.disk path <;> rfl

/-- A reading leaves the files as they are. -/
theorem keepsDisk_read (changed : Option (List Path)) :
    KeepsDisk (read changed : SessionM (StateM (World δ)) Bool) := by
  -- The changes only read, whether every source is taken or some are.
  have keeps (first : Bool) :
      KeepsDisk (readChanges changed first : SessionM (StateM (World δ)) Bool) := by
    unfold readChanges
    split
    · exact keepsDisk_readAll
    · exact keepsDisk_readSome _
  intro session world
  rcases ran : runOn (read changed) session world with ⟨outcome, after, later⟩
  rcases read_cases ran with ⟨_, -, went⟩ | ⟨-, -, -, went⟩ | ⟨_, _, _, -, went, -, last⟩
  · exact (keeps _).of_ran went
  · exact (keeps _).of_ran went
  · -- The new index only logs.
    rw [last]
    exact (keepsDisk_rebuild _ _).trans ((keeps _).of_ran went)

end

end Session

end MessageCatalog
