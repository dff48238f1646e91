import MessageCatalog.Proofs.Session.WriteCache

/-! What has been printed makes no difference to what a session writes. -/

namespace MessageCatalog

variable {δ α β : Type}

/-- A step of a world goes by its files: whatever has been printed, it answers the same and leaves the same
files. -/
def World.Blind (step : StateM (World δ) α) : Prop :=
  ∀ world world' : World δ, world'.disk = world.disk →
    (step.run world').1 = (step.run world).1 ∧
      (step.run world').2.disk = (step.run world).2.disk

namespace Session

/-- What a run leaves, but for what it has printed. -/
def effect (run : Outcome α × Session × World δ) : Outcome α × Session × δ :=
  (run.1, run.2.1, run.2.2.disk)

/-- A step of a session goes by the files of the world. -/
def Blind (step : SessionM (StateM (World δ)) α) : Prop :=
  ∀ session (world world' : World δ), world'.disk = world.disk →
    effect (runOn step session world') = effect (runOn step session world)

/-- A blind step that was run leads to the same outcome and session, and to the same files, in a world with
the same files. -/
theorem Blind.of_ran {step : SessionM (StateM (World δ)) α} (blind : Blind step)
    {session after : Session} {world world' later : World δ} {outcome : Outcome α}
    (same : world'.disk = world.disk) (ran : runOn step session world = (outcome, after, later)) :
    ∃ later', runOn step session world' = (outcome, after, later') ∧ later'.disk = later.disk := by
  have alike := blind session world world' same
  rcases ran' : runOn step session world' with ⟨outcome', after', later'⟩
  rw [ran, ran'] at alike
  simp only [effect, Prod.mk.injEq] at alike
  obtain ⟨rfl, rfl, disk⟩ := alike
  exact ⟨later', rfl, disk⟩

/-- A blind step after another one. -/
theorem Blind.bind {step : SessionM (StateM (World δ)) α}
    {next : α → SessionM (StateM (World δ)) β} (first : Blind step)
    (second : ∀ value, Blind (next value)) : Blind (step >>= next) := by
  intro session world world' same
  -- Both runs come to the same outcome on the same disk, and so the next step does, too.
  rcases ran : runOn step session world with ⟨failure | value, between, middle⟩
  all_goals
    obtain ⟨middle', ran', disk⟩ := first.of_ran same ran
    rw [runOn_bind, runOn_bind, ran, ran']
  · rw [effect, effect, disk]
  · exact second value between middle middle' disk

/-- A step after a look at the session. -/
theorem Blind.after_get {next : Session → SessionM (StateM (World δ)) α}
    (each : ∀ session, Blind (next session)) : Blind (get >>= next) :=
  fun session world world' same => each session session world world' same

theorem blind_pure (value : α) : Blind (pure value : SessionM (StateM (World δ)) α) :=
  fun _ _ _ same => by rw [runOn_pure, runOn_pure, effect, effect, same]

/-- A sequence goes by the files when its steps do. -/
theorem stepLaw_blind : StepLaw fun α (step : SessionM (StateM (World δ)) α) => Blind step where
  pure := blind_pure
  get _ _ _ same := by rw [runOn_get, runOn_get, effect, effect, same]
  bind := Blind.bind

theorem blind_throw (failure : Failure) :
    Blind (throw failure : SessionM (StateM (World δ)) α) :=
  fun _ _ _ same => by rw [runOn_throw, runOn_throw, effect, effect, same]

theorem blind_modify (change : Session → Session) :
    Blind (modify change : SessionM (StateM (World δ)) PUnit) :=
  fun _ _ _ same => by rw [runOn_modify, runOn_modify, effect, effect, same]

/-- A blind step of the world, as one of a session. -/
theorem blind_monadLift {step : StateM (World δ) α} (blind : World.Blind step) :
    Blind (monadLift step : SessionM (StateM (World δ)) α) := by
  intro session world world' same
  obtain ⟨answer, disk⟩ := blind world world' same
  rw [runOn_monadLift, runOn_monadLift, effect, effect, answer, disk]

/-- A blind step of the world that may fail, as one of a session. -/
theorem blind_perform {step : StateM (World δ) (Outcome α)} (blind : World.Blind step) :
    Blind (perform step : SessionM (StateM (World δ)) α) := by
  intro session world world' same
  obtain ⟨answer, disk⟩ := blind world world' same
  rw [runOn_perform, runOn_perform, effect, effect, answer, disk]

theorem blind_inCatalog (doing : String) (path : Path) (result : Except CatalogFault α) :
    Blind (inCatalog doing path result : SessionM (StateM (World δ)) α) := by
  cases result with
  | ok value => exact blind_pure value
  | error fault => exact blind_throw _

end Session

namespace World

/-- A blind step of a world after another one. -/
theorem Blind.bind {step : StateM (World δ) α} {next : α → StateM (World δ) β} (first : Blind step)
    (second : ∀ value, Blind (next value)) : Blind (step >>= next) := by
  intro world world' same
  obtain ⟨answer, disk⟩ := first world world' same
  rw [Session.run_worldBind, Session.run_worldBind, answer]
  exact second _ _ _ disk

/-- Those of some paths that pass a blind test. -/
theorem blind_keepPaths {test : Path → StateM (World δ) Bool} (each : ∀ path, Blind (test path))
    (paths : List Path) : Blind (Session.keepPaths test paths) := by
  induction paths with
  | nil => exact fun _ _ same => ⟨rfl, same⟩
  | cons path paths ih => exact (each path).bind fun _ => ih.bind fun _ _ _ same => ⟨rfl, same⟩

variable [Disk δ]

theorem blind_read (path : Path) :
    Blind (FileSystem.read path : StateM (World δ) (Outcome String)) :=
  fun _ _ same => ⟨congrArg (Disk.read · path) same, same⟩

theorem blind_isDir (path : Path) : Blind (FileSystem.isDir path : StateM (World δ) Bool) :=
  fun _ _ same => ⟨congrArg (Disk.isDir · path) same, same⟩

theorem blind_glob (patterns ignore : List String) :
    Blind (FileSystem.glob patterns ignore : StateM (World δ) (Outcome (SortedSet Path))) :=
  fun _ _ same => ⟨congrArg (Disk.glob · patterns ignore) same, same⟩

/-- Giving a file a text by way of a cache goes by the files. -/
theorem blind_writeIfChanged (cache : WriteCache) (path : Path) (text : String) :
    Blind (WriteCache.writeIfChanged cache path text :
      StateM (World δ) (Outcome Bool × WriteCache)) := by
  -- Writing the text leads to the same disk, and the screens play no part.
  have put : Blind (WriteCache.putText path text : StateM (World δ) (Outcome Unit)) := by
    intro world world' same
    rw [WriteCache.run_putText, WriteCache.run_putText, same]
    cases Disk.write world.disk path text with
    | error failure => exact ⟨rfl, same⟩
    | ok disk =>
      dsimp only
      rw [Session.disk_logged, Session.disk_logged]
      exact ⟨rfl, rfl⟩
  -- The directory is made first, if need be; all of it goes by the disk.
  have place : Blind (WriteCache.place path text : StateM (World δ) (Outcome Unit)) := by
    intro world world' same
    rw [WriteCache.run_place, WriteCache.run_place, same]
    cases WriteCache.prepared world.disk path with
    | error failure => exact ⟨rfl, same⟩
    | ok disk => exact put (world.setDisk disk) (world'.setDisk disk) rfl
  have placeIn : Blind (WriteCache.placeIn cache path text :
      StateM (World δ) (Outcome Bool × WriteCache)) := by
    refine place.bind fun placed => ?_
    cases placed <;> exact fun _ _ same => ⟨rfl, same⟩
  -- Each case of a call is decided by the cache and the disk alone.
  intro world world' same
  rw [WriteCache.run_writeIfChanged, WriteCache.run_writeIfChanged, same]
  split
  · exact ⟨rfl, same⟩
  · split
    · exact ⟨rfl, same⟩
    · split
      · exact placeIn world world' same
      · split
        · exact placeIn world world' same
        · exact ⟨rfl, same⟩

end World

namespace Session

variable [Disk δ]

theorem blind_writeCached (cache : Session → WriteCache)
    (setCache : Session → WriteCache → Session) (path : Path) (text : String) :
    Blind (writeCached cache setCache path text : SessionM (StateM (World δ)) Bool) := by
  apply Blind.after_get
  intro session
  refine (blind_monadLift (World.blind_writeIfChanged _ path text)).bind fun answer => ?_
  refine (blind_modify _).bind fun _ => ?_
  -- The cache is kept either way, and a failure is thrown behind that.
  rcases answer with ⟨failure | written, updated⟩
  · exact blind_throw failure
  · exact blind_pure written

theorem blind_readCatalog (path : Path) :
    Blind (readCatalog path : SessionM (StateM (World δ)) String) := by
  refine (blind_monadLift (World.blind_read _)).bind fun read => ?_
  -- What follows the reading is told by its outcome alone.
  cases read with
  | ok text => exact blind_pure text
  | error failure =>
    dsimp only
    split
    · exact blind_pure ""
    · exact blind_throw failure

/-- What is written goes by the files, whatever has been printed. -/
theorem blind_write : Blind (write : SessionM (StateM (World δ)) Bool) := by
  have law := stepLaw_blind (δ := δ)
  have search (patterns ignore : List String) := blind_perform (World.blind_glob patterns ignore (δ := δ))
  -- The parts of a writing are blind, and so it is, however they are put together.
  refine law.write (blind_modify _) (fun locales => ?_) fun merged => ?_
  · exact law.writeCatalogs (law.writeCatalog blind_readCatalog blind_inCatalog
      (fun _ _ => blind_writeCached _ _ _ _) fun _ _ => blind_modify _) locales ∅
  · exact law.writeBundles search
      (fun _ => blind_monadLift (World.blind_keepPaths World.blind_isDir _))
      (law.writeBundleFiles (fun _ => blind_writeCached _ _ _ _) fun _ => blind_modify _) merged

end Session

end MessageCatalog
