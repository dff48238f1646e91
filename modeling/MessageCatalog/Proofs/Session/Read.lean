import MessageCatalog.Proofs.Session.Beginning

/-! A reading that reports no change has changed nothing, and one that reports a change makes the index
anew. -/

namespace MessageCatalog

namespace Session

/-- The index is the one of the texts that are kept. -/
def IsFresh (session : Session) : Prop :=
  session.index = .ofSources session.functions session.sources

instance (session : Session) : Decidable session.IsFresh := inferInstanceAs (Decidable (_ = _))

/-- All but the texts and the index stays as it was. -/
def KeepsRest (before after : Session) : Prop :=
  after = { before with sources := after.sources, index := after.index }

theorem KeepsRest.trans {a b c : Session} (first : KeepsRest a b) (second : KeepsRest b c) :
    KeepsRest a c := by
  unfold KeepsRest at *
  rw [second, first]

theorem KeepsRest.functions {before after : Session} (kept : KeepsRest before after) :
    after.functions = before.functions := by
  rw [kept]

/-- A step that reports whether it changed anything: it touches texts and index only, and neither of
them when it reports no change. -/
structure Reports {σ : Type} (step : SessionM (StateM σ) Bool) : Prop where
  keepsRest : Keeps KeepsRest step
  unchanged : ∀ {session after : Session} {world later : σ},
    runOn step session world = (.ok false, after, later) → after = session

section

variable {σ : Type}

/-- Nothing to do is no change. -/
theorem reports_nothing : Reports (pure false : SessionM (StateM σ) Bool) where
  keepsRest _ _ := rfl
  unchanged ran := by
    simp only [runOn_pure, Prod.mk.injEq] at ran
    exact ran.2.1.symm

/-- Two steps change something when one of them does. -/
theorem Reports.either {first second : SessionM (StateM σ) Bool} (left : Reports first)
    (right : Reports second) :
    Reports (do let changed ← first; let others ← second; return changed || others) where
  keepsRest := by
    -- No change at the end means none in either step, and so the session is the same throughout.
    refine left.keepsRest.bind (fun changed => ?_) .trans
    exact right.keepsRest.bind (fun others _ _ => rfl) .trans
  unchanged := by
    intro session after world later ran
    obtain ⟨changed, between, middle, began, rest⟩ := runOn_bind_eq_ok ran
    obtain ⟨others, stopped, last, ended, told⟩ := runOn_bind_eq_ok rest
    simp only [runOn_pure, Prod.mk.injEq, Except.ok.injEq, Bool.or_eq_false_iff] at told
    obtain ⟨⟨rfl, rfl⟩, rfl, rfl⟩ := told
    rw [right.unchanged ended, left.unchanged began]

/-- A step for each path reports as its steps do. -/
theorem reports_anyChange {step : Path → SessionM (StateM σ) Bool}
    (each : ∀ path, Reports (step path)) (paths : List Path) : Reports (anyChange step paths) := by
  induction paths with
  | nil => exact reports_nothing
  | cons path paths ih => exact (each path).either ih

/-- A step after one that looks at the world only reports as it does for any answer. -/
theorem Reports.after_lift {α : Type} {look : StateM σ α} {next : α → SessionM (StateM σ) Bool}
    (each : ∀ value, Reports (next value)) :
    Reports ((monadLift look : SessionM (StateM σ) α) >>= next) where
  keepsRest session world := by
    rw [runOn_bind, runOn_monadLift]
    exact (each _).keepsRest _ _
  unchanged ran := by
    rw [runOn_bind, runOn_monadLift] at ran
    exact (each _).unchanged ran

/-- A step after one that asks the world, which may refuse, reports as it does for any answer. -/
theorem Reports.after_perform {α : Type} {ask : StateM σ (Outcome α)}
    {next : α → SessionM (StateM σ) Bool} (each : ∀ value, Reports (next value)) :
    Reports ((perform ask : SessionM (StateM σ) α) >>= next) where
  keepsRest session world := by
    rw [runOn_bind, runOn_perform]
    rcases (ask.run world).1 with failure | value
    · rfl
    · exact (each value).keepsRest _ _
  unchanged ran := by
    rw [runOn_bind, runOn_perform] at ran
    rename_i session after world later
    -- A failure reports nothing, so the answer was a value.
    cases answer : (ask.run world).1 with
    | error failure => simp [answer] at ran
    | ok value => exact (each value).unchanged (by simpa only [answer] using ran)

/-- A step after a look at the session reports as it does for any session. -/
theorem Reports.after_get {next : Session → SessionM (StateM σ) Bool}
    (each : ∀ session, Reports (next session)) : Reports (get >>= next) where
  keepsRest session world := (each session).keepsRest session world
  unchanged ran := (each _).unchanged ran

end

section

variable {σ : Type} [Console (StateM σ)]

/-- A world after a line was logged. -/
def logged (level : Level) (message : String) (world : σ) : σ :=
  ((log level message : StateM σ Unit).run world).2

@[simp] theorem runOn_logStep (level : Level) (message : String) (session : Session) (world : σ) :
    runOn (logStep level message : SessionM (StateM σ) Unit) session world =
      (.ok (), session, logged level message world) := rfl

/-- Dropping a file changes texts and index when it was tracked, and nothing otherwise. -/
theorem runOn_dropSource (path : Path) (session : Session) (world : σ) :
    runOn (dropSource path) session world =
      if session.isTracked path then
        (.ok true, { session with
          sources := session.sources.erase path
          index := session.index.dropFile path }, logged .debug ("Removed " ++ path.text) world)
      else (.ok false, session, world) := by
  simp only [dropSource, runOn_bind, runOn_get]
  by_cases tracked : session.isTracked path
  · simp only [tracked, if_true, runOn_bind, runOn_logStep, runOn_set, runOn_pure]
  · simp only [tracked, Bool.false_eq_true, if_false, runOn_pure]

theorem reports_dropSource (path : Path) : Reports (dropSource path : SessionM (StateM σ) Bool) where
  keepsRest session world := by
    rw [runOn_dropSource]
    split <;> rfl
  unchanged ran := by
    rw [runOn_dropSource] at ran
    -- Only a path that is not tracked is reported as no change.
    split at ran
    · simp at ran
    · simp only [Prod.mk.injEq] at ran
      exact ran.2.1.symm

/-- A world after some lines were logged. -/
def loggedAll (world : σ) (lines : List (Level × String)) : σ :=
  lines.foldl (fun world line => logged line.1 line.2 world) world

/-- Making the index anew succeeds, and logs what the scans of the texts have to tell. -/
theorem runOn_rebuild (session : Session) (world : σ) :
    runOn rebuild session world =
      (.ok (), { session with index := .ofSources session.functions session.sources },
        (Index.scans session.functions session.sources).foldl
          (fun world scanned => loggedAll world (Index.scanLog scanned.1 scanned.2)) world) := by
  simp only [rebuild, runOn_bind, runOn_get]
  -- The loop over the scans only logs, and so does the loop over the lines of each of them.
  rw [runOn_forIn fun world scanned => loggedAll world (Index.scanLog scanned.1 scanned.2)]
  · rfl
  · rintro ⟨path, scanned⟩ session world
    rw [runOn_bind, runOn_forIn fun world line => logged line.1 line.2 world]
    · rfl
    · rintro ⟨level, message⟩ session world
      rfl

variable [FileSystem (StateM σ)]

/-- Loading a file keeps its text when that is new, and drops the file when it is gone. -/
theorem runOn_loadSource (path : Path) (session : Session) (world : σ) :
    runOn (loadSource path) session world =
      match (FileSystem.read path : StateM σ (Outcome String)).run world with
      | (.error failure, later) =>
        if failure.isNotFound then runOn (dropSource path) session later
        else (.error (failure.within ("Failed to read source " ++ path.text)), session, later)
      | (.ok text, later) =>
        if session.sources.get? path = some text then (.ok false, session, later)
        else (.ok true, { session with sources := session.sources.insert path text },
          logged .debug ("Loaded " ++ path.text) later) := by
  simp only [loadSource, runOn_bind, runOn_monadLift]
  -- The cases are those of the function: what is read, and what is held already.
  rcases (FileSystem.read path : StateM σ (Outcome String)).run world with ⟨failure | text, later⟩
  · by_cases absent : failure.isNotFound
    · simp only [absent, if_true]
    · simp only [absent, Bool.false_eq_true, if_false, runOn_throw]
  · simp only [runOn_bind, runOn_get]
    by_cases known : session.sources.get? path = some text
    · simp only [known, if_true, runOn_pure]
    · simp only [known, if_false, runOn_bind, runOn_logStep, runOn_set, runOn_pure]

theorem reports_loadSource (path : Path) : Reports (loadSource path : SessionM (StateM σ) Bool) where
  keepsRest session world := by
    rw [runOn_loadSource]
    -- Whatever the reading of the file gives, only the sources and the index are touched.
    split
    · split
      · exact (reports_dropSource path).keepsRest _ _
      · rfl
    · split <;> rfl
  unchanged ran := by
    rw [runOn_loadSource] at ran
    -- No change is reported where the text is the one that is tracked, or where nothing is dropped.
    split at ran
    · split at ran
      · exact (reports_dropSource path).unchanged ran
      · simp at ran
    · split at ran
      · simp only [Prod.mk.injEq] at ran
        exact ran.2.1.symm
      · simp at ran

/-- A path on a list that is there: a source is loaded, and anything else is dropped. -/
def takeUp (path : Path) : SessionM (StateM σ) Bool := do
  if (← get).isSource path then loadSource path else dropSource path

theorem runOn_takeUp (path : Path) (session : Session) (world : σ) :
    runOn (takeUp path) session world =
      if session.isSource path then runOn (loadSource path) session world
      else runOn (dropSource path) session world := by
  rw [takeUp, runOn_bind, runOn_get]
  dsimp only
  split <;> rfl

theorem reports_takeUp (path : Path) : Reports (takeUp path : SessionM (StateM σ) Bool) := by
  apply Reports.after_get
  intro session
  split
  · exact reports_loadSource path
  · exact reports_dropSource path

/-- Reading every source reports whether anything changed. -/
theorem reports_readAll : Reports (readAll : SessionM (StateM σ) Bool) := by
  -- What is asked of the disk first changes nothing.
  apply Reports.after_get
  intro session
  apply Reports.after_perform
  intro matching
  apply Reports.after_lift
  intro files
  exact (reports_anyChange reports_dropSource _).either (reports_anyChange reports_loadSource _)

/-- Reading some paths reports whether anything changed. -/
theorem reports_readSome (paths : List Path) :
    Reports (readSome paths : SessionM (StateM σ) Bool) := by
  apply Reports.after_lift
  intro present
  exact (reports_anyChange reports_dropSource _).either (reports_anyChange reports_takeUp _)

/-- What is read after the first time: some paths when there are any, and all of them otherwise. -/
def readChanges (changed : Option (List Path)) (first : Bool) : SessionM (StateM σ) Bool :=
  match changed.filter fun paths => !first && !paths.isEmpty with
  | none => readAll
  | some paths => readSome paths

/-- Every source is read the first time, and when no paths are given. -/
theorem readChanges_whole {changed : Option (List Path)} {session : Session}
    (whole : session.hasRead = false ∨ changed = none ∨ changed = some []) :
    (readChanges changed !session.hasRead : SessionM (StateM σ) Bool) = readAll := by
  rcases whole with first | rfl | rfl
  · cases changed <;> simp [readChanges, Option.filter, first]
  · rfl
  · simp [readChanges, Option.filter]

/-- Paths are read alone when it is not the first time. -/
theorem readChanges_paths {paths : List Path} {session : Session} (again : session.hasRead = true)
    (nonempty : paths ≠ []) :
    (readChanges (some paths) !session.hasRead : SessionM (StateM σ) Bool) = readSome paths := by
  have full : paths.isEmpty = false := by simpa using nonempty
  simp [readChanges, Option.filter, again, full]

theorem reports_readChanges (changed : Option (List Path)) (first : Bool) :
    Reports (readChanges changed first : SessionM (StateM σ) Bool) := by
  unfold readChanges
  split
  · exact reports_readAll
  · exact reports_readSome _

/-- A reading makes the index anew when it is the first one or something changed. -/
theorem runOn_read (changed : Option (List Path)) (session : Session) (world : σ) :
    runOn (read changed) session world =
      match runOn (readChanges changed !session.hasRead) { session with hasRead := true } world with
      | (.error failure, between, later) => (.error failure, between, later)
      | (.ok changes, between, later) =>
        if !session.hasRead || changes then
          (.ok true, { between with index := .ofSources between.functions between.sources },
            (runOn rebuild between later).2.2)
        else (.ok false, between, later) := by
  -- All kinds of readings end in the same step, and so it stands behind `readChanges` once.
  have opened : runOn (read changed) session world =
      runOn (readChanges changed (!session.hasRead) >>= fun changes => do
        if !session.hasRead || changes then rebuild
        return !session.hasRead || changes)
        { session with hasRead := true } world := by
    simp only [read, readChanges, runOn_bind, runOn_get, runOn_modify]
    cases changed.filter fun paths => !(!session.hasRead) && !paths.isEmpty <;>
      exact runOn_bind ..
  rw [opened, runOn_bind]
  rcases runOn (readChanges changed !session.hasRead) { session with hasRead := true } world with
    ⟨failure | changes, between, later⟩
  · rfl
  · -- That it is the first reading counts like a change.
    by_cases told : !session.hasRead || changes
    · simp only [told, if_true, runOn_bind, runOn_rebuild, runOn_pure]
    · simp only [told, Bool.false_eq_true, if_false, runOn_pure]

/-- What a reading can do. It fails on the way to the texts; or it is not the first one, and nothing
changed; or it makes the index anew from the texts that it leaves. -/
theorem read_cases {changed : Option (List Path)} {session after : Session} {world later : σ}
    {outcome : Outcome Bool}
    (ran : runOn (read changed) session world = (outcome, after, later)) :
    (∃ failure, outcome = .error failure ∧
      runOn (readChanges changed !session.hasRead) { session with hasRead := true } world =
        (.error failure, after, later)) ∨
    (outcome = .ok false ∧ after = session ∧ session.hasRead = true ∧
      runOn (readChanges changed !session.hasRead) { session with hasRead := true } world =
        (.ok false, after, later)) ∨
    ∃ changes between middle, outcome = .ok true ∧
      runOn (readChanges changed !session.hasRead) { session with hasRead := true } world =
        (.ok changes, between, middle) ∧
      after = { between with index := .ofSources between.functions between.sources } ∧
      later = (runOn rebuild between middle).2.2 := by
  rw [runOn_read] at ran
  -- Only the changes can fail; what is done after them makes the index or does nothing.
  rcases went : runOn (readChanges changed !session.hasRead) { session with hasRead := true } world with
    ⟨failure | changes, between, middle⟩
  all_goals
    rw [went] at ran
    dsimp only at ran
  · cases ran
    exact .inl ⟨failure, rfl, rfl⟩
  · -- A first reading always makes the index, also where nothing is found.
    by_cases told : !session.hasRead || changes
    · rw [if_pos told] at ran
      cases ran
      exact .inr (.inr ⟨changes, between, middle, rfl, rfl, rfl, rfl⟩)
    · -- No change was reported, and so none was made; that a reading was tried was known before.
      rw [if_neg told] at ran
      cases ran
      simp only [Bool.or_eq_true, Bool.not_eq_true', not_or, Bool.not_eq_false,
        Bool.not_eq_true] at told
      obtain ⟨again, rfl⟩ := told
      refine .inr (.inl ⟨rfl, ?_, again, rfl⟩)
      rw [(reports_readChanges changed _).unchanged went, ← again]

/-- A reading leaves the settings of a session as they are. -/
theorem keepsRest_of_read {changed : Option (List Path)} {session after : Session}
    {world later : σ} {outcome : Outcome Bool}
    (ran : runOn (read changed) session world = (outcome, after, later)) :
    KeepsRest { session with hasRead := true } after := by
  have kept := (reports_readChanges changed (!session.hasRead) (σ := σ)).keepsRest
  rcases read_cases ran with ⟨_, -, went⟩ | ⟨-, -, -, went⟩ | ⟨_, _, _, -, went, rfl, -⟩
  · exact kept.of_ran went
  · exact kept.of_ran went
  · exact (kept.of_ran went).trans rfl

/-- A reading that reports no change was not the first one, and left the session as it was. -/
theorem eq_of_read_false {changed : Option (List Path)} {session after : Session} {world later : σ}
    (ran : runOn (read changed) session world = (.ok false, after, later)) :
    session.hasRead = true ∧ after = session := by
  rcases read_cases ran with ⟨_, ⟨⟩, _⟩ | ⟨-, same, again, -⟩ | ⟨_, _, _, ⟨⟩, _⟩
  exact ⟨again, same⟩

/-- A reading that reports a change leaves a fresh index. -/
theorem isFresh_of_read_true {changed : Option (List Path)} {session after : Session}
    {world later : σ} (ran : runOn (read changed) session world = (.ok true, after, later)) :
    after.IsFresh := by
  rcases read_cases ran with ⟨_, ⟨⟩, _⟩ | ⟨⟨⟩, _⟩ | ⟨_, _, _, -, -, rfl, -⟩
  rfl

/-- A reading that succeeds leaves the texts that were read before the index was made anew. -/
theorem exists_of_read_ok {changed : Option (List Path)} {session after : Session}
    {world later : σ} {changes : Bool}
    (ran : runOn (read changed) session world = (.ok changes, after, later)) :
    ∃ told between middle, runOn (readChanges changed !session.hasRead)
        { session with hasRead := true } world = (.ok told, between, middle) ∧
      after.sources = between.sources := by
  rcases read_cases ran with ⟨_, ⟨⟩, _⟩ | ⟨-, -, -, went⟩ | ⟨told, between, middle, -, went, rfl, -⟩
  · exact ⟨_, _, _, went, rfl⟩
  · exact ⟨told, between, middle, went, rfl⟩

end

end Session

end MessageCatalog
