import MessageCatalog.Disk.Tree
import MessageCatalog.Proofs.Disk.Patterns
import MessageCatalog.Proofs.Session.Reached
import MessageCatalog.Proofs.Session.World

/-! Settings can hold texts that are no patterns; a session fails by one for sources when it reads all of
them, and by one for targets when it has written the catalogs. -/

namespace MessageCatalog

variable {σ : Type} {usable : String → Prop}

/-- What follows on a result that is no failure because of a pattern. -/
theorem not_failsByPattern_worldBind {α β γ : Type} (outcome : β → Outcome γ)
    {step : StateM σ (Outcome α)} {next : Outcome α → StateM σ β} {world : σ}
    (first : ¬ FailsByPattern (step.run world).1)
    (failed : ∀ failure later, FailsByPattern (outcome ((next (.error failure)).run later).1) →
      failure.isPattern = true)
    (done : ∀ value later, ¬ FailsByPattern (outcome ((next (.ok value)).run later).1)) :
    ¬ FailsByPattern (outcome ((step >>= next).run world).1) := by
  rw [Session.run_worldBind]
  generalize step.run world = ran at first ⊢
  obtain ⟨failure | value, later⟩ := ran
  · exact fun told => first (failed failure later told)
  · exact done value later

section

variable [FileSystem (StateM σ)] [Console (StateM σ)] (tells : TellsPatterns σ usable)

include tells

/-- Placing a text does not fail because of a pattern. -/
theorem WriteCache.not_failsByPattern_place (path : Path) (text : String) (world : σ) :
    ¬ FailsByPattern ((place path text : StateM σ (Outcome Unit)).run world).1 := by
  unfold place
  dsimp only
  split
  case' h_1 => split
  -- In each case the file is written behind what was done for its directory.
  all_goals
    refine not_failsByPattern_worldBind id ?_ (fun _ _ => id) fun _ later =>
      not_failsByPattern_worldBind id (tells.write path text later) (fun _ _ => id) fun _ _ => id
  · exact id
  · exact tells.makeDir _ world
  · exact id

/-- Writing by way of a cache does not fail because of a pattern. -/
theorem WriteCache.not_failsByPattern_writeIfChanged (cache : WriteCache) (path : Path)
    (text : String) (world : σ) :
    ¬ FailsByPattern
      ((writeIfChanged cache path text : StateM σ (Outcome Bool × WriteCache)).run world).1.1 := by
  -- Whether a text is placed or not, only reading and placing can fail.
  have placed := not_failsByPattern_place tells path text
  unfold writeIfChanged
  split
  · exact id
  · refine not_failsByPattern_worldBind Prod.fst (tells.read path world) (fun failure later => ?_)
      fun existing later => ?_
    · dsimp only
      split
      · exact fun told => absurd told
          (not_failsByPattern_worldBind Prod.fst (placed later) (fun _ _ => id) fun _ _ => id)
      · exact id
    · dsimp only
      split
      · exact id
      · exact not_failsByPattern_worldBind Prod.fst (placed later) (fun _ _ => id) fun _ _ => id

end

namespace Session

/-- A reading takes every source the first time, and when no paths are given. -/
def TakesAll (session : Session) (changed : Option (List Path)) : Prop :=
  session.hasRead = false ∨ changed = none ∨ changed = some []

/-- A step that never fails because of a pattern. -/
def PatternFree {α : Type} (step : SessionM (StateM σ) α) : Prop :=
  ∀ session world, ¬ FailsByPattern (runOn step session world).1

/-- A step before one that never fails because of a pattern. -/
theorem failsByPattern_bind {α β : Type} {step : SessionM (StateM σ) α}
    {next : α → SessionM (StateM σ) β} (second : ∀ value, PatternFree (next value))
    (session : Session) (world : σ) :
    FailsByPattern (runOn (step >>= next) session world).1 ↔
      FailsByPattern (runOn step session world).1 := by
  rw [runOn_bind]
  rcases runOn step session world with ⟨failure | value, between, middle⟩
  · exact .rfl
  · exact iff_of_false (second value between middle) id

/-- Two steps that never fail because of a pattern. -/
theorem PatternFree.bind {α β : Type} {step : SessionM (StateM σ) α}
    {next : α → SessionM (StateM σ) β} (first : PatternFree step)
    (second : ∀ value, PatternFree (next value)) : PatternFree (step >>= next) :=
  fun session world failed => first session world ((failsByPattern_bind second session world).1 failed)

/-- A step after a look at the session. -/
theorem PatternFree.after_get {β : Type} {next : Session → SessionM (StateM σ) β}
    (each : ∀ session, PatternFree (next session)) : PatternFree (get >>= next) :=
  fun session world => each session session world

/-- A sequence never fails because of a pattern when its steps never do. -/
theorem stepLaw_patternFree : StepLaw fun α (step : SessionM (StateM σ) α) => PatternFree step where
  pure _ _ _ := id
  get _ _ := id
  bind := PatternFree.bind

/-- A catalog that is at fault is no failure because of a pattern. -/
theorem patternFree_inCatalog {α : Type} (doing : String) (path : Path)
    (result : Except CatalogFault α) :
    PatternFree (inCatalog doing path result : SessionM (StateM σ) α) := by
  cases result <;> exact fun _ _ => nofun

section

variable [Console (StateM σ)]

theorem patternFree_dropSource (path : Path) :
    PatternFree (dropSource path : SessionM (StateM σ) Bool) := by
  intro session world
  rw [runOn_dropSource]
  split <;> exact id

variable [FileSystem (StateM σ)] (tells : TellsPatterns σ usable)

include tells

theorem patternFree_loadSource (path : Path) :
    PatternFree (loadSource path : SessionM (StateM σ) Bool) := by
  intro session world
  have free := tells.read path world
  rw [runOn_loadSource]
  generalize (FileSystem.read path : StateM σ (Outcome String)).run world = ran at free ⊢
  -- A file that is not there is dropped; any other failure is the one of the reading.
  obtain ⟨failure | text, later⟩ := ran
  · dsimp only
    split
    · exact patternFree_dropSource path session later
    · exact free
  · dsimp only
    split <;> exact id

/-- Reading some paths never fails because of a pattern. -/
theorem patternFree_readSome (paths : List Path) :
    PatternFree (readSome paths : SessionM (StateM σ) Bool) :=
  stepLaw_patternFree.readSome patternFree_dropSource (patternFree_loadSource tells)
    (fun _ _ _ => id) paths

/-- Reading every source fails because of a pattern when one of those for sources is not usable. -/
theorem failsByPattern_readAll {session : Session}
    (left : ∀ text ∈ session.config.ignore, IsPattern text) (world : σ) :
    FailsByPattern (runOn (readAll : SessionM (StateM σ) Bool) session world).1 ↔
      ∃ text ∈ session.config.input, ¬ usable text := by
  rw [← tells.glob session.config.input world left]
  rw [readAll, runOn_bind, runOn_get]
  refine failsByPattern_bind (fun matching => ?_) session world
  -- Behind the search there are lookups, and files that are dropped or loaded.
  refine PatternFree.bind (fun _ _ => id) fun files => ?_
  refine PatternFree.bind (stepLaw_patternFree.anyChange patternFree_dropSource _) fun dropped => ?_
  exact PatternFree.bind (stepLaw_patternFree.anyChange (patternFree_loadSource tells) _)
    fun _ _ _ => id

/-- A reading fails because of a pattern when it takes every source and one of the patterns for sources
is not usable. -/
theorem failsByPattern_read {session : Session}
    (left : ∀ text ∈ session.config.ignore, IsPattern text) (changed : Option (List Path))
    (world : σ) :
    FailsByPattern (runOn (read changed : SessionM (StateM σ) Bool) session world).1 ↔
      session.TakesAll changed ∧
        ∃ text ∈ session.config.input, ¬ usable text := by
  -- Making the index behind the texts takes no pattern.
  have opened : FailsByPattern (runOn (read changed) session world).1 ↔ FailsByPattern
      (runOn (readChanges changed !session.hasRead) { session with hasRead := true } world).1 := by
    rw [runOn_read]
    rcases runOn (readChanges changed !session.hasRead) { session with hasRead := true } world with
      ⟨failure | changes, between, later⟩
    · exact .rfl
    · dsimp only
      split <;> exact .rfl
  rw [opened]
  -- Every source is taken by way of the patterns, and listed paths are not.
  by_cases whole : session.TakesAll changed
  · rw [readChanges_whole whole, and_iff_right whole]
    have again : ∀ text ∈ { session with hasRead := true }.config.ignore, IsPattern text := left
    exact failsByPattern_readAll tells again world
  · -- Listed paths are looked up one by one, without patterns for sources.
    refine iff_of_false ?_ fun told => whole told.1
    simp only [TakesAll, not_or, Bool.not_eq_false] at whole
    obtain ⟨again, some, nonempty⟩ := whole
    cases changed with
    | none => exact absurd rfl some
    | some paths =>
      rw [readChanges_paths again fun empty => nonempty (congrArg _ empty)]
      exact patternFree_readSome tells paths _ world

omit [Console (StateM σ)] in
theorem patternFree_readCatalog (path : Path) :
    PatternFree (readCatalog path : SessionM (StateM σ) String) := by
  intro session world
  have free := tells.read path world
  rw [readCatalog, runOn_bind, runOn_monadLift]
  generalize (FileSystem.read path : StateM σ (Outcome String)).run world = ran at free ⊢
  -- A file that is not there is no failure; any other failure is the one of the reading.
  obtain ⟨failure | text, later⟩ := ran
  · dsimp only
    split
    · exact id
    · exact free
  · exact id

theorem patternFree_writeCached (cache : Session → WriteCache)
    (setCache : Session → WriteCache → Session) (path : Path) (text : String) :
    PatternFree (writeCached cache setCache path text : SessionM (StateM σ) Bool) := by
  refine PatternFree.after_get fun known session world => ?_
  -- The call by way of the cache takes no pattern, and what is done with its outcome does not, either.
  have free := WriteCache.not_failsByPattern_writeIfChanged tells (cache known) path text world
  rw [runOn_bind, runOn_monadLift]
  generalize (WriteCache.writeIfChanged (cache known) path text :
    StateM σ (Outcome Bool × WriteCache)).run world = ran at free ⊢
  obtain ⟨⟨failure | written, updated⟩, later⟩ := ran
  · exact free
  · exact id

/-- Writing catalogs never fails because of a pattern. -/
theorem patternFree_writeCatalogs (locales : List String) (merged : SortedMap String (List Entry)) :
    PatternFree
      (writeCatalogs locales merged : SessionM (StateM σ) (SortedMap String (List Entry))) := by
  refine stepLaw_patternFree.writeCatalogs (fun locale => ?_) locales merged
  exact stepLaw_patternFree.writeCatalog (patternFree_readCatalog tells) patternFree_inCatalog
    (fun _ _ => patternFree_writeCached tells _ _ _ _) (fun _ _ _ _ => id) locale

theorem patternFree_writeBundleFiles (files : List (Path × String)) :
    PatternFree (writeBundleFiles files : SessionM (StateM σ) Unit) :=
  stepLaw_patternFree.writeBundleFiles (fun _ => patternFree_writeCached tells _ _ _ _)
    (fun _ _ _ => id) files

/-- Writing bundles fails because of a pattern when one of those for targets is not usable. -/
theorem failsByPattern_writeBundles {session : Session}
    (left : ∀ text ∈ session.config.ignore, IsPattern text)
    (merged : SortedMap String (List Entry)) (world : σ) :
    FailsByPattern (runOn (writeBundles merged : SessionM (StateM σ) Unit) session world).1 ↔
      ∃ text ∈ session.config.targets, ¬ usable text := by
  rw [← tells.glob session.config.targets world left]
  rw [writeBundles, runOn_bind, runOn_get]
  refine failsByPattern_bind (fun matching => ?_) session world
  exact PatternFree.bind (fun _ _ => id) fun targets => patternFree_writeBundleFiles tells _

/-- A writing fails because of a pattern when it has written all catalogs and one of the patterns for
targets is not usable. -/
theorem failsByPattern_write {session : Session}
    (left : ∀ text ∈ session.config.ignore, IsPattern text) (world : σ) :
    FailsByPattern (runOn (write : SessionM (StateM σ) Bool) session world).1 ↔
      (∃ merged, (runOn (writeCatalogs session.config.locales ∅) session.counted world).1 =
        .ok merged) ∧ ∃ text ∈ session.config.targets, ¬ usable text := by
  have free := patternFree_writeCatalogs tells session.config.locales ∅ session.counted world
  rw [runOn_write]
  -- A writing that ends at its catalogs comes to no pattern.
  rcases ran : runOn (writeCatalogs session.config.locales ∅) session.counted world with
    ⟨failure | merged, between, middle⟩
  · rw [ran] at free
    exact iff_of_false free nofun
  · -- Writing the catalogs keeps the settings, and takes no pattern itself.
    have same : between.config = session.config := by
      rw [(keepsBundles_writeCatalogs session.config.locales ∅).of_ran ran]
      rfl
    have bundles := failsByPattern_writeBundles tells (same.symm ▸ left) merged middle
    rw [same] at bundles
    rw [← bundles, and_iff_right ⟨merged, rfl⟩]
    dsimp only
    rcases runOn (writeBundles merged) between middle with ⟨failure | ⟨⟩, after, later⟩ <;> exact .rfl

omit [Console (StateM σ)] in
/-- The end of a session never fails because of a pattern. -/
theorem patternFree_close : PatternFree (close : SessionM (StateM σ) Unit) := by
  refine PatternFree.after_get fun session => ?_
  refine PatternFree.bind (fun _ _ => id) fun _ => ?_
  -- There may be a directory to remove, if the session made one and it is still there.
  split
  · refine PatternFree.bind (fun _ _ => id) fun isThere => ?_
    split
    · exact fun _ world => tells.removeDir _ world
    · exact fun _ _ => id
  · exact fun _ _ => id

omit tells in
/-- Whatever a session went through, its settings are those that it began with. -/
theorem Reached.config_eq {config : Config} {start session : Session} {dawn dusk : σ}
    {fits : SortedMap Path String → Prop}
    (made : (new config : StateM σ (Outcome Session)).run dawn = (.ok start, dusk))
    (reached : Reached σ fits start session) : session.config = config := by
  have named := named_new made
  obtain ⟨-, included, ignored, dir, scratch, -, -, rfl⟩ := new_eq_ok made
  have begun (start : Session) (unread : start.index = {}) : Kept (fun _ => True) start start :=
    ⟨⟨rfl, rfl, rfl⟩, unread ▸ LiveMessages.sound_empty⟩
  exact (reached.kept named (begun _ rfl) fun _ _ _ _ => trivial).same.1

/-- Settings that begin a session can hold patterns that are not usable, and its operations fail by them
as late as this: a reading does when it takes every source and a pattern for sources is not usable; a
writing does when it has written all catalogs and a pattern for targets is not usable; an update does
when its reading or its writing does; and the end never does. -/
theorem fails_by_pattern_iff {config : Config} {start session : Session} {dawn dusk : σ}
    {fits : SortedMap Path String → Prop}
    (made : (new config : StateM σ (Outcome Session)).run dawn = (.ok start, dusk))
    (reached : Reached σ fits start session) (world : σ) :
    (∀ changed, FailsByPattern (runOn (read changed) session world).1 ↔
      session.TakesAll changed ∧
        ∃ text ∈ config.input, ¬ usable text) ∧
    (FailsByPattern (runOn write session world).1 ↔
      (∃ merged, (runOn (writeCatalogs config.locales ∅) session.counted world).1 = .ok merged) ∧
        ∃ text ∈ config.targets, ¬ usable text) ∧
    (∀ changed, FailsByPattern (runOn (update changed) session world).1 ↔
      session.TakesAll changed ∧
          (∃ text ∈ config.input, ¬ usable text) ∨
        ∃ between middle, runOn (read changed) session world = (.ok true, between, middle) ∧
          (∃ merged, (runOn (writeCatalogs config.locales ∅) between.counted middle).1 =
            .ok merged) ∧ ∃ text ∈ config.targets, ¬ usable text) ∧
    ¬ FailsByPattern (runOn close session world).1 := by
  have settings := reached.config_eq made
  have left : ∀ text ∈ config.ignore, IsPattern text := by
    obtain ⟨-, included, ignored, dir, scratch, -, compiled, -⟩ := new_eq_ok made
    exact isPattern_of_compiled compiled
  have reads (changed) := failsByPattern_read tells (settings.symm ▸ left) changed world
  -- The settings are those of the beginning in each state that is come to.
  have writes {session : Session} (same : session.config = config) (world : σ) :=
    failsByPattern_write tells (same.symm ▸ left) world
  rw [settings] at reads
  refine ⟨reads, ?_, fun changed => ?_, patternFree_close tells session world⟩
  · have wrote := writes settings world
    rwa [settings] at wrote
  · -- An update is a reading, which may fail, and a writing where there were changes.
    rw [← reads changed, runOn_update]
    rcases ran : runOn (read changed) session world with ⟨failure | told, between, middle⟩
    · simp
    · cases told with
      | false => simp
      | true =>
        have same : between.config = config := by
          rw [keepsRest_of_read ran]
          exact settings
        have wrote := writes same middle
        rw [same] at wrote
        dsimp only
        refine Iff.trans ?_ (wrote.trans ⟨fun told => .inr ⟨between, middle, rfl, told⟩, ?_⟩)
        · rcases runOn write between middle with ⟨failure | any, after, later⟩ <;> exact .rfl
        · -- The writing starts where the reading ended, and nowhere else.
          rintro (told | ⟨_, _, same, told⟩)
          · exact told.elim
          · cases same
            exact told

end

/-- A session with a text for targets that is no pattern. -/
private def unclosed : Session := onFile "a.js" ["en"] ["["]

/-- A session with a pattern for sources that no walk can take: what stands in front of its slash is no
pattern. -/
private def unwalkable : Session :=
  begun { input := ["a[/]b"] } [⟨"a[/]b", [.char 'a', .anyOf [.single '/'], .char 'b']⟩] []
    ⟨"locales"⟩ none

private theorem run_new_unclosed (world : World MemoryDisk) :
    (new unclosed.config : StateM (World MemoryDisk) (Outcome Session)).run world =
      (.ok unclosed, world) := run_new_onFile world (by cbv) (by cbv)

private theorem run_new_unwalkable (world : World Tree) :
    (new unwalkable.config : StateM (World Tree) (Outcome Session)).run world =
      (.ok unwalkable, world) := run_new_of_compiled (by cbv) (by cbv) rfl rfl world

/-- The text for targets stops a writing in memory, and the pattern for sources stops the first reading
on a machine. -/
theorem fails_by_pattern_iff_refused :
    FailsByPattern (runOn write unclosed World.bare).1 ∧
      FailsByPattern (runOn (read none) unwalkable (⟨.empty, {}⟩ : World Tree)).1 := by
  -- A range that is not closed is no pattern at all; one with a slash only cannot be walked.
  have none : ¬ IsPattern "[" := by
    rintro ⟨pattern, parsed⟩
    have refused : Pattern.parse "[" = .error ⟨0, .range⟩ := by cbv
    cases refused.symm.trans parsed
  have stuck : ¬ IsWalkable "a[/]b" := by
    rintro ⟨-, components, compiled⟩
    have refused : Glob.componentPatterns "a[/]b".toList = .error (.of (.pattern ⟨1, .range⟩)) := by cbv
    cases refused.symm.trans compiled
  have wrote : (runOn (writeCatalogs ["en"] ∅) unclosed.counted World.bare).1.isOk = true := by
    decide +kernel
  -- The catalogs of the one session can be written, so that it comes to its patterns for targets.
  refine ⟨(fails_by_pattern_iff MemoryDisk.tellsPatterns (run_new_unclosed World.bare)
    (.start : Reached _ (fun _ => True) _ _) World.bare).2.1.2 ⟨?_, "[", .head _, none⟩,
    ((fails_by_pattern_iff tellsPatterns_host (run_new_unwalkable ⟨.empty, {}⟩)
      (.start : Reached _ (fun _ => True) _ _) ⟨.empty, {}⟩).1 _).2 ⟨.inl rfl, _, .head _, stuck⟩⟩
  cases told : (runOn (writeCatalogs ["en"] ∅) unclosed.counted World.bare).1 with
  | ok merged => exact ⟨merged, told⟩
  | error failure =>
    rw [told] at wrote
    cases wrote

/-- An update can fail by a pattern after it has written a catalog. -/
theorem not_patterns_refused_first :
    ¬ ∀ (config : Config) (start session : Session) (dawn dusk world : World MemoryDisk)
      (changed : Option (List Path)),
      (new config : StateM (World MemoryDisk) (Outcome Session)).run dawn = (.ok start, dusk) →
      Reached (World MemoryDisk) (fun _ => True) start session →
      FailsByPattern (runOn (update changed) session world).1 →
      (runOn (update changed) session world).2.2.disk.writes = world.disk.writes := by
  intro claimed
  have same := claimed _ _ _ _ _ World.bare none (run_new_unclosed World.bare) .start
    (by decide +kernel)
  revert same
  decide +kernel

end Session

end MessageCatalog
