import MessageCatalog.Proofs.Session.StepLaw

/-! Writing changes what a session knows of catalogs and bundles, and nothing of what it has read. -/

namespace MessageCatalog

namespace Session

/-- All but the caches, the counts and the directory to remove stays as it was. -/
def KeepsReading (before after : Session) : Prop :=
  after = { before with
    catalogCache := after.catalogCache
    bundleCaches := after.bundleCaches
    summary := after.summary
    scratchDir := after.scratchDir }

theorem KeepsReading.trans {a b c : Session} (first : KeepsReading a b)
    (second : KeepsReading b c) : KeepsReading a c := by
  unfold KeepsReading at *
  rw [second, first]

theorem KeepsReading.symm {before after : Session} (kept : KeepsReading before after) :
    KeepsReading after before := by
  unfold KeepsReading at *
  rw [kept]

/-- A fresh index stays fresh where what was read stays. -/
theorem IsFresh.of_kept {before after : Session} (fresh : before.IsFresh)
    (kept : KeepsReading before after) : after.IsFresh := by
  rw [kept]
  exact fresh

/-- All but the caches of bundles and the count of their writes stays as it was. -/
def KeepsCatalogs (before after : Session) : Prop :=
  after = { before with
    bundleCaches := after.bundleCaches
    summary := { before.summary with bundleWrites := after.summary.bundleWrites } }

theorem KeepsCatalogs.trans {a b c : Session} (first : KeepsCatalogs a b)
    (second : KeepsCatalogs b c) : KeepsCatalogs a c := by
  unfold KeepsCatalogs at *
  rw [second, first]

/-- What keeps the catalogs keeps what was read. -/
theorem KeepsCatalogs.keepsReading {before after : Session} (kept : KeepsCatalogs before after) :
    KeepsReading before after := by
  unfold KeepsReading
  rw [kept]

/-- All but the cache and the counts of catalogs stays as it was. -/
def KeepsBundles (before after : Session) : Prop :=
  after = { before with
    catalogCache := after.catalogCache
    summary := { before.summary with
      catalogWrites := after.summary.catalogWrites
      newEntries := after.summary.newEntries
      unusedEntries := after.summary.unusedEntries } }

theorem KeepsBundles.trans {a b c : Session} (first : KeepsBundles a b)
    (second : KeepsBundles b c) : KeepsBundles a c := by
  unfold KeepsBundles at *
  rw [second, first]

/-- What keeps the bundles keeps what was read. -/
theorem KeepsBundles.keepsReading {before after : Session} (kept : KeepsBundles before after) :
    KeepsReading before after := by
  unfold KeepsReading
  rw [kept]

section

variable {σ : Type}

theorem keepsBundles_inCatalog {α : Type} (doing : String) (path : Path)
    (result : Except CatalogFault α) :
    Keeps KeepsBundles (inCatalog doing path result : SessionM (StateM σ) α) := by
  cases result <;> exact fun _ _ => rfl

variable [FileSystem (StateM σ)]

theorem keepsBundles_readCatalog (path : Path) :
    Keeps KeepsBundles (readCatalog path : SessionM (StateM σ) String) := by
  refine Keeps.bind (fun _ _ => rfl) ?_ .trans
  rintro (failure | text)
  · dsimp only
    split <;> exact fun _ _ => rfl
  · exact fun _ _ => rfl

/-- The end of a session keeps what was read. -/
theorem keepsReading_close : Keeps KeepsReading (close : SessionM (StateM σ) Unit) := by
  intro session world
  rw [close, runOn_bind, runOn_get]
  dsimp only
  rw [runOn_bind, runOn_set]
  dsimp only
  -- The directory is forgotten before it is removed.
  refine KeepsReading.trans (b := { session with scratchDir := none }) rfl ?_
  split
  · refine Keeps.bind (fun _ _ => rfl) (fun isThere => ?_) .trans _ _
    split <;> exact fun _ _ => rfl
  · rfl

variable [Console (StateM σ)]

/-- Writing by way of a cache keeps the cache that the writing leaves, also when it fails. -/
theorem runOn_writeCached {cache : Session → WriteCache} {setCache : Session → WriteCache → Session}
    {path : Path} {text : String} {session : Session} {world later : σ} {outcome : Outcome Bool}
    {updated : WriteCache}
    (ran : (WriteCache.writeIfChanged (cache session) path text :
      StateM σ (Outcome Bool × WriteCache)).run world = ((outcome, updated), later)) :
    runOn (writeCached cache setCache path text) session world =
      (outcome, setCache session updated, later) := by
  rw [writeCached, runOn_bind, runOn_get]
  dsimp only
  rw [runOn_bind, runOn_monadLift, ran]
  dsimp only
  rw [runOn_bind, runOn_modify]
  cases outcome <;> rfl

/-- Writing by way of a cache keeps what setting the cache keeps. -/
theorem keeps_writeCached {R : Session → Session → Prop} {cache : Session → WriteCache}
    {setCache : Session → WriteCache → Session}
    (sets : ∀ session cache, R session (setCache session cache)) (path : Path) (text : String) :
    Keeps R (writeCached cache setCache path text : SessionM (StateM σ) Bool) := by
  intro session world
  rcases ran : (WriteCache.writeIfChanged (cache session) path text :
    StateM σ (Outcome Bool × WriteCache)).run world with ⟨⟨outcome, updated⟩, later⟩
  rw [runOn_writeCached ran]
  exact sets session updated

/-- Writing a catalog keeps the bundles. -/
theorem keepsBundles_writeCatalog (locale : String) :
    Keeps KeepsBundles (writeCatalog locale : SessionM (StateM σ) (List Entry)) := by
  refine (stepLaw_keeps KeepsBundles (fun _ => rfl) .trans).writeCatalog keepsBundles_readCatalog
    keepsBundles_inCatalog (fun path text => ?_) (fun _ _ _ _ => rfl) locale
  apply keeps_writeCached
  exact fun _ _ => rfl

/-- Writing catalogs keeps the bundles, also when it fails on the way. -/
theorem keepsBundles_writeCatalogs (locales : List String)
    (merged : SortedMap String (List Entry)) :
    Keeps KeepsBundles
      (writeCatalogs locales merged : SessionM (StateM σ) (SortedMap String (List Entry))) :=
  (stepLaw_keeps KeepsBundles (fun _ => rfl) .trans).writeCatalogs keepsBundles_writeCatalog locales merged

theorem keepsCatalogs_writeBundleFiles (files : List (Path × String)) :
    Keeps KeepsCatalogs (writeBundleFiles files : SessionM (StateM σ) Unit) := by
  refine (stepLaw_keeps KeepsCatalogs (fun _ => rfl) .trans).writeBundleFiles (fun file => ?_)
    (fun _ _ _ => rfl) files
  apply keeps_writeCached
  exact fun _ _ => rfl

/-- Writing bundles keeps the catalogs, also when it fails on the way. -/
theorem keepsCatalogs_writeBundles (merged : SortedMap String (List Entry)) :
    Keeps KeepsCatalogs (writeBundles merged : SessionM (StateM σ) Unit) :=
  (stepLaw_keeps KeepsCatalogs (fun _ => rfl) .trans).writeBundles (fun _ _ _ _ => rfl) (fun _ _ _ => rfl)
    keepsCatalogs_writeBundleFiles merged

/-- Catalogs are written first, then bundles; a failure ends the writing. -/
theorem runOn_write (session : Session) (world : σ) :
    runOn write session world =
      match runOn (writeCatalogs session.config.locales ∅) session.counted world with
      | (.error failure, after, later) => (.error failure, after, later)
      | (.ok merged, between, middle) =>
        match runOn (writeBundles merged) between middle with
        | (.error failure, after, later) => (.error failure, after, later)
        | (.ok (), after, later) =>
          (.ok (decide (0 < after.summary.catalogWrites + after.summary.bundleWrites)),
            after, later) := by
  rw [write, runOn_bind, runOn_modify]
  dsimp only
  rw [runOn_bind, runOn_get]
  dsimp only
  rw [runOn_bind, ← counted]
  -- A failure at the catalogs leaves the bundles out, and one at the bundles ends the writing.
  rcases runOn (writeCatalogs session.config.locales ∅) session.counted world with
    ⟨failure | merged, between, middle⟩
  · rfl
  · dsimp only
    rw [runOn_bind]
    rcases runOn (writeBundles merged) between middle with ⟨failure | ⟨⟩, after, later⟩ <;> rfl

/-- A session is written when a reading reports a change. -/
theorem runOn_update (changed : Option (List Path)) (session : Session) (world : σ) :
    runOn (update changed) session world =
      match runOn (read changed) session world with
      | (.error failure, after, later) => (.error failure, after, later)
      | (.ok false, after, later) => (.ok false, after, logged .debug "No source changes" later)
      | (.ok true, between, middle) =>
        match runOn write between middle with
        | (.error failure, after, later) => (.error failure, after, later)
        | (.ok _, after, later) => (.ok true, after, later) := by
  -- The writing is run in the session and the world that the reading leaves.
  rw [update, runOn_bind]
  rcases runOn (read changed) session world with ⟨failure | changes, between, middle⟩
  · rfl
  · -- Without a change there is one more line in the log, and otherwise everything is written.
    cases changes with
    | false => rfl
    | true =>
      dsimp only
      rw [if_pos rfl, runOn_bind]
      rcases runOn write between middle with ⟨failure | any, after, later⟩ <;> rfl

/-- What a writing can do. It fails at a catalog; or it writes all of them, and what comes of the bundles
then is what comes of it. -/
theorem write_cases {session after : Session} {world later : σ} {outcome : Outcome Bool}
    (ran : runOn write session world = (outcome, after, later)) :
    (∃ failure, outcome = .error failure ∧
      runOn (writeCatalogs session.config.locales ∅) session.counted world =
        (.error failure, after, later)) ∨
    ∃ merged between middle result,
      outcome = result.map
        (fun _ => decide (0 < after.summary.catalogWrites + after.summary.bundleWrites)) ∧
      runOn (writeCatalogs session.config.locales ∅) session.counted world =
        (.ok merged, between, middle) ∧
      runOn (writeBundles merged) between middle = (result, after, later) := by
  rw [runOn_write] at ran
  -- The catalogs come first; behind all of them the bundles decide.
  rcases catalogs : runOn (writeCatalogs session.config.locales ∅) session.counted world with
    ⟨failure | merged, between, middle⟩
  all_goals
    rw [catalogs] at ran
    dsimp only at ran
  · cases ran
    exact .inl ⟨failure, rfl, rfl⟩
  · refine .inr ⟨merged, between, middle, ?_⟩
    rcases bundles : runOn (writeBundles merged) between middle with ⟨failure | ⟨⟩, last, latest⟩
    all_goals
      rw [bundles] at ran
      cases ran
      exact ⟨_, rfl, rfl, rfl⟩

/-- An update whose reading reports a change succeeds where the writing behind it does. -/
theorem runOn_update_of_changes {changed : Option (List Path)} {session between after : Session}
    {world middle later : σ} {wrote : Bool}
    (opened : runOn (read changed) session world = (.ok true, between, middle))
    (written : runOn write between middle = (.ok wrote, after, later)) :
    runOn (update changed) session world = (.ok true, after, later) := by
  rw [runOn_update, opened]
  dsimp only
  rw [written]

/-- What an update can do. Its reading fails; or that reports no change, which is logged; or a writing
follows, and the update fails just when that does. -/
theorem update_cases {changed : Option (List Path)} {session after : Session} {world later : σ}
    {outcome : Outcome Bool}
    (ran : runOn (update changed) session world = (outcome, after, later)) :
    (∃ failure, outcome = .error failure ∧
      runOn (read changed) session world = (.error failure, after, later)) ∨
    (∃ middle, outcome = .ok false ∧ later = logged .debug "No source changes" middle ∧
      runOn (read changed) session world = (.ok false, after, middle)) ∨
    ∃ between middle result, outcome = result.map (fun _ => true) ∧
      runOn (read changed) session world = (.ok true, between, middle) ∧
      runOn write between middle = (result, after, later) := by
  rw [runOn_update] at ran
  -- The reading decides whether anything is written at all.
  rcases opened : runOn (read changed) session world with ⟨failure | changes, between, middle⟩
  all_goals rw [opened] at ran
  · cases ran
    exact .inl ⟨failure, rfl, rfl⟩
  · cases changes with
    | false =>
      cases ran
      exact .inr (.inl ⟨middle, rfl, rfl, rfl⟩)
    | true =>
      refine .inr (.inr ⟨between, middle, ?_⟩)
      dsimp only at ran
      rcases written : runOn write between middle with ⟨failure | wrote, last, latest⟩
      all_goals
        rw [written] at ran
        cases ran
        exact ⟨_, rfl, rfl, rfl⟩

/-- What was read is kept while a writing writes catalogs. -/
theorem keepsReading_of_writeCatalogs {session between : Session} {world middle : σ}
    {locales : List String} {outcome : Outcome (SortedMap String (List Entry))}
    (ran : runOn (writeCatalogs locales ∅) session.counted world = (outcome, between, middle)) :
    KeepsReading session between :=
  .trans (b := session.counted) rfl ((keepsBundles_writeCatalogs locales ∅).of_ran ran).keepsReading

/-- Writing keeps what was read, also when it fails on the way. -/
theorem keepsReading_write : Keeps KeepsReading (write : SessionM (StateM σ) Bool) :=
  (stepLaw_keeps KeepsReading (fun _ => rfl) .trans).write (fun _ _ => rfl)
    (fun locales session world => (keepsBundles_writeCatalogs locales ∅ session world).keepsReading)
    (fun merged session world => (keepsCatalogs_writeBundles merged session world).keepsReading)

end

end Session

end MessageCatalog
