import MessageCatalog.Proofs.Disk.View
import MessageCatalog.Proofs.Entry.Fault
import MessageCatalog.Proofs.Session.World

/-! The first reading of the same files with the same texts leads to the same session. -/

namespace MessageCatalog

namespace Session

/-- A session that has neither read nor written anything. -/
structure IsNew (session : Session) : Prop where
  blank : session.sources = ∅
  unread : session.hasRead = false
  uncached : session.catalogCache = ∅
  uncounted : session.summary = {}

theorem isNew_new {σ : Type} [FileSystem (StateM σ)] [Console (StateM σ)] {config : Config}
    {session : Session} {world later : σ}
    (made : (new config : StateM σ (Outcome Session)).run world = (.ok session, later)) :
    session.IsNew := by
  obtain ⟨-, included, ignored, dir, scratch, -, -, rfl⟩ := new_eq_ok made
  exact ⟨rfl, rfl, rfl, rfl⟩

/-- Dropping a file succeeds, and takes its text away. -/
theorem dropSource_ok {σ : Type} [Console (StateM σ)] {path : Path} {session after : Session}
    {world later : σ} {outcome : Outcome Bool}
    (ran : runOn (dropSource path) session world = (outcome, after, later)) :
    (∃ changed, outcome = .ok changed) ∧ after.sources = session.sources.erase path := by
  rw [runOn_dropSource] at ran
  -- A path that is not tracked is erased without effect.
  split at ran
  · cases ran
    exact ⟨⟨true, rfl⟩, rfl⟩
  · rename_i untracked
    cases ran
    exact ⟨⟨false, rfl⟩, (SortedMap.erase_eq_self (Bool.eq_false_iff.2 untracked)).symm⟩

section

variable {δ : Type} [Disk δ]

/-- The files that the input patterns lead to. -/
def sourceFiles (session : Session) (disk : δ) : Outcome (List Path) := do
  let matching ← Disk.glob disk session.config.input session.config.ignore
  let files := matching.elements.filter fun path => !Disk.isDir disk path
  return (SortedSet.ofElements files).elements

/-- The input patterns lead to the files among what they match. -/
theorem exists_of_sourceFiles {session : Session} {disk : δ} {files : List Path}
    (found : session.sourceFiles disk = .ok files) :
    ∃ matching, Disk.glob disk session.config.input session.config.ignore = .ok matching ∧
      files = (SortedSet.ofElements
        (matching.elements.filter fun path => !Disk.isDir disk path)).elements := by
  obtain ⟨matching, globbed, same⟩ := bind_eq_ok.1 found
  cases same
  exact ⟨matching, globbed, rfl⟩

/-- The tracked files that are none of those found. -/
def unfound (session : Session) (files : List Path) : List Path :=
  session.sources.keys.filter fun path => !files.any (compare path · == .eq)

/-- Reading every source drops the files that are not found, and loads those that are. -/
theorem runOn_readAll (session : Session) (world : World δ) :
    runOn readAll session world =
      match session.sourceFiles world.disk with
      | .ok files => runOn (do
          let dropped ← anyChange dropSource (session.unfound files)
          let loaded ← anyChange loadSource files
          return dropped || loaded) session world
      | .error failure => (.error failure, session, world) := by
  have globbed : (FileSystem.glob session.config.input session.config.ignore :
      StateM (World δ) (Outcome (SortedSet Path))).run world =
        (Disk.glob world.disk session.config.input session.config.ignore, world) := rfl
  have noDirs (path : Path) :
      (do return !(← FileSystem.isDir path) : StateM (World δ) Bool).run world =
        (!Disk.isDir world.disk path, world) := rfl
  -- Along the steps: the paths that match, and then those of them that are files.
  rw [readAll, runOn_bind, runOn_get, sourceFiles]
  dsimp only
  rw [runOn_bind, runOn_perform, globbed]
  -- Only the files among what matches are kept.
  cases Disk.glob world.disk session.config.input session.config.ignore with
  | error failure => rfl
  | ok matching =>
    dsimp only
    rw [runOn_bind, runOn_monadLift, run_keepPaths noDirs]
    simp only [SortedMap.contains_eq_any]
    rfl

/-- A session without texts loads the files that the input patterns lead to. -/
theorem runOn_readAll_of_blank {session : Session} (blank : session.sources = ∅) (world : World δ) :
    runOn readAll session world =
      match session.sourceFiles world.disk with
      | .ok files => runOn (anyChange loadSource files) session world
      | .error failure => (.error failure, session, world) := by
  rw [runOn_readAll]
  cases session.sourceFiles world.disk with
  | error failure => rfl
  | ok files =>
    -- There is nothing to drop.
    have undropped : session.unfound files = [] := by
      rw [unfound, blank]
      rfl
    dsimp only
    rw [undropped, anyChange, runOn_bind, runOn_pure]
    dsimp only
    rw [runOn_bind]
    rcases runOn (anyChange loadSource files) session world with ⟨failure | loaded, after, later⟩ <;>
      rfl

/-- Sources with the text that a file holds, or without the file when there is none. -/
def withFile (view : DiskView δ) (disk : δ) (sources : SortedMap Path String) (path : Path) :
    SortedMap Path String :=
  match view.text? disk path with
  | some text => sources.insert path text
  | none => sources.erase path

variable {view : DiskView δ} {session after : Session} {world later : World δ} {changed : Bool}

/-- What loading a file can do. It keeps the text that it reads; or it drops a file that is not there; or
it fails to read it. -/
theorem loadSource_cases {path : Path} {outcome : Outcome Bool}
    (ran : runOn (loadSource path) session world = (outcome, after, later)) :
    (∃ text changed, Disk.read world.disk path = .ok text ∧ outcome = .ok changed ∧
      after.sources = session.sources.insert path text) ∨
    (∃ failure changed, Disk.read world.disk path = .error failure ∧ failure.isNotFound = true ∧
      outcome = .ok changed ∧ after.sources = session.sources.erase path) ∨
    ∃ failure, Disk.read world.disk path = .error failure ∧ failure.isNotFound = false ∧
      outcome = .error (failure.within ("Failed to read source " ++ path.text)) ∧ after = session := by
  -- What the reading of the file gives decides.
  rw [runOn_loadSource, World.run_read] at ran
  cases read : Disk.read world.disk path with
  | ok text =>
    rw [read] at ran
    dsimp only at ran
    split at ran
    · -- A text that is tracked already is the one that would take its place.
      rename_i known
      cases ran
      exact .inl ⟨text, false, rfl, rfl, (SortedMap.insert_eq_self known).symm⟩
    · cases ran
      exact .inl ⟨text, true, rfl, rfl, rfl⟩
  | error failure =>
    rw [read] at ran
    dsimp only at ran
    split at ran
    · -- A missing file is dropped, and any other failure is told.
      rename_i absent
      obtain ⟨⟨changed, rfl⟩, sources⟩ := dropSource_ok ran
      exact .inr (.inl ⟨failure, changed, rfl, absent, rfl, sources⟩)
    · rename_i present
      cases ran
      exact .inr (.inr ⟨failure, rfl, Bool.eq_false_iff.2 present, rfl, rfl⟩)

/-- Loading a file leaves the text that it holds. -/
theorem sources_loadSource {path : Path} (honest : view.Honest world.disk)
    (ran : runOn (loadSource path) session world = (.ok changed, after, later)) :
    after.sources = withFile view world.disk session.sources path := by
  rcases loadSource_cases ran with
    ⟨text, _, read, -, sources⟩ | ⟨failure, _, read, absent, -, sources⟩ | ⟨_, -, -, ⟨⟩, -⟩
  · rw [withFile, view.text?_of_read honest read, sources]
  · rw [withFile, view.text?_of_notFound honest read absent, sources]

/-- Loading files leaves the texts that they hold. -/
theorem sources_loadAll {paths : List Path} (honest : view.Honest world.disk)
    (ran : runOn (anyChange loadSource paths) session world = (.ok changed, after, later)) :
    after.sources = paths.foldl (withFile view world.disk) session.sources := by
  -- By induction on the paths; loading leaves the files as they are.
  induction paths generalizing session world changed with
  | nil =>
    cases ran
    rfl
  | cons path paths ih =>
    obtain ⟨first, between, middle, loaded, rest⟩ := runOn_bind_eq_ok ran
    obtain ⟨others, last, latest, loadedAll, told⟩ := runOn_bind_eq_ok rest
    cases told
    have kept : middle.disk = world.disk := (keepsDisk_loadSource path).of_ran loaded
    rw [ih (kept ▸ honest) loadedAll, kept, List.foldl_cons, sources_loadSource honest loaded]

/-- The first reading of a session loads the files that the input patterns lead to, and makes their
index. -/
theorem runOn_first_read (isNew : session.IsNew) (world : World δ) :
    runOn (read none) session world =
      match session.sourceFiles world.disk with
      | .error failure => (.error failure, { session with hasRead := true }, world)
      | .ok files =>
        match runOn (anyChange loadSource files) { session with hasRead := true } world with
        | (.error failure, between, later) => (.error failure, between, later)
        | (.ok _, between, later) =>
          (.ok true, { between with index := .ofSources between.functions between.sources },
            (runOn rebuild between later).2.2) := by
  have all : readChanges none (!session.hasRead) =
      (readAll : SessionM (StateM (World δ)) Bool) := rfl
  -- Nothing is held yet, so nothing is dropped, and the first reading always reports a change.
  have blank' : { session with hasRead := true }.sources = ∅ := isNew.blank
  have told : { session with hasRead := true }.sourceFiles world.disk =
      session.sourceFiles world.disk := rfl
  rw [runOn_read, all, runOn_readAll_of_blank blank', told, isNew.unread]
  -- Making the index behind the texts cannot fail.
  cases session.sourceFiles world.disk with
  | error failure => rfl
  | ok files =>
    dsimp only
    rcases runOn (anyChange loadSource files) { session with hasRead := true } world with
      ⟨failure | changes, between, later⟩ <;> rfl

/-- What a first reading can do. It does not know which files to read; or it fails at one of them; or it
makes the index of their texts. -/
theorem first_read_cases (isNew : session.IsNew) {outcome : Outcome Bool}
    (ran : runOn (read none) session world = (outcome, after, later)) :
    (∃ failure, outcome = .error failure ∧ session.sourceFiles world.disk = .error failure) ∨
    ∃ files, session.sourceFiles world.disk = .ok files ∧
      ((∃ failure, outcome = .error failure ∧
        runOn (anyChange loadSource files) { session with hasRead := true } world =
          (.error failure, after, later)) ∨
      ∃ changes between middle, outcome = .ok true ∧
        runOn (anyChange loadSource files) { session with hasRead := true } world =
          (.ok changes, between, middle) ∧
        after = { between with index := .ofSources between.functions between.sources }) := by
  rw [runOn_first_read isNew] at ran
  -- The cases are those of the files that are found, and of loading them.
  cases found : session.sourceFiles world.disk with
  | error failure =>
    rw [found] at ran
    cases ran
    exact .inl ⟨failure, rfl, rfl⟩
  | ok files =>
    -- With files to load, the reading fails at one of them, or ends with a new index.
    refine .inr ⟨files, rfl, ?_⟩
    rw [found] at ran
    dsimp only at ran
    rcases loaded : runOn (anyChange loadSource files) { session with hasRead := true } world with
      ⟨failure | changes, between, middle⟩
    all_goals
      rw [loaded] at ran
      cases ran
    · exact .inl ⟨failure, rfl, rfl⟩
    · exact .inr ⟨changes, between, middle, rfl, rfl, rfl⟩

/-- A first reading that succeeds leaves the texts of the files that the input patterns lead to, and
their index. -/
theorem eq_of_first_read (isNew : session.IsNew) (honest : view.Honest world.disk)
    (ran : runOn (read none) session world = (.ok changed, after, later)) :
    ∃ files, session.sourceFiles world.disk = .ok files ∧
      after = { session with
        hasRead := true
        sources := files.foldl (withFile view world.disk) ∅
        index := .ofSources session.functions (files.foldl (withFile view world.disk) ∅) } := by
  -- The search or a file may fail; neither did, as the reading succeeded.
  rcases first_read_cases isNew ran with
    ⟨_, ⟨⟩, _⟩ | ⟨files, found, ⟨_, ⟨⟩, _⟩ | ⟨_, between, middle, -, loaded, rfl⟩⟩
  have texts := sources_loadAll honest loaded
  have kept := (reports_anyChange reports_loadSource files).keepsRest.of_ran loaded
  refine ⟨files, found, ?_⟩
  rw [texts, kept.functions, kept, isNew.blank]

end

end Session

end MessageCatalog
