import MessageCatalog.Proofs.Session.Catalog

/-! A session knows every bundle that it writes, so a catalog apart from those it knows stays as it is. -/

namespace MessageCatalog

namespace Session

/-- The session has a bundle at a path, for some target. -/
def KnowsBundle (session : Session) (path : Path) : Prop :=
  ∃ target cache, session.bundleCaches.get? target = some cache ∧ cache.contains path = true

/-- Without caches for bundles there are none. -/
theorem not_knowsBundle {session : Session} (bare : session.bundleCaches = ∅) (path : Path) :
    ¬ session.KnowsBundle path := by
  rintro ⟨target, cache, found, -⟩
  rw [bare] at found
  cases found

/-- Every bundle that one session has, another one has as well. -/
def KnowsMore (before after : Session) : Prop :=
  ∀ path, before.KnowsBundle path → after.KnowsBundle path

theorem KnowsMore.trans {a b c : Session} (first : KnowsMore a b) (second : KnowsMore b c) :
    KnowsMore a c := fun path known => second path (first path known)

section

variable {session : Session} {target : Path} {cache : WriteCache}

/-- What is in the new cache of a target is known. -/
theorem knowsBundle_setBundleCache {path : Path} (known : cache.contains path = true) :
    (setBundleCache target session cache).KnowsBundle path := by
  refine ⟨target, cache, ?_, known⟩
  rw [setBundleCache, SortedMap.get?_insert, if_pos Std.ReflCmp.compare_self]

/-- A session knows more when the cache of a target grows. -/
theorem knowsMore_setBundleCache
    (grows : ∀ path, (bundleCache target session).contains path = true →
      cache.contains path = true) : KnowsMore session (setBundleCache target session cache) := by
  rintro path ⟨other, stored, found, known⟩
  by_cases same : compare target other = .eq
  · -- What was known for this target is still there.
    apply knowsBundle_setBundleCache
    apply grows
    rw [bundleCache, SortedMap.get?_congr same, found]
    exact known
  · -- The other targets have the caches that they had.
    refine ⟨other, stored, ?_, known⟩
    rw [setBundleCache, SortedMap.get?_insert, if_neg ?_]
    · exact found
    · intro equal
      exact same (Std.OrientedCmp.eq_symm equal)

end

section

variable {σ : Type} [FileSystem (StateM σ)] [Console (StateM σ)]

/-- Bundles are written one after the other; a failure ends the writing. -/
theorem runOn_writeBundleFiles_cons (file : Path × String) (files : List (Path × String))
    (session : Session) (world : σ) :
    runOn (writeBundleFiles (file :: files)) session world =
      match runOn (writeBundle file) session world with
      | (.error failure, between, middle) => (.error failure, between, middle)
      | (.ok written, between, middle) =>
        runOn (writeBundleFiles files) (between.countBundle written) middle := by
  -- One step of the recursion is a writing, its count and the rest.
  have opened : (writeBundleFiles (file :: files) : SessionM (StateM σ) Unit) = (do
      let written ← writeBundle file
      modify fun session => session.countBundle written
      writeBundleFiles files) := rfl
  rw [opened, runOn_bind]
  rcases runOn (writeBundle file) session world with ⟨failure | written, between, middle⟩ <;> rfl

/-- What writing bundles can do. It fails at the first one; or that one is written and counted, and the
others follow. -/
theorem writeBundleFiles_cases {file : Path × String} {files : List (Path × String)}
    {session after : Session} {world later : σ} {outcome : Outcome Unit}
    (ran : runOn (writeBundleFiles (file :: files)) session world = (outcome, after, later)) :
    (∃ failure, outcome = .error failure ∧
      runOn (writeBundle file) session world = (.error failure, after, later)) ∨
    ∃ written between middle,
      runOn (writeBundle file) session world = (.ok written, between, middle) ∧
      runOn (writeBundleFiles files) (between.countBundle written) middle =
        (outcome, after, later) := by
  rw [runOn_writeBundleFiles_cons] at ran
  rcases wrote : runOn (writeBundle file) session world with ⟨failure | written, between, middle⟩
  all_goals rw [wrote] at ran
  · cases ran
    exact .inl ⟨failure, rfl, rfl⟩
  · exact .inr ⟨written, between, middle, rfl, ran⟩

end

/-- The files of a session for some targets, with their texts. -/
def bundlesFor (session : Session) (merged : SortedMap String (List Entry)) (targets : List Path) :
    List (Path × String) :=
  (filesByTarget targets session.sources.keys).toList.flatMap fun (target, files) =>
    bundleFiles session.style merged session.index target files

section

variable {δ : Type} [Disk δ] {view : DiskView δ} {locale : String} {told : SortedMap Key Translation}

/-- The directories that the patterns for targets lead to. -/
def targets (session : Session) (disk : δ) : Outcome (List Path) :=
  (Disk.glob disk session.config.targets session.config.ignore).map fun matching =>
    matching.elements.filter (Disk.isDir disk)

/-- The patterns for targets lead to the directories among what they match. -/
theorem exists_of_targets {session : Session} {disk : δ} {found : List Path}
    (searched : session.targets disk = .ok found) :
    ∃ matching, Disk.glob disk session.config.targets session.config.ignore = .ok matching ∧
      found = matching.elements.filter (Disk.isDir disk) := by
  rw [targets] at searched
  -- Nothing is found where the search fails.
  cases globbed : Disk.glob disk session.config.targets session.config.ignore with
  | error failure =>
    rw [globbed] at searched
    cases searched
  | ok matching =>
    rw [globbed] at searched
    cases searched
    exact ⟨matching, rfl, rfl⟩

/-- Where the files that are given texts are apart from a catalog, it tells what it told. -/
structure Spares (view : DiskView δ) (locale : String) (told : SortedMap Key Translation)
    (session after : Session) (before later : δ) : Prop where
  knows : KnowsMore session after
  same : SameSettings session after
  holds : (∀ path, after.KnowsBundle path → view.Apart path (session.catalogPath locale)) →
    Holds view locale told session before → Holds view locale told after later

/-- Some bundles are written: the session knows them then, the catalogs stay as they are, and so do all
other files. -/
structure AddsBundles (view : DiskView δ) (session after : Session) (before later : δ) : Prop where
  knows : KnowsMore session after
  kept : KeepsCatalogs session after
  files : view.TouchesOnly after.KnowsBundle before later

theorem AddsBundles.trans {a b c : Session} {early middle late : δ}
    (first : AddsBundles view a b early middle) (second : AddsBundles view b c middle late) :
    AddsBundles view a c early late where
  knows := first.knows.trans second.knows
  kept := first.kept.trans second.kept
  -- The bundles that are known on the way are known at the end.
  files := (first.files.mono second.knows).trans second.files

/-- Catalogs apart from the bundles are spared. -/
theorem AddsBundles.spares {session after : Session} {before later : δ}
    (adds : AddsBundles view session after before later) :
    Spares view locale told session after before later where
  knows := adds.knows
  same := adds.kept.keepsReading.sameSettings
  holds := by
    intro apart holds
    obtain ⟨text, held, tells⟩ := holds.tells
    refine Holds.of_same ⟨adds.files.honest holds.honest, text, ?_, tells⟩
      adds.kept.keepsReading.sameSettings
    rw [adds.files.others _ apart, held]

variable (view)

/-- Giving a bundle its text, also when that fails, touches no other file. -/
theorem AddsBundles.of_writeBundle {file : Path × String} {session after : Session}
    {world later : World δ} {outcome : Outcome Bool}
    (ran : runOn (writeBundle file) session world = (outcome, after, later)) :
    AddsBundles view session after world.disk later.disk := by
  obtain ⟨updated, rfl, gives⟩ := gives_of_writeCached view ran
  have grows (other : Path)
      (known : (bundleCache (targetOf file.1) session).contains other = true) :
      ((bundleCache (targetOf file.1) session).insert file.1 file.2).contains other = true := by
    rw [SortedMap.contains_insert, known, Bool.or_true]
  cases gives.leaves with
  | unknown untouched => exact ⟨knowsMore_setBundleCache fun _ => id, rfl, untouched.touchesOnly⟩
  | known untouched => exact ⟨knowsMore_setBundleCache grows, rfl, untouched.touchesOnly⟩
  | put put =>
    refine ⟨knowsMore_setBundleCache grows, rfl, put.touchesOnly ?_⟩
    -- The file that is given its text is known then.
    have equal : compare file.1 file.1 = .eq := Std.ReflCmp.compare_self
    apply knowsBundle_setBundleCache
    rw [SortedMap.contains_insert, equal]
    rfl

variable {view} in
/-- The count of writes is neither a bundle nor a catalog. -/
theorem AddsBundles.of_countBundle {session after : Session} {written : Bool} {before later : δ}
    (adds : AddsBundles view (session.countBundle written) after before later) :
    AddsBundles view session after before later := by
  have counts : AddsBundles view session (session.countBundle written) before before :=
    ⟨fun _ => id, rfl, (DiskView.Untouched.refl _).touchesOnly⟩
  exact counts.trans adds

/-- Writing bundles, also when it fails on the way, touches no other files. -/
theorem AddsBundles.of_writeBundleFiles {files : List (Path × String)} {session after : Session}
    {world later : World δ} {outcome : Outcome Unit}
    (ran : runOn (writeBundleFiles files) session world = (outcome, after, later)) :
    AddsBundles view session after world.disk later.disk := by
  -- By induction on the files; a writing that fails ends the step with what was done before.
  induction files generalizing session world with
  | nil =>
    cases ran
    exact ⟨fun _ => id, rfl, (DiskView.Untouched.refl _).touchesOnly⟩
  | cons file files ih =>
    rcases writeBundleFiles_cases ran with ⟨_, -, wrote⟩ | ⟨written, between, middle, wrote, rest⟩
    · exact .of_writeBundle view wrote
    · exact .trans (.of_writeBundle view wrote) (ih rest).of_countBundle

/-- The bundles of all targets are written, unless the targets cannot be looked for. -/
theorem runOn_writeBundles (merged : SortedMap String (List Entry)) (session : Session)
    (world : World δ) :
    runOn (writeBundles merged) session world =
      match session.targets world.disk with
      | .error failure => (.error failure, session, world)
      | .ok targets => runOn (writeBundleFiles (session.bundlesFor merged targets)) session world := by
  have begun : (FileSystem.glob session.config.targets session.config.ignore :
      StateM (World δ) (Outcome (SortedSet Path))).run world =
      (Disk.glob world.disk session.config.targets session.config.ignore, world) := rfl
  rw [writeBundles, runOn_bind, runOn_get]
  dsimp only
  rw [runOn_bind, runOn_perform, begun, targets]
  -- The search decides whether there are targets to write for.
  cases Disk.glob world.disk session.config.targets session.config.ignore with
  | error failure => rfl
  | ok matching =>
    dsimp only
    have dirs (path : Path) : (FileSystem.isDir path : StateM (World δ) Bool).run world =
        (Disk.isDir world.disk path, world) := rfl
    rw [runOn_bind, runOn_monadLift, run_keepPaths dirs]
    rfl

/-- Writing the bundles of all targets, also when it fails on the way, touches no other files. -/
theorem AddsBundles.of_writeBundles {merged : SortedMap String (List Entry)}
    {session after : Session} {world later : World δ} {outcome : Outcome Unit}
    (ran : runOn (writeBundles merged) session world = (outcome, after, later)) :
    AddsBundles view session after world.disk later.disk := by
  rw [runOn_writeBundles] at ran
  -- Without targets nothing is done.
  cases found : session.targets world.disk with
  | error failure =>
    rw [found] at ran
    cases ran
    exact ⟨fun _ => id, rfl, (DiskView.Untouched.refl _).touchesOnly⟩
  | ok targets =>
    rw [found] at ran
    exact .of_writeBundleFiles view ran

end

end Session

end MessageCatalog
