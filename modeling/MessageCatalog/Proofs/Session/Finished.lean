import MessageCatalog.Proofs.Session.BundleFiles
import MessageCatalog.Proofs.Session.Writes

/-! A writing that succeeds leaves catalogs and bundles that another one finds finished. -/

namespace MessageCatalog

namespace Session

section

variable {δ : Type} [Disk δ]

/-- The files as a writing finds them when the catalogs are done and the bundles are to be written. -/
def bundleDisk (session : Session) (world : World δ) : δ :=
  (runOn (writeCatalogs session.config.locales ∅) session.counted world).2.2.disk

/-- The targets that a writing finds. -/
def targetsOfWrite (session : Session) (world : World δ) : Outcome (List Path) :=
  session.targets (session.bundleDisk world)

/-- A writing that does nothing: it leaves the world as it is, and counts no write. It succeeds where the
catalogs can be read. -/
structure WritesNothing (session : Session) (world : World δ) (outcome : Outcome Bool)
    (after : Session) (later : World δ) : Prop where
  same : later = world
  catalogs : after.summary.catalogWrites = 0
  bundles : after.summary.bundleWrites = 0
  succeeds : session.Rereads →
    (∀ locale ∈ session.config.locales, Readable world.disk (session.catalogPath locale)) →
    outcome = .ok false

/-- All catalogs of a session are up to date with certain entries. -/
structure Renewed (view : DiskView δ) (session : Session) (disk : δ)
    (all : SortedMap String (List Entry)) : Prop where
  lined : Lined view session disk session.config.locales
  upToDate : ∀ locale ∈ session.config.locales, ∃ entries, all.get? locale = some entries ∧
    UpToDate view session disk locale entries
  others : ∀ locale, locale ∉ session.config.locales → all.get? locale = none

variable {view : DiskView δ} {session between after : Session} {world middle later : World δ}
  {all : SortedMap String (List Entry)}

/-- A writing succeeds when it brings the catalogs up to date, finds the targets, and writes the
bundles. -/
theorem runOn_write_eq_ok {wrote : Bool} :
    runOn write session world = (.ok wrote, after, later) ↔
      ∃ all between middle targets,
        runOn (writeCatalogs session.config.locales ∅) session.counted world =
          (.ok all, between, middle) ∧
        session.targetsOfWrite world = .ok targets ∧
        runOn (writeBundleFiles (between.bundlesFor all targets)) between middle =
          (.ok (), after, later) ∧
        wrote = decide (0 < after.summary.catalogWrites + after.summary.bundleWrites) := by
  -- Along the steps: the catalogs, the targets, the bundles; the first that fails ends the writing.
  rw [runOn_write, targetsOfWrite, bundleDisk]
  rcases catalogs : runOn (writeCatalogs session.config.locales ∅) session.counted world with
    ⟨failure | all, between, middle⟩
  · simp
  · -- Writing the catalogs does not change which targets the session looks for.
    have found : session.targets middle.disk = between.targets middle.disk := by
      rw [(keepsBundles_writeCatalogs session.config.locales ∅).of_ran catalogs]
      rfl
    dsimp only
    rw [runOn_writeBundles, found]
    cases between.targets middle.disk with
    | error failure => simp
    | ok targets =>
      dsimp only
      rcases bundles : runOn (writeBundleFiles (between.bundlesFor all targets)) between middle with
        ⟨failure | ⟨⟩, last, latest⟩
      · simp [bundles]
      · simp only [Prod.mk.injEq, Except.ok.injEq]
        -- Every step is determined by what ran, so the two sides name the same runs.
        constructor
        · rintro ⟨rfl, rfl, rfl⟩
          exact ⟨all, between, middle, targets, ⟨rfl, rfl, rfl⟩, rfl, bundles, rfl⟩
        · rintro ⟨_, _, _, _, ⟨rfl, rfl, rfl⟩, rfl, ran, rfl⟩
          cases bundles.symm.trans ran
          exact ⟨rfl, rfl, rfl⟩

/-- Writing all catalogs leads to entries for the locales of the session only. -/
theorem get?_of_writeCatalogs (lined : Lined view session world.disk session.config.locales)
    (ran : runOn (writeCatalogs session.config.locales ∅) session.counted world =
      (.ok all, between, middle)) {locale : String} (other : locale ∉ session.config.locales) :
    all.get? locale = none := by
  exact (RenewsAll.of_ran lined.counted ran).get?_of_not_mem other

/-- The bundles that a writing writes behind its catalogs are known then, when no two of them lie in one
file. -/
theorem knowsText_of_bundles {targets : List Path}
    (lined : Lined view session world.disk session.config.locales)
    (catalogs : runOn (writeCatalogs session.config.locales ∅) session.counted world =
      (.ok all, between, middle))
    (bundles : runOn (writeBundleFiles (between.bundlesFor all targets)) between middle =
      (.ok (), after, later))
    (differ : BundlesDiffer session targets) :
    ∀ file ∈ between.bundlesFor all targets, after.KnowsText file := by
  have same : between.config = session.config :=
    (keepsReading_of_writeCatalogs catalogs).sameSettings.1
  -- No two bundles share a file, and there are bundles for listed locales only.
  refine knowsText_of_writeBundleFiles view (consistent_bundlesFor ?_ fun locale told => ?_) bundles
  · rw [BundlesDiffer, same]
    exact differ
  · by_contra other
    rw [same] at other
    exact told (get?_of_writeCatalogs lined catalogs other)

/-- Writing all catalogs brings them up to date. -/
theorem renewed_writeCatalogs (steady : session.Steady)
    (lined : Lined view session world.disk session.config.locales)
    (ran : runOn (writeCatalogs session.config.locales ∅) session.counted world =
      (.ok all, between, middle)) :
    KeepsReading session between ∧ Renewed view between middle.disk all := by
  have steady' : session.counted.Steady := ⟨steady.sound, steady.counted⟩
  -- The run is the same but for the counts, which begin anew.
  have renews := RenewsAll.of_ran lined.counted ran
  have advances := renews.advances lined.counted
  have reading : KeepsReading session between := advances.kept.keepsReading
  refine ⟨reading, ⟨advances.files.honest lined.honest, lined.apart.of_same reading.sameSettings,
    fun _ => id⟩, ?_, ?_⟩
  all_goals rw [reading.sameSettings.1]
  · exact renews.upToDate steady' lined.counted
  · exact fun locale other => get?_of_writeCatalogs lined ran other

/-- Catalogs stay up to date while bundles are added. -/
theorem Renewed.addsBundles {before disk : δ} (renewed : Renewed view session before all)
    (adds : AddsBundles view session after before disk) (apart : BundlesApart view after) :
    Renewed view after disk all := by
  have same := adds.kept.keepsReading.sameSettings
  refine ⟨⟨adds.files.honest renewed.lined.honest, renewed.lined.apart.of_same same, fun _ => id⟩,
    ?_, ?_⟩
  -- Bundles are no catalogs, so the catalogs are as they were.
  all_goals rw [same.1]
  · intro locale listed
    obtain ⟨entries, told, upToDate⟩ := renewed.upToDate locale listed
    exact ⟨entries, told, upToDate.congr adds.kept.keepsReading (by rw [adds.kept])
      (adds.text?_catalog apart listed)⟩
  · exact renewed.others

/-- Writing catalogs that are up to date does nothing, and leads to the same entries, but for empty
comments. It fails only where a catalog cannot be read. -/
theorem Renewed.writeCatalogs (renewed : Renewed view session world.disk all)
    {result : Outcome (SortedMap String (List Entry))}
    (ran : runOn (writeCatalogs session.config.locales ∅) session.counted world =
      (result, between, middle)) :
    middle = world ∧ between.summary.catalogWrites = 0 ∧
      (∀ again, result = .ok again → ∀ locale,
        (again.get? locale).map (List.map Entry.withoutEmptyComments) =
          (all.get? locale).map (List.map Entry.withoutEmptyComments)) ∧
      (session.Rereads →
        (∀ locale ∈ session.config.locales, Readable world.disk (session.catalogPath locale)) →
        ∃ again, result = .ok again) := by
  have lined := renewed.lined.counted
  have upToDate : ∀ locale ∈ session.config.locales, ∃ entries, all.get? locale = some entries ∧
      UpToDate view session.counted world.disk locale entries := by
    intro locale member
    obtain ⟨entries, told, upToDate⟩ := renewed.upToDate locale member
    exact ⟨entries, told, upToDate.congr rfl rfl rfl⟩
  -- Each catalog is up to date when its turn comes.
  have each : ∀ locale ∈ session.config.locales, ∃ entries,
      UpToDate view session.counted world.disk locale entries := by
    intro locale member
    obtain ⟨entries, -, upToDate⟩ := upToDate locale member
    exact ⟨entries, upToDate⟩
  have renews := RenewsAll.of_ran lined ran
  obtain ⟨same, uncounted⟩ := renews.eq_of_quiet lined (.of_upToDate each)
  -- A locale that is not listed is told nothing, before and now.
  refine ⟨same, uncounted, ?_, fun rereads readable => ?_⟩
  · rintro again rfl locale
    by_cases member : locale ∈ session.config.locales
    · exact renews.get?_of_upToDate lined upToDate locale member
    · rw [renews.get?_of_not_mem member, renewed.others locale member]
      rfl
  · exact renews.ok_of_upToDate lined each rereads readable

/-- All catalogs of a session are up to date, and the texts of their bundles for certain targets are
known. -/
structure Finished (view : DiskView δ) (session : Session) (disk : δ)
    (all : SortedMap String (List Entry)) (targets : List Path) : Prop
    extends Renewed view session disk all where
  known : ∀ file ∈ session.bundlesFor all targets, session.KnowsText file

/-- A writing that succeeds finishes the catalogs and the bundles for the targets that it finds. -/
theorem finished_write (steady : session.Steady)
    (lined : Lined view session world.disk session.config.locales) {wrote : Bool}
    (ran : runOn write session world = (.ok wrote, after, later)) (apart : BundlesApart view after)
    (differ : ∀ targets, session.targetsOfWrite world = .ok targets →
      BundlesDiffer session targets) :
    ∃ all targets, session.targetsOfWrite world = .ok targets ∧
      Finished view after later.disk all targets := by
  obtain ⟨all, between, middle, targets, catalogs, found, bundles, -⟩ := runOn_write_eq_ok.1 ran
  obtain ⟨reading, renewed⟩ := renewed_writeCatalogs steady lined catalogs
  have adds : AddsBundles view between after middle.disk later.disk := .of_writeBundleFiles view bundles
  refine ⟨all, targets, found, renewed.addsBundles adds apart, ?_⟩
  rw [bundlesFor_congr adds.kept.keepsReading fun _ => rfl]
  exact knowsText_of_bundles lined catalogs bundles (differ targets found)

/-- Another writing that finds the same targets does nothing. -/
theorem Finished.writesNothing {targets : List Path}
    (finished : Finished view session world.disk all targets)
    (found : session.targets world.disk = .ok targets) {outcome : Outcome Bool}
    (ran : runOn write session world = (outcome, after, later)) :
    WritesNothing session world outcome after later := by
  -- The writing ended with the catalogs, or it went on to the bundles.
  rcases write_cases ran with ⟨failure, rfl, catalogs⟩ |
    ⟨again, between, middle, result, rfl, catalogs, bundles⟩
  all_goals
    obtain ⟨rfl, uncounted, same, succeeds⟩ := finished.writeCatalogs catalogs
    have kept := (keepsBundles_writeCatalogs session.config.locales ∅).of_ran catalogs
  · refine ⟨rfl, uncounted, by rw [kept]; rfl, fun rereads readable => ?_⟩
    obtain ⟨_, ⟨⟩⟩ := succeeds rereads readable
  · have reading : KeepsReading session between := kept.keepsReading
    have found' : between.targets middle.disk = .ok targets := by
      rw [← found, kept]
      rfl
    -- The bundles are those that are known, and so they are not written.
    have idle : runOn (writeBundleFiles (between.bundlesFor again targets)) between middle =
        (.ok (), between, middle) := by
      rw [bundlesFor_congr reading (same again rfl)]
      refine runOn_writeBundleFiles_of_known (fun file member => ?_) middle
      exact (finished.known file member).of_kept (by rw [kept]; rfl)
    have unwritten : between.summary.bundleWrites = 0 := by rw [kept]; rfl
    rw [runOn_writeBundles, found'] at bundles
    cases idle.symm.trans bundles
    refine ⟨rfl, uncounted, unwritten, fun _ _ => ?_⟩
    rw [uncounted, unwritten]
    rfl

end

end Session

end MessageCatalog
