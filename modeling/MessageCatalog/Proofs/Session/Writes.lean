import MessageCatalog.Proofs.Session.CatalogRuns

/-! A writing brings the catalogs up to date, and adds bundles then; catalogs that are quiet stay so. -/

namespace MessageCatalog

namespace Session

section

variable {δ : Type} [Disk δ] (view : DiskView δ)

/-- What comes of a writing: bundles are written where the catalogs could be brought up to date. -/
inductive Writes (session : Session) (world : World δ) :
    Outcome Bool → Session → World δ → Prop
  | stopped {failure : Failure} {after : Session} {later : World δ}
    (catalogs : RenewsAll view session.config.locales ∅ session.counted world (.error failure)
      after later) : Writes session world (.error failure) after later
  | written {all : SortedMap String (List Entry)} {between after : Session}
    {middle later : World δ} {result : Outcome Unit}
    (catalogs : RenewsAll view session.config.locales ∅ session.counted world (.ok all) between
      middle)
    (bundles : runOn (writeBundles all) between middle = (result, after, later)) :
    Writes session world (result.map fun _ =>
      decide (0 < after.summary.catalogWrites + after.summary.bundleWrites)) after later

/-- No bundle that the session knows lies in the file of a catalog. -/
def BundlesApart (session : Session) : Prop :=
  ∀ path, session.KnowsBundle path → ∀ locale ∈ session.config.locales,
    view.Apart path (session.catalogPath locale)

/-- The session writes a catalog or a bundle to a path. -/
def IsOutput (session : Session) (path : Path) : Prop :=
  session.IsCatalog path ∨ session.KnowsBundle path

end

section

variable {δ : Type} [Disk δ] {view : DiskView δ} {session after : Session} {world later : World δ}
  {outcome : Outcome Bool}

/-- Counts of writes do not matter to catalogs. -/
theorem Lined.counted {disk : δ} {locales : List String} (lined : Lined view session disk locales) :
    Lined view session.counted disk locales := ⟨lined.honest, lined.apart, lined.listed⟩

/-- A writing brings the catalogs up to date, and then writes bundles. -/
theorem Writes.of_ran (lined : Lined view session world.disk session.config.locales)
    (ran : runOn write session world = (outcome, after, later)) :
    Writes view session world outcome after later := by
  rcases write_cases ran with ⟨failure, rfl, stopped⟩ | ⟨all, _, _, _, rfl, catalogs, bundles⟩
  · exact .stopped (.of_ran lined.counted stopped)
  · exact .written (.of_ran lined.counted catalogs) bundles

/-- What adding bundles means for catalogs: each has the text that it had. -/
theorem AddsBundles.text?_catalog {before disk : δ}
    (adds : AddsBundles view session after before disk) (apart : BundlesApart view after)
    {locale : String} (listed : locale ∈ session.config.locales) :
    view.text? disk (session.catalogPath locale) = view.text? before (session.catalogPath locale) := by
  have same := adds.kept.keepsReading.sameSettings
  refine adds.files.others _ fun path known => ?_
  rw [← same.catalogPath_eq]
  refine apart path known locale ?_
  rw [same.1]
  exact listed

/-- Catalogs are quiet after bundles were added, too. -/
theorem AddsBundles.quiet {before disk : δ} {locales : List String}
    (adds : AddsBundles view session after before disk) (apart : BundlesApart view after)
    (listed : ∀ name ∈ locales, name ∈ session.config.locales)
    (quiet : Quiet view session before locales) : Quiet view after disk locales := by
  have file (name : String) (member : name ∈ locales) :=
    adds.text?_catalog apart (listed name member)
  refine quiet.imp adds.kept.keepsReading file fun name member entries upToDate => ?_
  refine upToDate.congr adds.kept.keepsReading ?_ (file name member)
  rw [adds.kept]

/-- A writing keeps the settings, and changes no files but those of catalogs and bundles. -/
theorem Writes.touchesOnly (lined : Lined view session world.disk session.config.locales)
    (writes : Writes view session world outcome after later) :
    KeepsReading session after ∧ view.TouchesOnly after.IsOutput world.disk later.disk := by
  have begun : KeepsReading session session.counted := rfl
  -- A writing stops at a catalog, or the bundles follow, which keep what the catalogs have left.
  cases writes with
  | stopped catalogs =>
    have advances := catalogs.advances lined.counted
    have kept := begun.trans advances.kept.keepsReading
    refine ⟨kept, advances.files.mono fun path catalog => .inl ?_⟩
    rw [kept.isCatalog_eq]
    exact catalog
  | @written all between after middle later result catalogs bundles =>
    have advances := catalogs.advances lined.counted
    have adds : AddsBundles view between after middle.disk later.disk := .of_writeBundles view bundles
    have kept := (begun.trans advances.kept.keepsReading).trans adds.kept.keepsReading
    refine ⟨kept, (advances.files.mono fun path catalog => .inl ?_).trans
      (adds.files.mono fun path => .inr)⟩
    rw [kept.isCatalog_eq]
    exact catalog

/-- A writing leaves the catalogs quiet, unless it fails by trouble with a file. -/
theorem Writes.quiet (steady : session.Steady)
    (lined : Lined view session world.disk session.config.locales)
    (writes : Writes view session world outcome after later) (apart : BundlesApart view after)
    (untroubled : Disk.Untroubled δ outcome) :
    Quiet view after later.disk session.config.locales := by
  have steady' : session.counted.Steady := ⟨steady.sound, steady.counted⟩
  -- Where it stops at a catalog, that one stops the next writing as well.
  cases writes with
  | stopped catalogs =>
    refine catalogs.quiet steady' lined.counted fun failure told => untroubled failure ?_
    cases told
    rfl
  | @written all between after middle later result catalogs bundles =>
    have advances := catalogs.advances lined.counted
    have adds : AddsBundles view between after middle.disk later.disk := .of_writeBundles view bundles
    have quiet := catalogs.quiet steady' lined.counted (Disk.untroubled_ok δ all)
    refine adds.quiet apart ?_ quiet
    rw [advances.kept.keepsReading.sameSettings.1]
    exact lined.listed

/-- A writing leaves texts there that catalogs are known to have, if they were there before. -/
theorem Writes.coherent (lined : Lined view session world.disk session.config.locales)
    (writes : Writes view session world outcome after later) (apart : BundlesApart view after)
    (coherent : Coherent view session world.disk) : Coherent view after later.disk := by
  cases writes with
  | stopped catalogs => exact (catalogs.advances lined.counted).coherent coherent
  | @written all between after middle later result catalogs bundles =>
    have advanced := (catalogs.advances lined.counted).coherent coherent
    have adds : AddsBundles view between after middle.disk later.disk := .of_writeBundles view bundles
    have same := adds.kept.keepsReading.sameSettings
    -- Bundles lie apart from the catalogs, and so the texts of those stay.
    intro locale listed text known
    rw [same.1] at listed
    rw [same.catalogPath_eq] at known ⊢
    rw [adds.text?_catalog apart listed]
    refine advanced locale listed text ?_
    rw [adds.kept] at known
    exact known

/-- A session knows every bundle that it knew before a writing. -/
theorem Writes.knowsMore (lined : Lined view session world.disk session.config.locales)
    (writes : Writes view session world outcome after later) : KnowsMore session after := by
  -- Catalogs leave what is known of bundles, and bundles add to it.
  cases writes with
  | stopped catalogs =>
    have kept := (catalogs.advances lined.counted).kept
    intro path known
    unfold KnowsBundle
    rw [kept]
    exact known
  | @written all between after middle later result catalogs bundles =>
    have kept := (catalogs.advances lined.counted).kept
    have adds : AddsBundles view between after middle.disk later.disk := .of_writeBundles view bundles
    refine KnowsMore.trans (fun path known => ?_) adds.knows
    unfold KnowsBundle
    rw [kept]
    exact known

/-- Bundles that lie apart from the catalogs at the end did so before. -/
theorem BundlesApart.of_knowsMore (apart : BundlesApart view after)
    (same : SameSettings session after) (knows : KnowsMore session after) :
    BundlesApart view session := by
  intro path known locale listed
  rw [← same.catalogPath_eq]
  refine apart path (knows path known) locale ?_
  rw [same.1]
  exact listed

/-- A writing that writes no catalog, and leaves each of them as it is. -/
structure SparesCatalogs (view : DiskView δ) (after : Session) (before later : δ) : Prop where
  unwritten : after.summary.catalogWrites = 0
  texts : ∀ locale ∈ after.config.locales,
    view.text? later (after.catalogPath locale) = view.text? before (after.catalogPath locale)

/-- Where catalogs are quiet, a writing spares them. -/
theorem Writes.spares (lined : Lined view session world.disk session.config.locales)
    (quiet : Quiet view session world.disk session.config.locales)
    (writes : Writes view session world outcome after later) (apart : BundlesApart view after) :
    SparesCatalogs view after world.disk later.disk := by
  have quiet' : Quiet view session.counted world.disk session.config.locales :=
    quiet.imp rfl (fun _ _ => rfl) fun _ _ _ upToDate => upToDate.congr rfl rfl rfl
  -- Quiet catalogs leave session and files as they are, and bundles leave the catalogs.
  cases writes with
  | stopped catalogs =>
    obtain ⟨rfl, unwritten⟩ := catalogs.eq_of_quiet lined.counted quiet'
    exact ⟨unwritten, fun _ _ => rfl⟩
  | @written all between after middle later result catalogs bundles =>
    obtain ⟨rfl, unwritten⟩ := catalogs.eq_of_quiet lined.counted quiet'
    have adds : AddsBundles view between after middle.disk later.disk := .of_writeBundles view bundles
    have same := adds.kept.keepsReading.sameSettings
    refine ⟨?_, fun locale listed => ?_⟩
    · rw [adds.kept]
      exact unwritten
    · rw [same.1] at listed
      rw [same.catalogPath_eq]
      exact adds.text?_catalog apart listed

end

end Session

end MessageCatalog
