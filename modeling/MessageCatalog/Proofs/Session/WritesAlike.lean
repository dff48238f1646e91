import MessageCatalog.Proofs.Session.BundleTexts
import MessageCatalog.Proofs.Session.Uncached

/-! Sessions that have read the same write alike, as long as what they know of files is there. -/

namespace MessageCatalog

namespace Session

section

variable {δ : Type} [Disk δ] {view : DiskView δ} {session other between after : Session}
  {world world' middle later : World δ}

/-- Two sessions make the same bundles when they have read the same. -/
theorem ReadAlike.bundlesFor_eq (alike : ReadAlike session other)
    (all : SortedMap String (List Entry)) (targets : List Path) :
    other.bundlesFor all targets = session.bundlesFor all targets := by
  rw [bundlesFor, bundlesFor, style, style, alike.same.1, alike.sources, alike.index]

/-- A bundle is known however its path is spelled. -/
theorem KnowsBundle.congr {path file : Path} (known : session.KnowsBundle path)
    (same : compare path file = .eq) : session.KnowsBundle file := by
  obtain ⟨target, cache, found, held⟩ := known
  refine ⟨target, cache, found, ?_⟩
  rw [SortedMap.contains, ← SortedMap.entry?_congr same]
  exact held

/-- After a bundle was given a text, no others are known than that one and those known before. -/
theorem knowsBundle_of_writeBundle (view : DiskView δ) {file : Path × String} {path : Path}
    {outcome : Outcome Bool}
    (ran : runOn (writeBundle file) session world = (outcome, after, later))
    (known : after.KnowsBundle path) : session.KnowsBundle path ∨ compare path file.1 = .eq := by
  obtain ⟨updated, rfl, gives⟩ := gives_of_writeCached view ran
  have inserted
      (held : ((bundleCache (targetOf file.1) session).insert file.1 file.2).contains path = true) :
      (bundleCache (targetOf file.1) session).contains path = true ∨ compare path file.1 = .eq := by
    rw [SortedMap.contains_insert, Bool.or_eq_true, beq_iff_eq] at held
    exact held.symm
  -- The cache of the one target learns the path at most, and the other caches stay.
  have learned (held : updated.contains path = true) :
      (bundleCache (targetOf file.1) session).contains path = true ∨ compare path file.1 = .eq := by
    cases gives with
    | cached => exact .inl held
    | found => exact inserted held
    | put => exact inserted held
    | failed => exact .inl held
  obtain ⟨other, cache, found, held⟩ := known
  rw [setBundleCache, SortedMap.get?_insert] at found
  split at found
  · cases found
    refine (learned held).imp_left fun before => ?_
    rw [bundleCache] at before
    cases stored : session.bundleCaches.get? (targetOf file.1) with
    | none =>
      rw [stored] at before
      cases before
    | some cache =>
      rw [stored] at before
      exact ⟨targetOf file.1, cache, stored, before⟩
  · exact .inl ⟨other, cache, found, held⟩

/-- Two sessions with the same settings know of bundles only what is there, and one of them all that the
other one knows. -/
structure BundlesAlike (view : DiskView δ) (session other : Session) (disk : δ) : Prop where
  same : SameSettings other session
  knows : KnowsMore other session
  holds : HoldsBundles view session disk
  holds' : HoldsBundles view other disk

/-- Counts of writes do not matter to what is known of bundles. -/
theorem BundlesAlike.counted {disk : δ} (alike : BundlesAlike view session other disk)
    (summary summary' : Summary) :
    BundlesAlike view { session with summary } { other with summary := summary' } disk :=
  ⟨alike.same, alike.knows, alike.holds, alike.holds'⟩

/-- Both sessions give a bundle its text alike, where it can be read. -/
theorem BundlesAlike.writeBundle (spelling : view.IgnoresSpelling) (honest : view.Honest world.disk)
    (alike : BundlesAlike view session other world.disk) (same : world'.disk = world.disk)
    {file : Path × String} (readable : Readable world.disk file.1) {written : Bool}
    (ran : runOn (writeBundle file) session world = (.ok written, between, middle))
    (apart : OutputsApart view between) :
    ∃ between' middle', runOn (Session.writeBundle file) other world' =
        (.ok written, between', middle') ∧
      middle'.disk = middle.disk ∧ BundlesAlike view between between' middle.disk := by
  rcases ran' : runOn (Session.writeBundle file) other world' with ⟨outcome', between', middle'⟩
  -- What the bundle is given depends on the files only.
  obtain ⟨told, disk⟩ := given_of_writeCached
    (fun known => readable.read honest (alike.holds file known)) ran
  obtain ⟨told', disk'⟩ := given_of_writeCached (by
    rw [same]
    exact fun known => readable.read honest (alike.holds' file known)) ran'
  rw [same, ← told] at told'
  rw [same, ← disk] at disk'
  have adds := AddsBundles.of_writeBundle view ran
  have adds' := AddsBundles.of_writeBundle view ran'
  have settings := (adds'.kept.keepsReading.symm.sameSettings.trans alike.same).trans
    adds.kept.keepsReading.sameSettings
  -- What the other session knows now it knew before, or it is the bundle that both have written.
  have more : KnowsMore between' between := by
    intro path known
    rcases knowsBundle_of_writeBundle view ran' known with before | equal
    · exact adds.knows path (alike.knows path before)
    · exact (knowsText_of_writeBundle view ran).knowsBundle.congr (Std.OrientedCmp.eq_symm equal)
  refine ⟨between', middle', ?_, disk', settings, more, alike.holds.writeBundle spelling honest ran apart,
    ?_⟩
  · rw [told']
  · rw [← disk']
    exact HoldsBundles.writeBundle spelling (same ▸ honest) (same ▸ alike.holds') ran'
      (apart.of_knowsMore settings more)

/-- Both sessions write bundles alike, where these can be read. -/
theorem BundlesAlike.writeBundleFiles (spelling : view.IgnoresSpelling)
    (honest : view.Honest world.disk) (alike : BundlesAlike view session other world.disk)
    (same : world'.disk = world.disk) {files : List (Path × String)}
    (readable : ∀ disk, Disk.Follows (fun path => ∃ file ∈ files, path = file.1) world.disk disk →
      ∀ file ∈ files, Readable disk file.1)
    (ran : runOn (writeBundleFiles files) session world = (.ok (), after, later))
    (apart : OutputsApart view after) :
    ∃ after' later', runOn (Session.writeBundleFiles files) other world' = (.ok (), after', later') ∧
      later'.disk = later.disk := by
  -- By induction on the files; what is known at the end includes what is known on the way.
  induction files generalizing session other world world' with
  | nil =>
    cases ran
    exact ⟨other, world', rfl, same⟩
  | cons file files ih =>
    rcases writeBundleFiles_cases ran with ⟨_, ⟨⟩, _⟩ | ⟨written, between, middle, wrote, rest⟩
    have others := (AddsBundles.of_writeBundleFiles view rest).of_countBundle
    obtain ⟨between', middle', wrote', disk, alike⟩ := alike.writeBundle spelling honest same
      (readable _ .refl file (.head _)) wrote
      (apart.of_knowsMore others.kept.keepsReading.sameSettings others.knows)
    obtain ⟨_, -, gives⟩ := gives_of_writeCached view wrote
    have first : Disk.Follows (fun path => ∃ other ∈ file :: files, path = other.1) world.disk
        middle.disk := gives.follows.mono fun path same => ⟨file, .head _, same⟩
    rw [runOn_writeBundleFiles_cons, wrote']
    refine ih ((AddsBundles.of_writeBundle view wrote).files.honest honest)
      (alike.counted _ _) disk (fun disk follows other member => ?_) rest
    refine readable disk (first.trans (follows.mono ?_)) other (.tail _ member)
    rintro path ⟨other, member, same⟩
    exact ⟨other, .tail _ member, same⟩

/-- A session knows the bundles that it has written with success. -/
theorem knowsBundle_of_writeBundleFiles (view : DiskView δ) {files : List (Path × String)}
    (ran : runOn (writeBundleFiles files) session world = (.ok (), after, later)) :
    ∀ file ∈ files, after.KnowsBundle file.1 := by
  -- By induction on the files; what is known of one stays known behind the others.
  induction files generalizing session world with
  | nil => exact nofun
  | cons file files ih =>
    rcases writeBundleFiles_cases ran with ⟨_, ⟨⟩, _⟩ | ⟨written, between, middle, wrote, rest⟩
    have others := (AddsBundles.of_writeBundleFiles view rest).of_countBundle
    exact List.forall_mem_cons.2
      ⟨others.knows _ (knowsText_of_writeBundle view wrote).knowsBundle, ih rest⟩

/-- Writing the catalog of a locale does no more than write its file and make the directory of that. -/
theorem Renews.follows {name : String} {outcome : Outcome (List Entry)}
    (listed : name ∈ session.config.locales)
    (renews : Renews view session name world outcome after later) :
    Disk.Follows session.IsCatalog world.disk later.disk := by
  have inside (path : Path) (same : path = session.catalogPath name) : session.IsCatalog path :=
    ⟨name, listed, same⟩
  rcases renews.gives with ⟨-, rfl⟩ | ⟨merged, text, written, cache, -, gives, -⟩
  · exact .refl
  · exact gives.follows.mono inside

/-- Writing catalogs does no more than write their files and make the directories of those. -/
theorem RenewsAll.follows {locales : List String} {found : SortedMap String (List Entry)}
    {outcome : Outcome (SortedMap String (List Entry))}
    (lined : Lined view session world.disk locales)
    (renews : RenewsAll view locales found session world outcome after later) :
    Disk.Follows session.IsCatalog world.disk later.disk := by
  -- By induction on the run, all of whose changes are to catalogs of the same session.
  induction renews with
  | nil => exact .refl
  | failed renews => exact renews.follows (lined.listed _ (.head _))
  | cons renews _ ih =>
    have advances := renews.advances lined
    have rest := ih (lined.tail advances)
    rw [advances.kept.keepsReading.isCatalog_eq] at rest
    exact (renews.follows (lined.listed _ (.head _))).trans rest

/-- Both sessions know of bundles what they knew when catalogs have been written. -/
theorem BundlesAlike.advances {next next' : Session} {before disk : δ}
    (alike : BundlesAlike view session other before) (apart : OutputsApart view session)
    (advances : Advances view session.counted next before disk)
    (advances' : Advances view other.counted next' before disk) :
    BundlesAlike view next next' disk where
  same := (advances'.kept.keepsReading.symm.sameSettings.trans alike.same).trans
    advances.kept.keepsReading.sameSettings
  knows := by
    intro path known
    -- Writing catalogs does not change what is known of bundles, on either side.
    have before : other.KnowsBundle path := by
      unfold KnowsBundle at known ⊢
      rw [advances'.kept] at known
      exact known
    have before := alike.knows path before
    unfold KnowsBundle at before ⊢
    rw [advances.kept]
    exact before
  holds := alike.holds.advances apart advances
  holds' := alike.holds'.advances (apart.of_knowsMore alike.same alike.knows) advances'

/-- Two sessions that have read the same, and know of catalogs and bundles only what is there, write alike. -/
theorem ReadAlike.write (spelling : view.IgnoresSpelling) (alike : ReadAlike session other)
    (lined : Lined view session world.disk session.config.locales) (same : world'.disk = world.disk)
    (abreast : Abreast view session world.disk) (abreast' : Abreast view other world.disk)
    (bundles : BundlesAlike view session other world.disk) {wrote : Bool}
    (ran : runOn write session world = (.ok wrote, after, later)) (apart : OutputsApart view after)
    (readable : ∀ disk, Disk.Follows after.IsOutput world.disk disk → ∀ path, after.KnowsBundle path →
      Readable disk path) :
    ∃ wrote' after' later', runOn Session.write other world' = (.ok wrote', after', later') ∧
      later'.disk = later.disk := by
  obtain ⟨all, between, middle, targets, catalogs, found, written, -⟩ := runOn_write_eq_ok.1 ran
  have alike' : ReadAlike session.counted other.counted := ⟨alike.same, alike.sources, alike.index⟩
  -- The catalogs are written alike, as far as to the same disk.
  obtain ⟨between', middle', catalogs', disk⟩ := alike'.writeCatalogs lined.counted same abreast
    abreast' catalogs
  have lined' : Lined view other world'.disk session.config.locales := by
    refine ⟨same ▸ lined.honest, lined.apart.of_same alike.same, fun name listed => ?_⟩
    rw [alike.same.1]
    exact listed
  have renews := RenewsAll.of_ran lined.counted catalogs
  have renews' := RenewsAll.of_ran lined'.counted catalogs'
  have advances := renews.advances lined.counted
  -- What is known of catalogs and bundles holds on both sides after that, too.
  have advances' := renews'.advances lined'.counted
  have reading := keepsReading_of_writeCatalogs catalogs
  have reading' := keepsReading_of_writeCatalogs catalogs'
  have read : ReadAlike between between' :=
    (reading.readAlike.symm.trans alike).trans reading'.readAlike
  have kept := keepsReading_write.of_ran ran
  have apartBefore := apart.of_knowsMore kept.sameSettings
    ((Writes.of_ran lined ran).knowsMore lined)
  rw [same, disk] at advances'
  have bundles' := bundles.advances apartBefore advances advances'
  have known := knowsBundle_of_writeBundleFiles view written
  have follows : Disk.Follows after.IsOutput world.disk middle.disk := by
    refine (renews.follows lined.counted).mono fun path catalog => .inl ?_
    rw [kept.isCatalog_eq]
    exact catalog
  -- A bundle can be read whatever has been written of the others, so that none of them fails.
  have reads (disk : δ) (more : Disk.Follows
      (fun path => ∃ file ∈ between.bundlesFor all targets, path = file.1) middle.disk disk) :
      ∀ file ∈ between.bundlesFor all targets, Readable disk file.1 := by
    refine fun file member => readable disk (follows.trans (more.mono ?_)) file.1 (known file member)
    rintro path ⟨file, member, rfl⟩
    exact .inr (known file member)
  obtain ⟨after', later', written', ended⟩ := bundles'.writeBundleFiles spelling
    (advances.files.honest lined.honest) disk reads written apart
  rw [← read.bundlesFor_eq] at written'
  refine ⟨_, after', later', runOn_write_eq_ok.2 ⟨all, between', middle', targets, ?_, ?_, written', rfl⟩,
    ended⟩
  · rw [alike.same.1]
    exact catalogs'
  · -- Targets are looked for with the same settings, and on the same disk.
    have found' : session.targets middle.disk = .ok targets := by
      rw [targetsOfWrite, bundleDisk, catalogs] at found
      exact found
    rw [targetsOfWrite, bundleDisk, alike.same.1, catalogs', ← found', Session.targets, Session.targets,
      alike.same.1, disk]

end

end Session

end MessageCatalog
