import MessageCatalog.Proofs.Session.FullRead
import MessageCatalog.Proofs.Session.WritesAlike

/-! An update behind one that failed leaves the files that a fresh session would leave, if it reports a
change. -/

namespace MessageCatalog

namespace Session

section

variable {δ : Type} [Disk δ] {view : DiskView δ} {config : Config} {dir : Path}
  {start session failed after next : Session} {dawn dusk world middle cured later mid : World δ}
  {past : List (Session × World δ)} {changed : Option (List Path)} {failure : Failure}
  {reported wrote : Bool}

/-- A session holds the texts of the files that its patterns lead to. -/
def HoldsFound (view : DiskView δ) (session : Session) (disk : δ) : Prop :=
  ∃ files, session.sourceFiles disk = .ok files ∧
    session.sources = files.foldl (withFile view disk) ∅

/-- Sessions are abreast of their catalogs for what they have read and know of them. -/
theorem Abreast.of_kept {disk : δ} (abreast : Abreast view session disk)
    (kept : KeepsReading session after) (known : after.catalogCache = session.catalogCache) :
    Abreast view after disk := by
  intro locale listed merged text renewed
  rw [kept.sameSettings.1] at listed
  rw [kept.readAlike.renew_eq, kept.sameSettings.catalogPath_eq] at renewed
  rw [known, kept.sameSettings.catalogPath_eq]
  exact abreast locale listed merged text renewed

/-- A session that has read every source has read what a new one reads. -/
theorem exists_readAlike_of_read_none (isNew : start.IsNew) (same : SameSettings start session)
    (honest : view.Honest world.disk) (spelled : session.SpelledAlike world.disk)
    (ran : runOn (read none) session world = (.ok true, next, mid)) :
    ∃ fresh dusk, runOn (read none) start world = (.ok true, fresh, dusk) ∧ ReadAlike next fresh ∧
      fresh.catalogCache = ∅ ∧ fresh.bundleCaches = start.bundleCaches ∧ dusk.disk = world.disk := by
  -- The texts are those of the files that are found, and a new session finds the same ones.
  obtain ⟨files, found, readable, sources⟩ := sources_of_read_none honest spelled ran
  have index := isFresh_of_read_true ran
  have settings : SameSettings start next :=
    same.trans (SameSettings.trans ⟨rfl, rfl, rfl⟩ (keepsRest_of_read ran).sameSettings)
  have found' : start.sourceFiles world.disk = .ok files := by
    rw [sourceFiles, ← same.1]
    exact found
  -- These files were read once already, so the new session does not fail at them either.
  obtain ⟨changes, between, last, loaded⟩ : ∃ changes between last,
      runOn (anyChange loadSource files) { start with hasRead := true } world =
        (.ok changes, between, last) := runOn_loadAll_of_readable readable
  have began := runOn_first_read isNew world
  rw [found'] at began
  dsimp only at began
  rw [loaded] at began
  dsimp only at began
  refine ⟨_, _, began, ?_⟩
  obtain ⟨files', again, eq⟩ := eq_of_first_read isNew honest began
  cases found'.symm.trans again
  rw [eq]
  refine ⟨⟨⟨settings.1.symm, settings.2.1.symm, settings.2.2.symm⟩, sources.symm, ?_⟩, isNew.uncached,
    rfl, (keepsDisk_read none).of_ran began⟩
  rw [index, sources, settings.2.1]

/-- Where a session reads every source and writes what has changed, a new one leaves the same files, as long
as what the session knows of catalogs and bundles is there. -/
theorem update_as_fresh (spelling : view.IgnoresSpelling) (isNew : start.IsNew)
    (bare : start.bundleCaches = ∅) (same : SameSettings start session)
    (lined : Lined view session world.disk session.config.locales)
    (spelled : session.SpelledAlike world.disk)
    (opened : runOn (read none) session world = (.ok true, next, mid))
    (written : runOn write next mid = (.ok wrote, after, later))
    (abreast : Abreast view { after with catalogCache := session.catalogCache } world.disk)
    (holds : HoldsBundles view next mid.disk) (outputs : OutputsApart view after)
    (readable : ∀ disk, Disk.Follows after.IsOutput world.disk disk → ∀ path, after.KnowsBundle path →
      Readable disk path) :
    ∃ renewed ended, runOn (update none) start world = (.ok true, renewed, ended) ∧
      ended.disk = later.disk := by
  have disk : mid.disk = world.disk := (keepsDisk_read none).of_ran opened
  have kept := keepsRest_of_read opened
  have settings : SameSettings session next := SameSettings.trans ⟨rfl, rfl, rfl⟩ kept.sameSettings
  have reading := keepsReading_write.of_ran written
  have lined' : Lined view next mid.disk next.config.locales := by
    rw [disk]
    exact ⟨lined.honest, lined.apart.of_same settings, fun _ => id⟩
  -- The new session comes to the same texts and index, with empty caches.
  obtain ⟨fresh, dusk, opened', alike, uncached, unwritten, disk'⟩ :=
    exists_readAlike_of_read_none isNew same lined.honest spelled opened
  rw [bare] at unwritten
  have bundles : BundlesAlike view next fresh mid.disk := {
    same := alike.symm.same
    knows := fun path known => absurd known (not_knowsBundle unwritten path)
    holds
    holds' := fun file known => absurd known.knowsBundle (not_knowsBundle unwritten _) }
  -- What is known of catalogs is what was known before the reading.
  have abreast' : Abreast view next mid.disk := by
    rw [disk]
    refine abreast.of_kept reading.symm ?_
    rw [kept]
  rw [← disk] at readable
  obtain ⟨_, renewed, ended, written', same⟩ := alike.write spelling lined' (disk'.trans disk.symm)
    abreast' (abreast_of_uncached uncached) bundles written outputs readable
  exact ⟨renewed, ended, runOn_update_of_changes opened' written', same⟩

/-- An update that fails although its reading succeeded leaves a fresh index. -/
theorem isFresh_of_unwritten {told : Bool}
    (opened : runOn (read changed) session world = (.ok told, next, mid))
    (broke : runOn (update changed) session world = (.error failure, failed, middle)) :
    failed.IsFresh := by
  -- It failed in its writing, which keeps what was read.
  rcases update_cases broke with ⟨_, -, unread⟩ | ⟨_, ⟨⟩, _⟩ | ⟨_, _, _, -, opened', written⟩
  · cases opened.symm.trans unread
  · exact (isFresh_of_read_true opened').of_kept (keepsReading_write.of_ran written)

/-- Whatever a session went through while other programs spared its bundles, and at whatever point an update
of it then failed: once the cause is gone and the files are as the failure left them, an update that
reports a change leaves the files that the update of a new session with the same settings would leave. Where
the failed update had read with success, one that reports no change leaves the session and the files as they
are, and the session holds all texts that are found, with a fresh index. The catalogs whose new text the
session knows have that text, outputs lie in different files, and bundles can be read. -/
theorem retry_writes_as_fresh (spelling : view.IgnoresSpelling)
    (placed : config.templateDir? = some dir)
    (made : (new config : StateM (World δ) (Outcome Session)).run dawn = (.ok start, dusk))
    (honest : view.Honest dusk.disk) (apart : CatalogsApart view start)
    (history : History view KnowsBundle (start, dusk) ((session, world) :: past))
    (broke : runOn (update changed) session world = (.error failure, failed, middle))
    (cure : view.Untouched middle.disk cured.disk) (spelled : failed.SpelledAlike cured.disk)
    (ran : runOn (update none) failed cured = (.ok reported, after, later))
    (abreast : Abreast view { after with catalogCache := failed.catalogCache } cured.disk)
    (outputs : OutputsApart view after)
    (readable : ∀ disk, Disk.Follows after.IsOutput cured.disk disk → ∀ path, after.KnowsBundle path →
      Readable disk path) :
    (reported = true → ∃ renewed ended,
      (new config : StateM (World δ) (Outcome Session)).run cured = (.ok start, cured) ∧
      runOn (update none) start cured = (.ok true, renewed, ended) ∧ ended.disk = later.disk) ∧
    ∀ told next mid, runOn (read changed) session world = (.ok told, next, mid) → reported = false →
      after = failed ∧ later.disk = cured.disk ∧ HoldsFound view failed cured.disk ∧ failed.IsFresh := by
  have isNew := isNew_new made
  have bare : start.bundleCaches = ∅ := by
    obtain ⟨-, included, ignored, dir, scratch, -, -, rfl⟩ := new_eq_ok made
    rfl
  have begun : Lined view start dusk.disk start.config.locales := ⟨honest, apart, fun _ => id⟩
  -- The failed update and the cure go on with the history.
  obtain ⟨past', history⟩ := history.update broke
  have history := history.next (.others cure.honest fun path _ => cure.text? path)
  have lined : Lined view failed cured.disk failed.config.locales := history.lined begun
  -- The second update failed, reported no change, or wrote what it had read.
  rcases update_cases ran with ⟨_, ⟨⟩, _⟩ | ⟨mid, told, rfl, opened⟩ |
    ⟨next, mid, result, told, opened, written⟩
  · cases told
    have disk := (keepsDisk_read none).of_ran opened
    obtain ⟨-, rfl⟩ := eq_of_read_false opened
    obtain ⟨files, found, -, sources⟩ := sources_of_read_none lined.honest spelled opened
    refine ⟨nofun, fun _ _ _ read _ => ⟨rfl, ?_, ⟨files, found, sources⟩, ?_⟩⟩
    · rw [disk_logged]
      exact disk
    · exact isFresh_of_unwritten read broke
  · -- A change is reported only by an update that ended well.
    cases result with
    | error cause => cases told
    | ok wrote =>
      cases told
      have settings := history.sameSettings
      have history := history.next (.read opened)
      have lined' : Lined view next mid.disk next.config.locales := history.lined begun
      have reading := keepsReading_write.of_ran written
      -- Up to the writing, what is known of the bundles is there, for other programs spared them.
      have holds : HoldsBundles view next mid.disk := history.holdsBundles spelling begun bare
        (outputs.of_knowsMore reading.sameSettings ((Writes.of_ran lined' written).knowsMore lined'))
      obtain ⟨renewed, ended, ran, same⟩ := update_as_fresh spelling isNew bare settings lined spelled
        opened written abreast holds outputs readable
      refine ⟨fun _ => ⟨renewed, ended, ?_, ran, same⟩, nofun⟩
      obtain ⟨outcome, always⟩ := run_new_of_templateDir (σ := World δ) placed
      cases (always dawn).symm.trans made
      exact always cured

end

/-- The script, and a directory for catalogs. -/
private def noteWorld : World MemoryDisk := .ofFiles [(⟨"a.js"⟩, "__('A')")] [⟨"locales"⟩]

/-- The script when it cannot be read. -/
private def barredNote : World MemoryDisk := noteWorld.forbid .read ⟨"a.js"⟩

/-- Why it cannot be read. -/
private def barredNoteFailure : Failure where
  contexts := ["Failed to read source a.js"]
  cause := .file ⟨.permissionDenied, "injected read fault: a.js"⟩

/-- The session after it could not read the script. -/
private def triedNote : Session := { fileSession with hasRead := true }

/-- The session after it has read the script. -/
private def openNote : Session := fileSession.withMessage "a.js" "A"

/-- The session after it has written its catalog. -/
private def doneNote : Session := (runOn write openNote noteWorld).2.1

/-- The files then. -/
private def doneNoteWorld : World MemoryDisk := (runOn write openNote noteWorld).2.2

private theorem wrote_note :
    (runOn write openNote noteWorld).1 = .ok true ∧ doneNote.bundleCaches = ∅ ∧
      doneNoteWorld.disk.files.get? ⟨"locales/en.po"⟩ = some (newCatalog "a.js" "A") := by
  decide +kernel

private theorem read_note (session : Session) (told : session = fileSession ∨ session = triedNote) :
    runOn (read none) session noteWorld = (.ok true, openNote, noteWorld) := by
  rcases told with rfl | rfl <;> cbv

private theorem update_note (session : Session) (told : session = fileSession ∨ session = triedNote) :
    runOn (update none) session noteWorld = (.ok true, doneNote, doneNoteWorld) := by
  obtain ⟨wrote, -, -⟩ := wrote_note
  exact runOn_update_of_changes (read_note session told) (runOn_eq wrote)

/-- After the script could not be read, the update that reads it leaves the catalog that a fresh session
leaves. -/
theorem retry_writes_as_fresh_unread : ∃ renewed ended,
    runOn (update none) fileSession noteWorld = (.ok true, renewed, ended) ∧
      ended.disk = doneNoteWorld.disk ∧
      ended.disk.files.get? ⟨"locales/en.po"⟩ = some (newCatalog "a.js" "A") := by
  obtain ⟨-, bare, file⟩ := wrote_note
  have unread : runOn (read none) fileSession barredNote =
      (.error barredNoteFailure, triedNote, barredNote) := by cbv
  have broke : runOn (update none) fileSession barredNote =
      (.error barredNoteFailure, triedNote, barredNote) := by
    rw [runOn_update, unread]
  -- The script is unlocked in between, and nothing else happens.
  have cure : MemoryDisk.view.Untouched barredNote.disk noteWorld.disk :=
    ⟨fun _ => World.honest_ofFiles _ _, fun _ => rfl⟩
  have honest : barredNote.disk.Honest := World.honest_forbid (World.honest_ofFiles _ _) _ _
  -- Nothing is held before the retry, so nothing is held by another spelling.
  have spelled : triedNote.SpelledAlike noteWorld.disk := by
    intro _ _ _ _ _ held
    cases held
  obtain ⟨renewed, ended, -, ran, same⟩ := (retry_writes_as_fresh MemoryDisk.view_ignoresSpelling
    (rfl : fileSession.config.templateDir? = some ⟨"locales"⟩) (run_new_fileSession barredNote) honest
    (catalogsApart_of_single MemoryDisk.view rfl) .start broke cure spelled
    (update_note _ (.inr rfl)) (abreast_of_uncached rfl) (outputsApart_of_bare _ bare)
    fun _ _ path known => absurd known (not_knowsBundle bare path)).1 rfl
  exact ⟨renewed, ended, ran, same, same ▸ file⟩

/-- The files when the catalog cannot be written. -/
private def lockedNote : World MemoryDisk := noteWorld.forbid .write ⟨"locales/en.po"⟩

/-- The session after it could not write its catalog. -/
private def stuckNote : Session := (runOn write openNote lockedNote).2.1

/-- The files then. -/
private def stuckNoteWorld : World MemoryDisk := (runOn write openNote lockedNote).2.2

private theorem locked_note :
    (runOn write openNote lockedNote).1.isOk = false ∧ stuckNote.bundleCaches = ∅ ∧
      stuckNoteWorld.disk.files = noteWorld.disk.files := by
  decide +kernel

private theorem stuck_note :
    ∃ failure, runOn (update none) fileSession lockedNote = (.error failure, stuckNote, stuckNoteWorld) := by
  obtain ⟨failed, -, -⟩ := locked_note
  have opened : runOn (read none) fileSession lockedNote = (.ok true, openNote, lockedNote) := by cbv
  rw [runOn_update, opened, stuckNote, stuckNoteWorld]
  dsimp only
  -- Only how the writing ends is known of it, and that is enough.
  generalize runOn write openNote lockedNote = ran at failed ⊢
  obtain ⟨failure | wrote, after, later⟩ := ran
  · exact ⟨failure, rfl⟩
  · cases failed

/-- Whatever the session knows of its outputs, it finds the script as it was. -/
private theorem unchanged_note {after : Session} (kept : KeepsReading openNote after) :
    runOn (update none) after noteWorld = (.ok false, after, noteWorld) := by
  rw [kept]
  generalize after.catalogCache = catalogs
  generalize after.bundleCaches = bundles
  generalize after.summary = summary
  generalize after.scratchDir = scratch
  cbv

/-- An update behind one that failed can succeed without what a fresh session would leave: the catalog could
not be written, and the next update finds no source that has changed since. -/
theorem not_retry_writes_as_fresh :
    ¬ ∀ (config : Config) (start session failed after fresh renewed : Session)
      (dawn dusk world middle cured later begun ended : World MemoryDisk)
      (past : List (Session × World MemoryDisk)) (changed : Option (List Path)) (failure : Failure)
      (reported told : Bool),
      (new config : StateM (World MemoryDisk) (Outcome Session)).run dawn = (.ok start, dusk) →
      dusk.disk.Honest → CatalogsApart MemoryDisk.view start →
      History MemoryDisk.view IsOutput (start, dusk) ((session, world) :: past) →
      runOn (update changed) session world = (.error failure, failed, middle) →
      MemoryDisk.view.Untouched middle.disk cured.disk →
      runOn (update none) failed cured = (.ok reported, after, later) →
      OutputsApart MemoryDisk.view after →
      (new config : StateM (World MemoryDisk) (Outcome Session)).run cured = (.ok fresh, begun) →
      runOn (update none) fresh begun = (.ok told, renewed, ended) →
      ∀ locale ∈ config.locales, MemoryDisk.view.text? later.disk (fresh.catalogPath locale) =
        MemoryDisk.view.text? ended.disk (fresh.catalogPath locale) := by
  intro claimed
  obtain ⟨-, -, file⟩ := wrote_note
  obtain ⟨-, bare, files⟩ := locked_note
  obtain ⟨failure, broke⟩ := stuck_note
  have honest : lockedNote.disk.Honest := World.honest_forbid (World.honest_ofFiles _ _) _ _
  -- The catalog was locked at first and can be written then, but no script has changed.
  have cure : MemoryDisk.view.Untouched stuckNoteWorld.disk noteWorld.disk :=
    ⟨fun _ => World.honest_ofFiles _ _, fun path => congrArg (·.get? path) files.symm⟩
  have path : fileSession.catalogPath "en" = ⟨"locales/en.po"⟩ := by decide +kernel
  have same := claimed _ _ _ _ _ _ _ _ _ _ _ _ _ _ _ _ _ _ _ _ (run_new_fileSession lockedNote) honest
    (catalogsApart_of_single MemoryDisk.view rfl) .start broke cure
    (unchanged_note (keepsReading_write openNote lockedNote)) (outputsApart_of_bare _ bare)
    (run_new_fileSession noteWorld) (update_note _ (.inl rfl)) "en" (.head _)
  rw [path] at same
  cases same.trans file

end Session

end MessageCatalog
