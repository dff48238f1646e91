import Mathlib
import MessageCatalog.Proofs.Disk.Directories
import MessageCatalog.Proofs.Session.BundleTexts
import MessageCatalog.Proofs.Session.Finished
import MessageCatalog.Proofs.Session.Reached

/-! After a writing another one writes nothing at all, as long as it finds the same targets. -/

namespace MessageCatalog

namespace Session

section

variable {δ : Type} [Disk δ]

variable {view : DiskView δ} {session after last : Session} {world later latest : World δ}

/-- A session that was made and has gone through anything is written with success, and written again at
once. Its outputs lie in different files. -/
structure WritesTwice (view : DiskView δ) (config : Config) (session after last : Session)
    (world later latest : World δ) (outcome : Outcome Bool) : Prop where
  reached : ∃ start dawn dusk,
    (new config : StateM (World δ) (Outcome Session)).run dawn = (.ok start, dusk) ∧
    Reached (World δ) config.format.Names start session
  honest : view.Honest world.disk
  written : ∃ wrote, runOn write session world = (.ok wrote, after, later)
  again : runOn write after later = (outcome, last, latest)
  catalogsApart : CatalogsApart view session
  bundlesApart : BundlesApart view after
  bundlesDiffer : ∀ targets, session.targetsOfWrite world = .ok targets →
    BundlesDiffer session targets

/-- The second one of two writings that find the same targets does nothing. -/
theorem WritesTwice.writesNothing {config : Config} {outcome : Outcome Bool}
    (twice : WritesTwice view config session after last world later latest outcome)
    (counted : ∀ locale, config.pluralFormsFor locale ≤ maxCount)
    (stable : session.targets later.disk = session.targetsOfWrite world) :
    WritesNothing after later outcome last latest := by
  obtain ⟨start, dawn, dusk, made, reached⟩ := twice.reached
  obtain ⟨wrote, written⟩ := twice.written
  obtain ⟨all, targets, found, finished⟩ := finished_write (Reached.steady made counted reached).2
    ⟨twice.honest, twice.catalogsApart, fun _ => id⟩ written twice.bundlesApart twice.bundlesDiffer
  have kept := keepsReading_write.of_ran written
  -- The same targets are found again, for which everything is known.
  refine finished.writesNothing ?_ twice.again
  rw [Session.targets, kept.sameSettings.1]
  exact stable.trans found

end

/-- No directory that has to be made on the way to a bundle matches the patterns for targets. -/
def MakesNoTarget (session : Session) (world : World MemoryDisk) : Prop :=
  ∀ included ignored targets, compilePatterns session.config.targets = .ok included →
    compilePatterns session.config.ignore = .ok ignored →
    session.targetsOfWrite world = .ok targets →
    ∀ target ∈ targets, ∀ name : Option String, (∀ locale ∈ name, locale ∈ session.config.locales) →
    ∀ dir ∈ (bundlePath target name).way,
      (session.bundleDisk world).hasDir dir = true ∨ MemoryDisk.passes included ignored dir = false

/-- In memory the targets after a writing are those that it found, when it makes none. -/
theorem MakesNoTarget.targets_eq {session after : Session} {world later : World MemoryDisk}
    (makesNone : session.MakesNoTarget world)
    (lined : Lined MemoryDisk.view session world.disk session.config.locales) {wrote : Bool}
    (ran : runOn write session world = (.ok wrote, after, later)) (orderly : later.disk.Orderly) :
    session.targets later.disk = session.targetsOfWrite world := by
  obtain ⟨all, between, middle, targets, catalogs, found, bundles, -⟩ := runOn_write_eq_ok.1 ran
  have disk : session.bundleDisk world = middle.disk := by rw [bundleDisk, catalogs]
  obtain ⟨included, ignored, compiled, left⟩ := MemoryDisk.compiled_of_targets found
  -- The directories that are new lie on the way to bundles, and none of them is a target.
  have grows := MemoryDisk.grows_of_follows (follows_of_writeBundleFiles MemoryDisk.view bundles)
  have orderly' : middle.disk.Orderly := grows.orderly orderly
  have dirs : later.disk.matchingDirs included ignored =
      middle.disk.matchingDirs included ignored := by
    refine grows.matchingDirs_eq ?_
    -- A bundle lies under a target, and the directories on its way are there or match nothing.
    rintro path ⟨file, member, rfl⟩ dir way
    obtain ⟨entry, -, target, name, path, -, told⟩ := exists_of_mem_bundlesFor member
    rw [path] at way
    rw [← disk]
    refine makesNone included ignored targets compiled left found _ target name
      (fun locale named => ?_) dir way
    by_contra other
    exact told locale named (get?_of_writeCatalogs lined catalogs other)
  rw [targetsOfWrite, disk, orderly.targets_eq compiled left, orderly'.targets_eq compiled left, dirs]

/-- A session that is written again at once does nothing, as long as it finds the targets that it found
before. In memory it finds these unless a directory that is made for the bundles is a target, too. -/
theorem writes_nothing_again {δ : Type} [Disk δ] {view : DiskView δ} {config : Config}
    (counted : ∀ locale, config.pluralFormsFor locale ≤ maxCount) :
    (∀ (session after last : Session) (world later latest : World δ) (outcome : Outcome Bool),
      WritesTwice view config session after last world later latest outcome →
      session.targets later.disk = session.targetsOfWrite world →
      WritesNothing after later outcome last latest) ∧
    ∀ (session after last : Session) (world later latest : World MemoryDisk)
      (outcome : Outcome Bool),
      WritesTwice MemoryDisk.view config session after last world later latest outcome →
      later.disk.Orderly → session.MakesNoTarget world →
      WritesNothing after later outcome last latest := by
  constructor
  · intro session after last world later latest outcome twice stable
    exact twice.writesNothing counted stable
  · intro session after last world later latest outcome twice orderly makesNone
    obtain ⟨wrote, written⟩ := twice.written
    -- In memory the targets are found again where the writing made none.
    refine twice.writesNothing counted (makesNone.targets_eq ?_ written orderly)
    exact ⟨twice.honest, twice.catalogsApart, fun _ => id⟩

/-- A session on a script in a directory of a directory, with an English catalog. -/
private def nestedSession (targets : List String) : Session := onFile "app/x/a.js" ["en"] targets

/-- The script in its directory. -/
private def nestedWorld : World MemoryDisk :=
  .ofFiles [(⟨"app/x/a.js"⟩, "__('A')")] [⟨"app"⟩, ⟨"app/x"⟩]

/-- The session after it has read the script. -/
private def scannedSession (targets : List String) : Session :=
  (nestedSession targets).withMessage "app/x/a.js" "A"

/-- The text of the catalog. -/
private def catalogText : String := newCatalog "app/x/a.js" "A"

/-- The files when the catalog is written. -/
private def catalogDisk : MemoryDisk where
  files := .ofList [(⟨"app/x/a.js"⟩, "__('A')"), (⟨"locales/en.po"⟩, catalogText)]
  dirs := .ofElements [⟨"app"⟩, ⟨"app/x"⟩, ⟨"locales"⟩]
  writes := [(⟨"locales/en.po"⟩, catalogText)]

/-- The text of a bundle without translations. -/
private def bareText : String := "\x7b\x7d\n"

/-- The text of the bundles of all locales. -/
private def bareIndexText : String := "\x7b\n  \"en\": \x7b\x7d\n\x7d\n"

/-- The files when the bundles are written, too. -/
private def bundledDisk : MemoryDisk where
  files := .ofList [(⟨"app/x/a.js"⟩, "__('A')"), (⟨"app/x/.locales/en.json"⟩, bareText),
    (⟨"app/x/.locales/index.json"⟩, bareIndexText), (⟨"locales/en.po"⟩, catalogText)]
  dirs := .ofElements [⟨"app"⟩, ⟨"app/x"⟩, ⟨"app/x/.locales"⟩, ⟨"locales"⟩]
  writes := [(⟨"app/x/.locales/index.json"⟩, bareIndexText),
    (⟨"app/x/.locales/en.json"⟩, bareText), (⟨"locales/en.po"⟩, catalogText)]

/-- The entries of the catalog. -/
private def catalogEntries : SortedMap String (List Entry) :=
  .ofList [("en", merge [] (scannedSession []).index.live 2)]

/-- A writing up to its catalogs. -/
private def catalogRun (session : Session) (world : World MemoryDisk) :
    Outcome (SortedMap String (List Entry)) × Session × World MemoryDisk :=
  runOn (writeCatalogs session.config.locales ∅) session.counted world

/-- A writing of the bundles for some targets behind that of the catalogs. -/
private def bundleRun (session : Session) (world : World MemoryDisk) (targets : List Path) :
    Outcome Unit × Session × World MemoryDisk :=
  runOn (writeBundleFiles ((catalogRun session world).2.1.bundlesFor catalogEntries targets))
    (catalogRun session world).2.1 (catalogRun session world).2.2

/-- The session after it has written its catalog and the bundles for the directory of the script. -/
private def bundledSession (targets : List String) : Session :=
  (bundleRun (scannedSession targets) nestedWorld [⟨"app/x"⟩]).2.1

/-- The world then. -/
private def bundledWorld (targets : List String) : World MemoryDisk :=
  (bundleRun (scannedSession targets) nestedWorld [⟨"app/x"⟩]).2.2

/-- The catalog and the bundles for the directory of the script are written. -/
private theorem ran_nested : ∀ targets ∈ [["app/*"], ["app/**"]],
    (catalogRun (scannedSession targets) nestedWorld).1 = .ok catalogEntries ∧
      (scannedSession targets).bundleDisk nestedWorld = catalogDisk ∧
      (bundleRun (scannedSession targets) nestedWorld [⟨"app/x"⟩]).1 = .ok () ∧
      (bundledWorld targets).disk = bundledDisk ∧
      (∀ entry ∈ (bundledSession targets).bundleCaches.toList, ∀ path ∈ entry.2.keys,
        ∀ locale ∈ (bundledSession targets).config.locales,
          compare ((bundledSession targets).catalogPath locale) path ≠ .eq) ∧
      0 < (bundledSession targets).summary.catalogWrites +
        (bundledSession targets).summary.bundleWrites ∧
      (bundledSession targets).config = (scannedSession targets).config ∧
      (bundledSession targets).catalogPath "en" = ⟨"locales/en.po"⟩ ∧
      (bundledSession targets).index = (scannedSession targets).index := by
  decide +kernel

/-- The only target that is found first is the directory of the script. -/
private theorem found_nested : ∀ targets ∈ [["app/*"], ["app/**"]],
    (scannedSession targets).targetsOfWrite nestedWorld = .ok [⟨"app/x"⟩] := by
  intro targets listed
  obtain ⟨-, disk, -⟩ := ran_nested targets listed
  rw [targetsOfWrite, disk]
  obtain rfl | rfl : targets = ["app/*"] ∨ targets = ["app/**"] := by simpa using listed
  all_goals cbv

/-- After these writings another one may follow. -/
private theorem writesTwice_nested {targets : List String} (listed : targets ∈ [["app/*"], ["app/**"]])
    {last : Session} {latest : World MemoryDisk} {outcome : Outcome Bool}
    (again : runOn write (bundledSession targets) (bundledWorld targets) = (outcome, last, latest)) :
    WritesTwice MemoryDisk.view (nestedSession targets).config (scannedSession targets)
      (bundledSession targets) last nestedWorld (bundledWorld targets) latest outcome := by
  obtain ⟨catalogs, -, bundles, -, apart, counted, -⟩ := ran_nested targets listed
  obtain ⟨made, opened⟩ : (new (nestedSession targets).config :
        StateM (World MemoryDisk) (Outcome Session)).run nestedWorld =
          (.ok (nestedSession targets), nestedWorld) ∧
      runOn (read none) (nestedSession targets) nestedWorld =
        (.ok true, scannedSession targets, nestedWorld) := by
    -- Nothing is written before the first writing, so the run up to it can be evaluated.
    obtain rfl | rfl : targets = ["app/*"] ∨ targets = ["app/**"] := by simpa using listed
    all_goals exact ⟨by cbv, by cbv⟩
  have names : (nestedSession targets).config.format.Names (scannedSession targets).sources := by
    rintro source (- | ⟨-, ⟨⟩⟩)
    exact ⟨by decide, by decide⟩
  refine ⟨⟨_, _, _, made, .read .start opened names⟩,
    World.honest_ofFiles _ _, ⟨true, ?_⟩, again, ?_,
    (outputsApart_of_caches apart).bundlesApart, fun found same => ?_⟩
  · -- The first writing is that of the catalogs and that of the bundles, which are known.
    have catalogs := ran_eq catalogs
    have bundles : bundleRun (scannedSession targets) nestedWorld [⟨"app/x"⟩] =
        (.ok (), bundledSession targets, bundledWorld targets) := by
      unfold bundledSession bundledWorld
      exact ran_eq bundles
    exact runOn_write_eq_ok.2 ⟨catalogEntries, _, _, _, catalogs, found_nested targets listed,
      bundles, (decide_eq_true counted).symm⟩
  · exact catalogsApart_of_single _ rfl
  · -- One locale alone gives no two bundles of one path.
    cases (found_nested targets listed).symm.trans same
    have locales : (scannedSession targets).config.locales = ["en"] := rfl
    refine bundlesDiffer_of_nodup ?_
    rw [locales]
    decide +kernel

private theorem legible_scanned (targets : List String) :
    (scannedSession targets).index.live.Sound Reference.Legible where
  keys := by
    -- The index has one key, with one usage.
    intro key message found
    have member : (key, message) ∈ [((⟨":A"⟩ : Key), (⟨none, "A", none⟩ : Message))] :=
      SortedMap.get?_eq_some_iff.1 found
    cases List.mem_singleton.1 member
    decide
  usages := by
    intro key usages found reference member
    have inside : (key, usages) ∈
        [((⟨":A"⟩ : Key), (SortedSet.ofElements [⟨"app/x/a.js", 1⟩] : SortedSet Reference))] :=
      SortedMap.get?_eq_some_iff.1 found
    cases List.mem_singleton.1 inside
    obtain rfl := List.mem_singleton.1 (SortedSet.mem_of_mem_ofElements member)
    exact ⟨by decide, ⟨'a', by decide, by decide⟩, by decide⟩

/-- A pattern for the directories of one directory matches none of those that the bundles stand in. -/
private theorem makesNoTarget_nested : (scannedSession ["app/*"]).MakesNoTarget nestedWorld := by
  obtain ⟨-, catalogDisk, -⟩ := ran_nested ["app/*"] (.head _)
  have compiled : compilePatterns ["app/*"] =
      .ok [⟨"app/*", [.char 'a', .char 'p', .char 'p', .char '/', .anySequence]⟩] := by cbv
  intro included ignored targets compiled' left found' target listed name known dir way
  cases compiled.symm.trans compiled'
  cases (found_nested ["app/*"] (.head _)).symm.trans found'
  obtain rfl := List.mem_singleton.1 listed
  -- Bundles with and without a language stand in the same directory.
  have way : dir ∈ [(⟨"app"⟩ : Path), ⟨"app/x"⟩, ⟨"app/x/.locales"⟩] := by
    cases name with
    | none => exact way
    | some locale =>
      obtain rfl := List.mem_singleton.1 (known locale rfl)
      exact way
  rw [catalogDisk]
  -- The first two directories are there before, and only the last one is made.
  rcases way with - | ⟨-, - | ⟨-, - | ⟨-, ⟨⟩⟩⟩⟩
  · exact .inl (by decide)
  · exact .inl (by decide)
  · cases left
    exact .inr (by cbv)

/-- The catalog of this session is read as it was written. -/
private theorem rereads_nested : (bundledSession ["app/*"]).Rereads := by
  obtain ⟨-, -, -, -, -, -, config, -, index⟩ := ran_nested ["app/*"] (.head _)
  rw [Rereads, config, index]
  refine ⟨?_, fun _ => legible_scanned _⟩
  rintro ⟨⟩

/-- The catalog of this session can be read. -/
private theorem readable_nested (locale : String)
    (listed : locale ∈ (bundledSession ["app/*"]).config.locales) :
    Readable (bundledWorld ["app/*"]).disk ((bundledSession ["app/*"]).catalogPath locale) := by
  obtain ⟨-, -, -, disk, -, -, config, path, -⟩ := ran_nested ["app/*"] (.head _)
  rw [config] at listed
  obtain rfl := List.mem_singleton.1 listed
  have there : Disk.read bundledDisk ⟨"locales/en.po"⟩ = .ok catalogText := by decide +kernel
  rw [disk, path, Readable, there]
  rintro failure ⟨⟩

/-- Another writing does nothing, if the patterns lead to the directories in one directory only. -/
theorem writes_nothing_again_nested :
    (scannedSession ["app/*"]).MakesNoTarget nestedWorld ∧
      (scannedSession ["app/*"]).targets (bundledWorld ["app/*"]).disk =
        (scannedSession ["app/*"]).targetsOfWrite nestedWorld ∧
      ∃ last, runOn write (bundledSession ["app/*"]) (bundledWorld ["app/*"]) =
          (.ok false, last, bundledWorld ["app/*"]) ∧
        WritesNothing (bundledSession ["app/*"]) (bundledWorld ["app/*"]) (.ok false) last
          (bundledWorld ["app/*"]) := by
  have counted (locale : String) : (nestedSession ["app/*"]).config.pluralFormsFor locale ≤ maxCount := by
    show Config.defaultPluralForms ≤ maxCount
    decide
  obtain ⟨same, inMemory⟩ :=
    @writes_nothing_again MemoryDisk _ MemoryDisk.view (nestedSession ["app/*"]).config counted
  obtain ⟨-, -, -, disk, -⟩ := ran_nested ["app/*"] (.head _)
  -- The targets are the same ones again, because the writings make none.
  have stable : (scannedSession ["app/*"]).targets (bundledWorld ["app/*"]).disk =
      (scannedSession ["app/*"]).targetsOfWrite nestedWorld := by
    rw [found_nested ["app/*"] (.head _), disk]
    cbv
  have orderly : (bundledWorld ["app/*"]).disk.Orderly := by
    rw [disk]
    exact MemoryDisk.orderly_of_keys rfl (by decide)
  -- How the second writing ends is evaluated, and the theorem says that it does nothing.
  have again := runOn_eq (rfl : (runOn write (bundledSession ["app/*"]) (bundledWorld ["app/*"])).1 = _)
  have twice := writesTwice_nested (.head _) again
  have nothing := inMemory _ _ _ _ _ _ _ twice orderly makesNoTarget_nested
  have done := (same _ _ _ _ _ _ _ twice stable).succeeds rereads_nested readable_nested
  rw [done, nothing.same] at again nothing
  exact ⟨makesNoTarget_nested, stable, _, again, nothing⟩

/-- The directory for the bundles is found as a target, and gets bundles, too. -/
private theorem ran_again :
    let targets : List Path := [⟨"app/x"⟩, ⟨"app/x/.locales"⟩]
    let first := bundledSession ["app/**"]
    let second := bundleRun first (bundledWorld ["app/**"]) targets
    (catalogRun first (bundledWorld ["app/**"])).1 = .ok catalogEntries ∧
      first.bundleDisk (bundledWorld ["app/**"]) = bundledDisk ∧
      second.1 = .ok () ∧ second.2.1.summary.bundleWrites = 2 ∧
      second.2.2.disk.hindrances = [] ∧
      (∀ path ∈ second.2.2.disk.files.keys, second.2.2.disk.hasDir path = false) ∧
      (∀ entry ∈ second.2.1.bundleCaches.toList, ∀ path ∈ entry.2.keys,
        ∀ locale ∈ second.2.1.config.locales, compare (second.2.1.catalogPath locale) path ≠ .eq) := by
  decide +kernel

/-- Another writing may write bundles where the patterns lead to directories at any depth: the directory
for bundles that the first one makes is a target, too. -/
theorem not_writes_nothing_again :
    ¬ ∀ (config : Config) (session after last : Session) (world later latest : World MemoryDisk)
      (outcome : Outcome Bool), (∀ locale, config.pluralFormsFor locale ≤ maxCount) →
      WritesTwice MemoryDisk.view config session after last world later latest outcome →
      latest.disk.Orderly → BundlesApart MemoryDisk.view last →
      (∀ targets, after.targetsOfWrite later = .ok targets → BundlesDiffer after targets) →
      last.summary.bundleWrites = 0 := by
  intro claimed
  have counted (locale : String) : (nestedSession ["app/**"]).config.pluralFormsFor locale ≤ maxCount := by
    show Config.defaultPluralForms ≤ maxCount
    decide
  obtain ⟨-, -, -, -, -, -, config, -⟩ := ran_nested ["app/**"] (.tail _ (.head _))
  obtain ⟨catalogs, disk, bundles, wrote, unhindered, orderly, apart⟩ := ran_again
  -- The directory for bundles is found with the other one.
  have found : (bundledSession ["app/**"]).targetsOfWrite (bundledWorld ["app/**"]) =
      .ok [⟨"app/x"⟩, ⟨"app/x/.locales"⟩] := by
    rw [targetsOfWrite, disk, Session.targets, config]
    cbv
  have catalogs := ran_eq catalogs
  have bundles := ran_eq bundles
  have again := runOn_write_eq_ok.2 ⟨catalogEntries, _, _, _, catalogs, found, bundles, rfl⟩
  have unwritten := claimed _ _ _ _ _ _ _ _ counted (writesTwice_nested (.tail _ (.head _)) again)
    (MemoryDisk.orderly_of_keys unhindered orderly) (outputsApart_of_caches apart).bundlesApart ?_
  · -- There are two writes, and not none.
    rw [wrote] at unwritten
    cases unwritten
  · -- What differs are the bundles of the two directories, and there is one locale.
    intro targets found'
    cases found.symm.trans found'
    refine bundlesDiffer_of_nodup ?_
    rw [config]
    decide +kernel

end Session

end MessageCatalog
