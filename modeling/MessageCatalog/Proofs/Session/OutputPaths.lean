import Mathlib
import MessageCatalog.Proofs.Path.Components
import MessageCatalog.Proofs.Session.BundleFiles
import MessageCatalog.Proofs.Session.Finished

/-! The files that one writing produces differ from each other, unless a locale is named as all bundles
in one are, or catalogs lie where bundles do. -/

namespace MessageCatalog

/-- A name of a file adds one component to those of its directory. -/
theorem Path.components_inside (dir : Path) {name : String} (plain : '/' ∉ name.toList)
    (long : 2 < name.toList.length) : (dir / name).components = dir.components ++ [.name name] := by
  -- A name that is longer than two dots spells itself.
  have spelled : innerComponent? name.toList = some (.name name) := by
    rw [innerComponent?, if_neg, if_neg, String.ofList_toList]
    · intro parent
      rw [parent] at long
      exact absurd long (by decide)
    · rintro (empty | dot)
      · rw [empty] at long
        exact absurd long (by decide)
      · rw [dot] at long
        exact absurd long (by decide)
  have inner : (Component.name name).Inner := ⟨plain, spelled⟩
  have joined := components_join_text dir inner
  exact joined

namespace Session

/-- How the file of the bundle of a locale is named, or that of all bundles in one. -/
def bundleName : Option String → String
  | some locale => locale ++ ".json"
  | none => "index.json"

/-- What the names of bundle files are told apart by. -/
theorem bundleName_eq_iff {locale : String} {name : Option String} :
    bundleName (some locale) = bundleName name ↔ locale = name.getD "index" := by
  have same : bundleName name = name.getD "index" ++ ".json" := by
    cases name <;> rfl
  rw [same, bundleName]
  exact String.append_left_inj _

/-- A catalog is named as a bundle just when it is a document, for the same locale or for one that is
named as all bundles in one are. -/
theorem catalogName_eq_iff {format : Format} {locale : String} {name : Option String} :
    locale ++ "." ++ format.name = bundleName name ↔
      format = .json ∧ bundleName (some locale) = bundleName name := by
  -- Whatever stands in front, the text decides on the last letter.
  have ends (front : String) (c : Char) (text : String) (last : text.toList.getLast? = some c) :
      (front ++ text).toList.getLast? = some c := by
    rw [String.toList_append, List.getLast?_append, last]
    rfl
  -- The name of a bundle ends in the last letter of the format for documents, as no other format does.
  have document : (bundleName name).toList.getLast? = some 'n' := by
    cases name with
    | none => rfl
    | some locale => exact ends locale 'n' ".json" rfl
  cases format with
  | json =>
    rw [String.append_assoc]
    exact (and_iff_right rfl).symm
  | po | json5 =>
    refine iff_of_false (fun same => ?_) nofun
    rw [← same, ends _ _ _ rfl] at document
    cases document

/-- The files that a writing produces for some targets once it has merged the catalogs: a catalog for
each locale, and the bundles of each target. -/
def outputs (session : Session) (merged : SortedMap String (List Entry)) (targets : List Path) :
    List Path :=
  session.config.locales.map session.catalogPath ++ (session.bundlesFor merged targets).map (·.1)

/-- The bundles of a target: one for each locale, and all of them in one. -/
def bundlesOf (locales : List String) : List (Option String) := locales.map some ++ [none]

/-- The names of bundles hold no slash when those of locales hold none. -/
theorem plain_of_mem_bundlesOf {locales : List String} (plain : ∀ locale ∈ locales, '/' ∉ locale.toList)
    {name : Option String} (member : name ∈ bundlesOf locales) :
    ∀ locale ∈ name, '/' ∉ locale.toList := by
  rintro locale ⟨⟩
  exact plain locale (by simpa [bundlesOf] using member)

section

variable {σ : Type} [FileSystem (StateM σ)] [Console (StateM σ)]

/-- Writing catalogs merges those of the listed locales. -/
theorem contains_of_writeCatalogs {locales : List String} {start merged : SortedMap String (List Entry)}
    {session after : Session} {world later : σ}
    (wrote : runOn (writeCatalogs locales start) session world = (.ok merged, after, later))
    (locale : String) :
    merged.contains locale = true ↔ locale ∈ locales ∨ start.contains locale = true := by
  -- By induction on the locales, each of which is added to those that were merged before it.
  induction locales generalizing start session world with
  | nil =>
    cases wrote
    simp
  | cons first locales ih =>
    obtain ⟨entries, between, middle, -, rest⟩ := runOn_bind_eq_ok wrote
    rw [ih rest, SortedMap.contains_insert, Bool.or_eq_true, beq_iff_eq, Std.compare_eq_iff_eq,
      List.mem_cons]
    tauto

/-- Writing the catalogs of locales that differ merges one for each of them. -/
theorem keys_of_writeCatalogs {locales : List String} (distinct : locales.Nodup)
    {merged : SortedMap String (List Entry)} {session after : Session} {world later : σ}
    (wrote : runOn (writeCatalogs locales ∅) session world = (.ok merged, after, later)) :
    merged.keys.Perm locales := by
  rw [List.perm_ext_iff_of_nodup merged.nodup_keys distinct]
  intro locale
  have held := contains_of_writeCatalogs wrote locale
  have bare : (∅ : SortedMap String (List Entry)).contains locale = false := rfl
  rw [SortedMap.contains_iff, bare] at held
  simpa using held

end

section

variable {session : Session} {locale : String} {name : Option String}

/-- The catalog of a locale whose name holds no slash lies in the directory of the catalogs. -/
theorem components_catalogPath (plain : '/' ∉ locale.toList) :
    (session.catalogPath locale).components = session.templateDir.components ++
      [.name (locale ++ "." ++ session.config.format.name)] := by
  apply Path.components_inside
  · cases session.config.format <;> simpa [Format.name] using plain
  · cases session.config.format <;> simp [Format.name]

/-- A bundle lies in the directory for bundles of its target. -/
theorem components_bundlePath (target : Path) (plain : ∀ locale ∈ name, '/' ∉ locale.toList) :
    (bundlePath target name).components =
      (target / bundleDir).components ++ [.name (bundleName name)] := by
  cases name with
  | none => exact Path.components_inside _ (by decide) (by decide)
  | some locale =>
    apply Path.components_inside
    · simpa using plain locale rfl
    · simp

variable {merged : SortedMap String (List Entry)} {targets : List Path}

/-- The paths of the files for a target. -/
theorem map_bundleFiles (style : Json.Style) (index : Index) (target : Path) (files : List Path) :
    (bundleFiles style merged index target files).map (·.1) =
      (bundlesOf merged.keys).map (bundlePath target) := by
  rw [bundleFiles_eq, bundlesOf, bundleDocuments, SortedMap.map, SortedMap.keys]
  simp only [List.map_append, List.map_map]
  rfl

/-- A writing for targets in order produces the catalogs and the bundles of each target. -/
theorem outputs_eq (ascending : targets.Pairwise fun a b => compare a b = .lt) :
    session.outputs merged targets = session.config.locales.map session.catalogPath ++
      targets.flatMap fun target => (bundlesOf merged.keys).map (bundlePath target) := by
  rw [outputs, bundlesFor, filesByTarget, SortedMap.toList_ofList, List.flatMap_map,
    List.map_flatMap]
  · simp only [map_bundleFiles]
  · rwa [List.pairwise_map]

/-- Catalogs of different locales lie in different files. -/
theorem catalogPaths_differ {locales : List String} (distinct : locales.Nodup)
    (plain : ∀ locale ∈ locales, '/' ∉ locale.toList) :
    (locales.map session.catalogPath).Pairwise fun a b => compare a b ≠ .eq := by
  rw [List.pairwise_map]
  refine distinct.imp_of_mem fun {first second} member member' differ same => differ ?_
  rw [Path.compare_eq_iff, components_catalogPath (plain _ member),
    components_catalogPath (plain _ member'), List.append_cancel_left_eq] at same
  simpa [String.append_assoc] using same

/-- Bundles for different targets lie in different files. -/
theorem bundlePath_ne_of_target {target other : Path} {name name' : Option String}
    (plain : ∀ locale ∈ name, '/' ∉ locale.toList) (plain' : ∀ locale ∈ name', '/' ∉ locale.toList)
    (differ : compare target other ≠ .eq) :
    compare (bundlePath target name) (bundlePath other name') ≠ .eq := by
  intro same
  rw [Path.compare_eq_iff, components_bundlePath _ plain, components_bundlePath _ plain'] at same
  have dirs := (List.append_inj' same rfl).1
  rw [bundleDir, Path.components_inside _ (by decide) (by decide),
    Path.components_inside _ (by decide) (by decide)] at dirs
  exact differ (Path.compare_eq_iff.2 (List.append_inj' dirs rfl).1)

/-- Bundles for one target lie in different files when they have different names. -/
theorem compare_bundlePath_iff {target : Path} {name name' : Option String}
    (plain : ∀ locale ∈ name, '/' ∉ locale.toList)
    (plain' : ∀ locale ∈ name', '/' ∉ locale.toList) :
    compare (bundlePath target name) (bundlePath target name') = .eq ↔
      bundleName name = bundleName name' := by
  rw [Path.compare_eq_iff, components_bundlePath _ plain, components_bundlePath _ plain',
    List.append_cancel_left_eq]
  simp

/-- A catalog lies where a bundle does when both are documents of one name, and the directory of the
catalogs is that of the bundles. -/
theorem compare_catalogPath_iff {target : Path} (plain : '/' ∉ locale.toList)
    (plain' : ∀ locale ∈ name, '/' ∉ locale.toList) :
    compare (session.catalogPath locale) (bundlePath target name) = .eq ↔
      session.templateDir.same (target / bundleDir) = true ∧ session.config.format = .json ∧
        bundleName (some locale) = bundleName name := by
  rw [Path.compare_eq_iff, components_catalogPath plain, components_bundlePath _ plain',
    ← catalogName_eq_iff, Path.same, beq_iff_eq]
  constructor
  · -- The last component is the name of the file, and those before it are the directory.
    intro same
    obtain ⟨dirs, names⟩ := List.append_inj' same rfl
    exact ⟨dirs, by simpa using names⟩
  · rintro ⟨dirs, names⟩
    rw [dirs, names]

/-- The bundles of a target lie in different files unless a locale is named as all bundles in one
are. -/
theorem bundlePaths_differ_iff (target : Path) {locales : List String} (distinct : locales.Nodup)
    (plain : ∀ locale ∈ locales, '/' ∉ locale.toList) :
    (((bundlesOf locales).map (bundlePath target)).Pairwise fun a b => compare a b ≠ .eq) ↔
      "index" ∉ locales := by
  -- Files of one directory differ when their names do.
  have named : (((bundlesOf locales).map (bundlePath target)).Pairwise fun a b => compare a b ≠ .eq) ↔
      (bundlesOf locales).Pairwise fun a b => bundleName a ≠ bundleName b := by
    rw [List.pairwise_map]
    exact List.Pairwise.iff_of_mem fun member member' =>
      not_congr (compare_bundlePath_iff (plain_of_mem_bundlesOf plain member)
        (plain_of_mem_bundlesOf plain member'))
  rw [named, bundlesOf, List.pairwise_append, List.pairwise_map]
  simp only [Ne, bundleName_eq_iff, Option.getD_some, List.mem_map, List.mem_singleton]
  -- Names differ unless one of them is that of the index, which every target has.
  constructor
  · rintro ⟨-, -, differ⟩ member
    exact differ _ ⟨_, member, rfl⟩ none rfl rfl
  · intro absent
    refine ⟨distinct, List.pairwise_singleton _ _, ?_⟩
    rintro _ ⟨locale, member, rfl⟩ _ rfl same
    obtain rfl : locale = "index" := bundleName_eq_iff.1 same
    exact absent member

/-- A catalog lies where a bundle does just when catalogs are documents that lie in the directory for the
bundles of a target. -/
theorem catalogs_apart_iff {locales : List String} (listed : locale ∈ locales)
    (plain : ∀ locale ∈ locales, '/' ∉ locale.toList) :
    (∀ locale ∈ locales, ∀ target ∈ targets, ∀ name ∈ bundlesOf locales,
      compare (session.catalogPath locale) (bundlePath target name) ≠ .eq) ↔
        (session.config.format = .json →
          ∀ target ∈ targets, session.templateDir.same (target / bundleDir) = false) := by
  constructor
  · intro apart json target inside
    rw [Bool.eq_false_iff]
    intro same
    -- The catalog of any locale is then where its bundle is.
    have bundled : some locale ∈ bundlesOf locales := by simpa [bundlesOf] using listed
    exact apart locale listed target inside _ bundled
      ((compare_catalogPath_iff (plain locale listed)
        (plain_of_mem_bundlesOf plain bundled)).2 ⟨same, json, rfl⟩)
  · intro apart locale member target inside name bundled equal
    obtain ⟨same, json, -⟩ := (compare_catalogPath_iff (plain locale member)
      (plain_of_mem_bundlesOf plain bundled)).1 equal
    rw [apart json target inside] at same
    cases same

end

/-- Settings that pass list a locale. -/
theorem exists_locale_of_validate {config : Config} (passed : config.validate = .ok ()) :
    ∃ locale, locale ∈ config.locales := by
  refine List.exists_mem_of_ne_nil _ fun none => ?_
  -- Without locales a setting is at fault, whichever is found first.
  have fault : ∃ fault, config.settingFault? = some fault := by
    rw [Config.settingFault?, none]
    split <;> exact ⟨_, rfl⟩
  obtain ⟨fault, found⟩ := fault
  rw [Config.validate, found] at passed
  cases passed

/-- Where settings pass and no locale is listed twice or has a slash in its name, the files of a writing
differ from each other in all cases but two: for some target a locale is named as all bundles in one
are, or catalogs are documents that lie in the directory for the bundles of a target. -/
theorem outputs_differ_iff {σ : Type} [FileSystem (StateM σ)] [Console (StateM σ)]
    {session between : Session} {world middle : σ} {merged : SortedMap String (List Entry)}
    {targets : List Path} (passed : session.config.validate = .ok ())
    (distinct : session.config.locales.Nodup)
    (plain : ∀ locale ∈ session.config.locales, '/' ∉ locale.toList)
    (wrote : runOn (writeCatalogs session.config.locales ∅) session.counted world =
      (.ok merged, between, middle))
    (ascending : targets.Pairwise fun a b => compare a b = .lt) :
    ((between.outputs merged targets).Pairwise fun a b => compare a b ≠ .eq) ↔
      (targets = [] ∨ "index" ∉ session.config.locales) ∧
        (session.config.format = .json →
          ∀ target ∈ targets, session.templateDir.same (target / bundleDir) = false) := by
  -- After the catalogs are written, the outputs are theirs and, for each target, those of its bundles.
  have same := (keepsReading_of_writeCatalogs wrote).sameSettings
  have keys := keys_of_writeCatalogs distinct wrote
  obtain ⟨locale, listed⟩ := exists_locale_of_validate passed
  have paths : between.catalogPath = session.catalogPath :=
    funext same.catalogPath_eq
  have plainKeys : ∀ locale ∈ merged.keys, '/' ∉ locale.toList :=
    fun locale member => plain locale (keys.mem_iff.1 member)
  have bundles (name : Option String) : name ∈ bundlesOf merged.keys ↔
      name ∈ bundlesOf session.config.locales := by
    simp [bundlesOf, keys.mem_iff]
  have catalogs : (session.config.locales.map session.catalogPath).Pairwise
      fun a b => compare a b ≠ .eq := catalogPaths_differ distinct plain
  -- Two targets never share a path, since no bundle's name has a slash in it.
  have across : targets.Pairwise fun target other =>
      ∀ path ∈ (bundlesOf merged.keys).map (bundlePath target),
        ∀ path' ∈ (bundlesOf merged.keys).map (bundlePath other), compare path path' ≠ .eq := by
    refine ascending.imp fun below path member path' member' => ?_
    obtain ⟨name, inside, rfl⟩ := List.mem_map.1 member
    obtain ⟨name', inside', rfl⟩ := List.mem_map.1 member'
    refine bundlePath_ne_of_target (plain_of_mem_bundlesOf plainKeys inside)
      (plain_of_mem_bundlesOf plainKeys inside') fun equal => ?_
    rw [equal] at below
    cases below
  -- What is left is that bundles of one target differ, and that no catalog is a bundle.
  rw [outputs_eq ascending, same.1, paths, List.pairwise_append, and_iff_right catalogs,
    List.pairwise_flatMap, and_iff_left across, ← catalogs_apart_iff listed plain]
  refine and_congr ?_ ?_
  · simp only [bundlePaths_differ_iff _ merged.nodup_keys plainKeys, keys.mem_iff]
    -- A target is needed for a bundle that is in the way.
    constructor
    · intro absent
      cases targets with
      | nil => exact .inl rfl
      | cons target targets => exact .inr (absent target (.head _))
    · rintro (rfl | absent)
      · exact nofun
      · exact fun _ _ => absent
  · -- Both sides go through the catalogs and the bundles one by one.
    constructor
    · intro apart locale listed target inside name bundled
      exact apart _ (List.mem_map_of_mem listed) _ (List.mem_flatMap.2
        ⟨target, inside, List.mem_map_of_mem ((bundles name).2 bundled)⟩)
    · intro apart path member other member'
      obtain ⟨locale, listed, rfl⟩ := List.mem_map.1 member
      obtain ⟨target, inside, member'⟩ := List.mem_flatMap.1 member'
      obtain ⟨name, bundled, rfl⟩ := List.mem_map.1 member'
      exact apart locale listed target inside name ((bundles name).1 bundled)

/-- A session with documents as catalogs, in two languages. -/
private def bilingual : Session :=
  begun { input := ["a.js"], targets := ["app", "lib"], locales := ["en", "fr"], format := .json } [] []
    ⟨"locales"⟩ none

/-- Two catalogs and the bundles for two targets are eight files. -/
theorem outputs_differ_iff_bilingual : ∃ merged between middle,
    runOn (writeCatalogs ["en", "fr"] ∅) bilingual.counted World.bare =
        (.ok merged, between, middle) ∧
      (between.outputs merged [⟨"app"⟩, ⟨"lib"⟩]).Pairwise fun a b => compare a b ≠ .eq := by
  have succeeded : (runOn (writeCatalogs ["en", "fr"] ∅) bilingual.counted
      World.bare).1.isOk = true := by decide +kernel
  rcases wrote : runOn (writeCatalogs ["en", "fr"] ∅) bilingual.counted
    World.bare with ⟨failure | merged, between, middle⟩
  · rw [wrote] at succeeded
    cases succeeded
  · -- The directories for bundles lie elsewhere than the catalogs, and no locale is named index.
    have passed : bilingual.config.validate = .ok () := by cbv
    have distinct : bilingual.config.locales.Nodup := by decide
    have plain : ∀ locale ∈ bilingual.config.locales, '/' ∉ locale.toList := by decide
    have ascending : ([⟨"app"⟩, ⟨"lib"⟩] : List Path).Pairwise fun a b => compare a b = .lt := by decide
    have apart : ∀ target ∈ ([⟨"app"⟩, ⟨"lib"⟩] : List Path),
        bilingual.templateDir.same (target / bundleDir) = false := by decide
    have unnamed : "index" ∉ bilingual.config.locales := by decide
    exact ⟨merged, between, middle, rfl,
      (outputs_differ_iff passed distinct plain wrote ascending).2 ⟨.inr unnamed, fun _ => apart⟩⟩

/-- A session with a locale that is named as all bundles in one are. -/
private def indexed : Session := onFile "a.js" ["index"] ["app"]

/-- A target without anything in it. -/
private def targetWorld : World MemoryDisk := .ofFiles [] [⟨"app"⟩]

/-- The writing up to its catalog. -/
private def indexedRun : Outcome (SortedMap String (List Entry)) × Session × World MemoryDisk :=
  runOn (writeCatalogs indexed.config.locales ∅) indexed.counted targetWorld

/-- The writing of the bundles behind it. -/
private def indexedBundleRun : Outcome Unit × Session × World MemoryDisk :=
  runOn (writeBundleFiles (indexedRun.2.1.bundlesFor (.ofList [("index", [])]) [⟨"app"⟩]))
    indexedRun.2.1 indexedRun.2.2

private theorem ran_indexed :
    indexedRun.1 = .ok (.ofList [("index", [])]) ∧
      indexed.bundleDisk targetWorld = {
        files := .ofList [(⟨"locales/index.po"⟩, blankCatalog)]
        dirs := .ofElements [⟨"app"⟩, ⟨"locales"⟩]
        writes := [(⟨"locales/index.po"⟩, blankCatalog)] } ∧
      indexedBundleRun.1 = .ok () ∧
      indexedBundleRun.2.2.disk.writes.map (·.1) = [⟨"app/.locales/index.json"⟩,
        ⟨"app/.locales/index.json"⟩, ⟨"locales/index.po"⟩] := by
  decide +kernel

/-- A writing can give one file two texts: the bundle of a locale, and all bundles in one. -/
theorem not_outputs_differ :
    ¬ ∀ (config : Config) (session after : Session) (dawn world later : World MemoryDisk)
      (wrote : Bool), config.locales.Nodup →
      (new config : StateM (World MemoryDisk) (Outcome Session)).run dawn = (.ok session, world) →
      world.disk.writes = [] → runOn write session world = (.ok wrote, after, later) →
      (later.disk.writes.map (·.1)).Pairwise fun a b => compare a b ≠ .eq := by
  intro claimed
  obtain ⟨catalogs, disk, bundles, writes⟩ := ran_indexed
  have made : (new indexed.config : StateM (World MemoryDisk) (Outcome Session)).run targetWorld =
      (.ok indexed, targetWorld) := run_new_onFile _ (by cbv) (by cbv)
  have found : indexed.targetsOfWrite targetWorld = .ok [⟨"app"⟩] := by
    rw [targetsOfWrite, disk]
    cbv
  -- The locale is named as the file of all bundles, and so that file is written twice.
  have wrote := runOn_write_eq_ok.2 ⟨_, _, _, _, ran_eq catalogs, found, ran_eq bundles, rfl⟩
  have differ : (indexedBundleRun.2.2.disk.writes.map (·.1)).Pairwise fun a b => compare a b ≠ .eq :=
    claimed _ _ _ _ _ _ _ (by decide) made rfl wrote
  rw [writes] at differ
  revert differ
  decide

end Session

end MessageCatalog
