import MessageCatalog.Proofs.Disk.Directories
import MessageCatalog.Proofs.Session.BundleRuns

/-! Which files the bundles of a session lie in, and what their texts depend on. -/

namespace MessageCatalog

open Json (Value)

namespace Session

/-- The file for a target of the bundle of a locale, or of all bundles in one. -/
def bundlePath (target : Path) : Option String → Path
  | some locale => target / bundleDir / (locale ++ ".json")
  | none => target / bundleDir / "index.json"

/-- The bundles of all locales for some keys, as documents. -/
def bundleDocuments (merged : SortedMap String (List Entry)) (keys : SortedSet Key) :
    SortedMap String (Value String) :=
  merged.map fun _ entries => bundleDocument (bundle entries keys)

/-- The text of the bundle of a locale, or of all bundles in one. -/
def bundleText (style : Json.Style) (documents : SortedMap String (Value String)) :
    Option String → String
  | some locale => ((documents.get? locale).map fun document =>
      String.ofList (Json.write style document)).getD ""
  | none => String.ofList (Json.write style (.object documents.toList))

/-- Bundles of different locales or for different targets lie in different files. -/
def BundlesDiffer (session : Session) (targets : List Path) : Prop :=
  ∀ target ∈ targets, ∀ other ∈ targets, ∀ name name' : Option String,
    (∀ locale ∈ name, locale ∈ session.config.locales) →
    (∀ locale ∈ name', locale ∈ session.config.locales) →
    compare (bundlePath target name) (bundlePath other name') = .eq → target = other ∧ name = name'

section

variable {style : Json.Style} {merged again : SortedMap String (List Entry)} {index : Index}
  {target : Path} {files : List Path} {file : Path × String}

/-- Without their empty comments entries have the bundle that they have with them. -/
theorem bundle_withoutEmptyComments (entries : List Entry) (keys : SortedSet Key) :
    bundle (entries.map Entry.withoutEmptyComments) keys = bundle entries keys := by
  rw [bundle, bundle, List.filter_map, List.map_map]
  rfl

/-- Entries that differ in empty comments only have the same bundles. -/
theorem bundleDocuments_congr
    (same : ∀ locale, (again.get? locale).map (List.map Entry.withoutEmptyComments) =
      (merged.get? locale).map (List.map Entry.withoutEmptyComments)) (keys : SortedSet Key) :
    bundleDocuments again keys = bundleDocuments merged keys := by
  -- The document of a locale depends on its entries without their empty comments.
  have cleared (all : SortedMap String (List Entry)) (locale : String) :
      (bundleDocuments all keys).get? locale =
        ((all.get? locale).map (List.map Entry.withoutEmptyComments)).map fun entries =>
          bundleDocument (bundle entries keys) := by
    rw [bundleDocuments, SortedMap.get?_map, Option.map_map]
    refine congrArg (Option.map · _) (funext fun entries => ?_)
    rw [Function.comp_apply, bundle_withoutEmptyComments]
  apply SortedMap.ext_get?
  intro locale
  rw [cleared, cleared, same]

/-- The files for a target are those of the bundles, and the one of all of them. -/
theorem bundleFiles_eq :
    bundleFiles style merged index target files =
      ((bundleDocuments merged (usedKeys index files)).toList.map fun (locale, document) =>
        (bundlePath target (some locale), String.ofList (Json.write style document))) ++
      [(bundlePath target none,
        bundleText style (bundleDocuments merged (usedKeys index files)) none)] := by
  rw [bundleFiles, bundleText, bundleDocuments, SortedMap.map, List.map_map, List.map_map]
  rfl

/-- Each file for a target has the path and the text of the bundle of a locale, or of all bundles. -/
theorem exists_of_mem_bundleFiles (member : file ∈ bundleFiles style merged index target files) :
    ∃ name : Option String, file.1 = bundlePath target name ∧
      file.2 = bundleText style (bundleDocuments merged (usedKeys index files)) name ∧
      ∀ locale ∈ name, merged.get? locale ≠ none := by
  rw [bundleFiles_eq, List.mem_append, List.mem_map, List.mem_singleton] at member
  -- A file is that of one locale, or the one for all of them.
  rcases member with ⟨⟨locale, document⟩, inside, rfl⟩ | rfl
  · have found := SortedMap.get?_eq_some_iff.2 inside
    refine ⟨some locale, rfl, ?_, ?_⟩
    · rw [bundleText, found]
      rfl
    · rintro _ ⟨⟩ absent
      rw [bundleDocuments, SortedMap.get?_map, absent] at found
      cases found
  · exact ⟨none, rfl, rfl, nofun⟩

end

section

variable {session after : Session} {merged again : SortedMap String (List Entry)}
  {targets : List Path} {file : Path × String}

/-- Each file of a session is the one of a bundle for one of the targets. -/
theorem exists_of_mem_bundlesFor (member : file ∈ session.bundlesFor merged targets) :
    ∃ entry ∈ (filesByTarget targets session.sources.keys).toList, entry.1 ∈ targets ∧
      ∃ name : Option String, file.1 = bundlePath entry.1 name ∧
        file.2 = bundleText session.style
          (bundleDocuments merged (usedKeys session.index entry.2)) name ∧
        ∀ locale ∈ name, merged.get? locale ≠ none := by
  obtain ⟨entry, inside, member⟩ := List.mem_flatMap.1 member
  refine ⟨entry, inside, ?_, exists_of_mem_bundleFiles member⟩
  -- The list of a target is made from the targets, so its key is one of them.
  have key := SortedMap.mem_keys_ofList (List.mem_map_of_mem inside)
  obtain ⟨_, ⟨target, listed, rfl⟩, same⟩ := List.mem_map.1 key |>.imp fun _ => And.imp_left
    List.mem_map.1
  rw [← same]
  exact listed

/-- Bundles differ when the components of their paths do. -/
theorem bundlesDiffer_of_nodup {session : Session} {targets : List Path}
    (distinct : ((targets.flatMap fun target => (none :: session.config.locales.map some).map
      (target, ·)).map fun pair => (bundlePath pair.1 pair.2).components).Nodup) :
    BundlesDiffer session targets := by
  intro target listed other listed' name name' known known' equal
  -- Each target with each name is one of the listed pairs.
  have inside {target : Path} {name : Option String} (listed : target ∈ targets)
      (known : ∀ locale ∈ name, locale ∈ session.config.locales) :
      (target, name) ∈ targets.flatMap fun target => (none :: session.config.locales.map some).map
        (target, ·) := by
    refine List.mem_flatMap.2 ⟨target, listed, List.mem_map.2 ⟨name, ?_, rfl⟩⟩
    cases name with
    | none => exact .head _
    | some locale => exact .tail _ (List.mem_map.2 ⟨locale, known locale rfl, rfl⟩)
  have same : (bundlePath target name).components = (bundlePath other name').components :=
    Std.LawfulEqOrd.eq_of_compare equal
  have pair := List.inj_on_of_nodup_map distinct (inside listed known) (inside listed' known') same
  exact Prod.mk.inj pair

/-- Where the files of bundles differ, none of them gets two texts. -/
theorem consistent_bundlesFor (differ : BundlesDiffer session targets)
    (listed : ∀ locale, merged.get? locale ≠ none → locale ∈ session.config.locales) :
    Consistent (session.bundlesFor merged targets) := by
  intro file member other member' equal
  obtain ⟨entry, inside, target, name, path, text, known⟩ := exists_of_mem_bundlesFor member
  obtain ⟨entry', inside', target', name', path', text', known'⟩ := exists_of_mem_bundlesFor member'
  rw [path, path'] at equal
  -- They are the same bundle for the same target, which has the same files.
  obtain ⟨same, rfl⟩ := differ _ target _ target' name name'
    (fun locale named => listed locale (known locale named))
    (fun locale named => listed locale (known' locale named)) equal
  obtain rfl : entry = entry' :=
    SortedMap.eq_of_mem inside inside' (by rw [same]; exact Std.ReflCmp.compare_self)
  rw [text, text']

/-- The files of a session for some targets do not depend on empty comments. -/
theorem bundlesFor_congr (kept : KeepsReading session after)
    (same : ∀ locale, (again.get? locale).map (List.map Entry.withoutEmptyComments) =
      (merged.get? locale).map (List.map Entry.withoutEmptyComments)) :
    after.bundlesFor again targets = session.bundlesFor merged targets := by
  have reading : after.bundlesFor again targets = session.bundlesFor again targets := by
    rw [kept]
    rfl
  rw [reading, bundlesFor, bundlesFor]
  simp only [bundleFiles_eq, bundleDocuments_congr same]

end

end Session

namespace MemoryDisk

variable {disk : MemoryDisk} {session : Session}

/-- In memory targets are found by patterns that compile. -/
theorem compiled_of_targets {targets : List Path} (found : session.targets disk = .ok targets) :
    ∃ included ignored, compilePatterns session.config.targets = .ok included ∧
      compilePatterns session.config.ignore = .ok ignored := by
  obtain ⟨matching, globbed, -⟩ := Session.exists_of_targets found
  exact compiled_of_glob globbed

/-- On an orderly disk in memory the targets are the matching directories. -/
theorem Orderly.targets_eq (orderly : disk.Orderly) {included ignored : List Pattern}
    (compiled : compilePatterns session.config.targets = .ok included)
    (left : compilePatterns session.config.ignore = .ok ignored) :
    session.targets disk = .ok (disk.matchingDirs included ignored) := by
  rw [Session.targets, glob_eq compiled left]
  exact congrArg Except.ok orderly.matchingDirs_eq

end MemoryDisk

end MessageCatalog
