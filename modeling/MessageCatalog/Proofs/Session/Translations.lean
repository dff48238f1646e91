import Mathlib
import MessageCatalog.Proofs.Session.Bundle
import MessageCatalog.Proofs.Session.Index

/-! Over any run of a session, whatever fails on the way, a catalog tells the same translations. -/

namespace MessageCatalog

/-- Sources that references can name: each path shows on one line, and the lines can be counted. -/
def Nameable (sources : SortedMap Path String) : Prop :=
  ∀ source ∈ sources.toList, '\n' ∉ source.1.text.toList ∧
    (∃ c ∈ source.1.text.toList, isBlank c = false) ∧ source.2.length < maxCount

/-- The name of a file holds no line feed in references when its path does not. -/
theorem Index.not_mem_displayName {path : Path} (plain : '\n' ∉ path.text.toList) :
    '\n' ∉ (displayName path).toList := by
  rw [displayName, String.toList_map, List.mem_map]
  -- No backslash becomes a line feed.
  rintro ⟨c, member, same⟩
  split at same
  · cases same
  · exact plain (same ▸ member)

/-- References to such sources can be read back. -/
theorem Reference.RefersTo.legible {sources : SortedMap Path String} (nameable : Nameable sources)
    {reference : Reference} (refers : reference.RefersTo sources) : reference.Legible := by
  obtain ⟨source, member, named, within⟩ := refers
  -- The file is named as its source is, and the source can be named.
  obtain ⟨plain, ⟨c, inside, visible⟩, small⟩ := nameable source member
  constructor
  · rw [named]
    exact Index.not_mem_displayName plain
  · -- A backslash becomes a slash, which is not blank either.
    rw [named, Index.displayName, String.toList_map]
    refine ⟨_, List.mem_map_of_mem inside, ?_⟩
    split
    · decide
    · exact visible
  · omega

/-- Settings that pass name functions by identifiers. -/
theorem Config.isFunctionName_of_validate {config : Config} (valid : config.validate = .ok ()) :
    ∀ name ∈ config.functions, isFunctionName name = true := by
  have faultless : config.settingFault? = none := by
    cases faulty : config.settingFault? with
    | none => rfl
    | some fault =>
      rw [validate, faulty] at valid
      cases valid
  -- The checks before that of the names have passed, too.
  unfold settingFault? at faultless
  split at faultless
  · cases faultless
  · split at faultless
    · cases faultless
    · split at faultless
      · cases faultless
      · -- No name was found that is not an identifier.
        split at faultless
        · cases faultless
        · rename_i found
          intro name member
          simpa using List.find?_eq_none.1 found name member

namespace Session

/-- A session begins with functions that have identifiers as names. -/
theorem named_new {σ : Type} [FileSystem (StateM σ)] [Console (StateM σ)] {config : Config}
    {session : Session} {world later : σ}
    (made : (new config : StateM σ (Outcome Session)).run world = (.ok session, later)) :
    Source.Named session.functions := by
  obtain ⟨valid, included, ignored, dir, scratch, -, -, rfl⟩ := new_eq_ok made
  apply Source.named_ofBases
  intro base listed
  have identifier := Config.isFunctionName_of_validate valid base listed
  rw [Config.isFunctionName, Bool.and_eq_true, List.all_eq_true] at identifier
  exact identifier.2

section

variable {δ : Type} [Disk δ] {view : DiskView δ} {locale : String} {told : SortedMap Key Translation}
  {session after : Session} {world later : World δ}

/-- Writing, also when it fails on the way, leaves what a catalog tells, unless some bundle that is
known then is written to the same file. -/
theorem holds_write (guards : Guards view locale session)
    (sound : session.index.live.Sound Reference.Legible)
    (holds : Holds view locale told session world.disk) {outcome : Outcome Bool}
    (ran : runOn write session world = (outcome, after, later))
    (apart : ∀ path, after.KnowsBundle path → view.Apart path (session.catalogPath locale)) :
    Holds view locale told after later.disk := by
  have same : SameSettings session session.counted := ⟨rfl, rfl, rfl⟩
  have catalogs := holds_writeCatalogs (guards.of_same same) sound (fun _ => id) ∅
    (holds.of_same same)
  have settings : session.counted.config.locales = session.config.locales := rfl
  rw [settings] at catalogs
  -- Catalogs are written before bundles, and each part may fail.
  rcases write_cases ran with ⟨_, -, wrote⟩ | ⟨merged, between, middle, _, -, wrote, bundled⟩
  all_goals
    rw [wrote] at catalogs
    have kept := ((keepsBundles_writeCatalogs session.config.locales ∅).of_ran wrote).keepsReading
  · exact catalogs.of_same kept.sameSettings
  · have spares : Spares view locale told between after middle.disk later.disk :=
      (AddsBundles.of_writeBundles view bundled).spares
    refine spares.holds (fun path known => ?_) (catalogs.of_same kept.sameSettings)
    rw [(same.trans kept.sameSettings).catalogPath_eq locale]
    exact apart path known

/-- Bringing a session up to date, also when that fails on the way, leaves what a catalog tells. -/
theorem holds_update (named : Source.Named session.functions)
    (guards : Guards view locale session) (holds : Holds view locale told session world.disk)
    {changed : Option (List Path)} {outcome : Outcome Bool}
    (ran : runOn (update changed) session world = (outcome, after, later))
    (nameable : Nameable after.sources)
    (apart : ∀ path, after.KnowsBundle path → view.Apart path (session.catalogPath locale)) :
    SameSettings session after ∧ Holds view locale told after later.disk := by
  -- A reading leaves the files as they are, and writing follows where it reports a change.
  have start {result : Outcome Bool} {between : Session} {middle : World δ}
      (opened : runOn (read changed) session world = (result, between, middle)) :
      SameSettings session between ∧ Holds view locale told between middle.disk := by
    have same : SameSettings session between :=
      SameSettings.trans ⟨rfl, rfl, rfl⟩ (keepsRest_of_read opened).sameSettings
    refine ⟨same, ?_⟩
    rw [(keepsDisk_read changed).of_ran opened]
    exact holds.of_same same
  -- The update ends with its reading, or goes on to write what that has read.
  rcases update_cases ran with ⟨_, -, opened⟩ | ⟨_, -, rfl, opened⟩ |
    ⟨between, middle, _, -, opened, written⟩
  · exact start opened
  · rw [disk_logged]
    exact start opened
  · obtain ⟨same, read⟩ := start opened
    have wrote : KeepsReading between after := keepsReading_write.of_ran written
    -- The index is the one of the texts that the session has now, and so it refers to them.
    have texts : after.sources = between.sources := by rw [wrote]
    have sound : between.index.live.Sound Reference.Legible := by
      rw [isFresh_of_read_true opened]
      rw [texts] at nameable
      refine (Index.sound_ofSources ?_ between.sources).imp fun _ refers =>
        refers.legible nameable
      rw [same.2.1]
      exact named
    refine ⟨same.trans wrote.sameSettings,
      holds_write (guards.of_same same) sound read written fun path known => ?_⟩
    rw [same.catalogPath_eq]
    exact apart path known

/-- What happens to a session and its world: the files change, but not the catalog, or the session is
brought up to date, with any outcome. -/
inductive Step (view : DiskView δ) (catalog : Path) : Session × World δ → Session × World δ → Prop
  | change {session : Session} {world later : World δ} (honest : view.Honest later.disk)
    (kept : view.text? later.disk catalog = view.text? world.disk catalog) :
    Step view catalog (session, world) (session, later)
  | update {session after : Session} {world later : World δ} {changed : Option (List Path)}
    {outcome : Outcome Bool}
    (ran : runOn (update changed) session world = (outcome, after, later))
    (nameable : Nameable after.sources)
    (apart : ∀ path, after.KnowsBundle path → view.Apart path catalog) :
    Step view catalog (session, world) (after, later)

/-- What stays over a run: the settings, and what the catalog tells. -/
structure Safe (view : DiskView δ) (locale : String) (told : SortedMap Key Translation)
    (start : Session) (state : Session × World δ) : Prop where
  same : SameSettings start state.1
  holds : Holds view locale told state.1 state.2.disk

/-- Each step keeps what the catalog tells. -/
theorem Safe.step {start : Session} (named : Source.Named start.functions)
    (guards : Guards view locale start) {before next : Session × World δ}
    (safe : Safe view locale told start before)
    (step : Step view (start.catalogPath locale) before next) :
    Safe view locale told start next := by
  -- Other programs spare the catalog, and an update holds its translations.
  cases step with
  | @change session world later honest kept =>
    refine ⟨safe.same, honest, ?_⟩
    have stays := safe.same.catalogPath_eq locale
    rw [stays, kept, ← stays]
    exact safe.holds.tells
  | @update session after world later changed outcome ran nameable apart =>
    -- Names of functions are those of the settings, which no step changes.
    have named : Source.Named session.functions := by
      rw [safe.same.2.1]
      exact named
    have apart (path : Path) (known : after.KnowsBundle path) :
        view.Apart path (session.catalogPath locale) := by
      rw [safe.same.catalogPath_eq]
      exact apart path known
    obtain ⟨same, holds⟩ :=
      holds_update named (guards.of_same safe.same) safe.holds ran nameable apart
    exact ⟨safe.same.trans same, holds⟩

/-- Each run keeps what the catalog tells. -/
theorem Safe.run {start : Session} (named : Source.Named start.functions)
    (guards : Guards view locale start) {before after : Session × World δ}
    (safe : Safe view locale told start before)
    (run : Relation.ReflTransGen (Step view (start.catalogPath locale)) before after) :
    Safe view locale told start after := by
  -- By induction on the run, from its start.
  induction run with
  | refl => exact safe
  | tail _ step ih => exact ih.step named guards step

end

end Session

end MessageCatalog
