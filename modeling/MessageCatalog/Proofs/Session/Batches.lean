import MessageCatalog.Proofs.Path
import MessageCatalog.Proofs.Session.Incremental
import MessageCatalog.Proofs.Session.Screen
import MessageCatalog.Session.Watch

/-! What a watcher tells brings a session as far as an update would that considers every file. -/

namespace MessageCatalog

namespace Session

section

variable {δ : Type}

/-- A report only prints. -/
theorem looks_report (session : Session) : Looks (report session : StateM (World δ) Unit) := by
  refine Looks.bind (fun _ => disk_logged _ _ _) fun _ => ?_
  have each (failures : List (Path × Source.ScanError)) :
      Looks (forIn failures ⟨⟩ fun failure _ => do
        log .warn (failure.1.text ++ ": " ++ failure.2.message)
        return .yield ⟨⟩ : StateM (World δ) PUnit) := by
    -- By induction on the failures, each of which is a line of the log.
    induction failures with
    | nil => exact fun _ => rfl
    | cons failure failures ih =>
      rw [List.forIn_cons]
      exact fun world => (ih _).trans (disk_logged _ _ world)
  exact each _

variable [Disk δ]

/-- A world after it was told which paths have changed. -/
def toldChanges (paths : List Path) (world : World δ) : World δ :=
  loggedAll world (paths.map fun path => (.debug, "Changed: " ++ path.text))

/-- Told paths that concern a session lead to an update of just those. -/
theorem runOn_handle (root : Path) (events : List Path) (session : Session) (world : World δ) :
    effect (runOn (handle root (.changed events)) session world) =
      if session.resolveAll root events = [] then (.ok (), session, world.disk)
      else
        match effect (runOn (update (some (session.resolveAll root events))) session
          (toldChanges (session.resolveAll root events) world)) with
        | (outcome, after, disk) => (outcome.map fun _ => (), after, disk) := by
  rw [handle, runOn_bind, runOn_get]
  dsimp only
  by_cases nothing : session.resolveAll root events = []
  · -- Nothing that was told concerns the session, and so nothing is done.
    rw [if_pos nothing, nothing]
    rfl
  · -- Each path is told in the log before the update.
    have told : runOn (forIn (session.resolveAll root events) ⟨⟩ fun path _ => do
          logStep .debug ("Changed: " ++ path.text)
          return .yield ⟨⟩ : SessionM (StateM (World δ)) PUnit) session world =
        (.ok ⟨⟩, session, toldChanges (session.resolveAll root events) world) := by
      rw [runOn_forIn fun world path => logged .debug ("Changed: " ++ path.text) world]
      · rw [toldChanges, loggedAll, List.foldl_map]
      · exact fun _ _ _ => rfl
    -- The list for the update is not empty, which would stand for every source.
    have full : (session.resolveAll root events).isEmpty = false := by
      rwa [Bool.eq_false_iff, ne_eq, List.isEmpty_iff]
    rw [if_neg nothing, full]
    simp only [Bool.false_eq_true, if_false]
    rw [runOn_bind, told]
    dsimp only
    rw [runOn_bind]
    rcases runOn (update (some (session.resolveAll root events))) session
      (toldChanges (session.resolveAll root events) world) with ⟨failure | changes, after, later⟩
    · rfl
    · -- A failed update ends the handling as it failed, and one without changes makes no report.
      cases changes with
      | false => rfl
      | true =>
        rw [effect, effect]
        -- A report only looks at the session, and so the files stay.
        exact congrArg (fun disk => ((.ok () : Outcome Unit), after, disk))
          (looks_report after later)

end

section

variable {session : Session} {root path event : Path} {events : List Path}

/-- A path that comes of a told one is that one or what it is as seen from the root, and it concerns the
session. -/
theorem cases_of_mem_resolveAll (member : path ∈ session.resolveAll root events) :
    session.isConcernedBy path = true ∧
      ∃ event ∈ events, path = root.relativeTo event ∨ path = event := by
  have inside := List.mem_reverse.1 (SortedSet.mem_of_mem_ofElements member)
  obtain ⟨event, told, resolved⟩ := List.mem_filterMap.1 inside
  refine ⟨List.find?_some resolved, event, told, ?_⟩
  simpa using List.mem_of_find?_eq_some resolved

/-- A told path that concerns the session, as seen from the root, is covered by what is made of all. -/
theorem covers_resolveAll (told : event ∈ events)
    (concerned : session.isConcernedBy (root.relativeTo event) = true)
    (same : compare path (root.relativeTo event) = .eq) :
    covers (session.resolveAll root events) path = true := by
  -- The change is one of the session, and its path is among those that changes lead to.
  have resolved : session.resolve? root event = some (root.relativeTo event) := by
    rw [resolve?, List.find?_cons, concerned]
  have inside : (SortedSet.ofElements
      (events.filterMap (session.resolve? root)).reverse).contains path = true := by
    rw [SortedSet.contains_ofElements, List.any_eq_true]
    refine ⟨_, List.mem_reverse.2 (List.mem_filterMap.2 ⟨event, told, resolved⟩), ?_⟩
    rw [same]
    rfl
  rw [SortedMap.contains_eq_any] at inside
  exact inside

variable {disk : MemoryDisk} {known : Knowledge}

/-- What stands behind the root in told paths is spelled as the files are. -/
def SpelledBehind (root : Path) (events : List Path) (disk : MemoryDisk) : Prop :=
  ∀ event ∈ events, ∀ file, disk.files.entry? (root.relativeTo event) = some file →
    file.1 = root.relativeTo event

/-- Where no path that concerns the session is told, what is wanted is tracked, if every path that has
changed since it was read is told. -/
theorem Current.tracked_of_told (current : session.Current known) (again : session.hasRead = true)
    (spelled : SpelledBehind root events disk)
    (told : ∀ path, disk.files.entry? path ≠ known path →
      ∃ event ∈ events, compare path (root.relativeTo event) = .eq)
    (uncovered : covers (session.resolveAll root events) path = false) :
    brought (session.sources.entry? path) (session.wanted (disk.files.entry? path)) =
      session.sources.entry? path := by
  by_cases same : disk.files.entry? path = known path
  · rw [same]
    exact current.settled again path
  · obtain ⟨event, member, equal⟩ := told path same
    -- A path that was told and is not covered concerns no one: it is neither wanted nor tracked.
    have unconcerned : session.isConcernedBy (root.relativeTo event) = false := by
      rw [Bool.eq_false_iff]
      intro concerned
      rw [covers_resolveAll member concerned equal] at uncovered
      cases uncovered
    rw [isConcernedBy, Bool.or_eq_false_iff] at unconcerned
    have untracked : session.sources.entry? path = none := by
      rw [SortedMap.entry?_congr equal, ← Option.not_isSome_iff_eq_none, ← SortedMap.contains,
        Bool.not_eq_true]
      exact unconcerned.2
    -- A file that is there has the spelling behind the root, by which it is no source.
    have unwanted : session.wanted (disk.files.entry? path) = none := by
      rw [SortedMap.entry?_congr equal]
      cases found : disk.files.entry? (root.relativeTo event) with
      | none => rfl
      | some file =>
        rw [wanted, Option.filter_some, spelled event member file found, unconcerned.1]
        rfl
    rw [untracked, unwanted]
    rfl

/-- An update after a reading that reports a change, or none, goes by the files. -/
theorem effect_update_congr {changed changed' : Option (List Path)} {after : Session}
    {world world' later later' : World MemoryDisk} {changes : Bool}
    (ran : runOn (read changed) session world = (.ok changes, after, later))
    (ran' : runOn (read changed') session world' = (.ok changes, after, later'))
    (same : later'.disk = later.disk) :
    effect (runOn (update changed') session world') = effect (runOn (update changed) session world) := by
  rw [runOn_update, runOn_update, ran, ran']
  -- Without changes the update only logs; otherwise it writes, which looks at the disk alone.
  cases changes with
  | false =>
    dsimp only
    rw [effect, effect, disk_logged, disk_logged, same]
  | true =>
    dsimp only
    rcases wrote : runOn write after later with ⟨failure | any, last, latest⟩
    all_goals
      obtain ⟨latest', wrote', disk⟩ := blind_write.of_ran same wrote
      rw [wrote', effect, effect, disk]

/-- What is told leads where an update leads that considers every file, if every path that has changed since
it was read is told, and none is there under a told path as such. -/
theorem Current.handle_as_update {world : World MemoryDisk} (current : session.Current known)
    (again : session.hasRead = true) (orderly : world.disk.Orderly)
    (spelled : SpelledBehind root events world.disk)
    (absent : ∀ event ∈ events, world.disk.files.entry? event = none)
    (told : ∀ path, world.disk.files.entry? path ≠ known path →
      ∃ event ∈ events, compare path (root.relativeTo event) = .eq) :
    effect (runOn (handle root (.changed events)) session world) =
      match effect (runOn (update none) session world) with
      | (outcome, after, disk) => (outcome.map fun _ => (), after, disk) := by
  rw [runOn_handle]
  by_cases nothing : session.resolveAll root events = []
  · -- Nothing that is told concerns the session, so there is nothing to bring up to date.
    obtain ⟨later, quiet⟩ := current.read_none_eq_self orderly again fun path =>
      current.tracked_of_told again spelled told (by rw [nothing]; rfl)
    rw [if_pos nothing, runOn_update, quiet]
    dsimp only [effect]
    rw [disk_logged, (keepsDisk_read none).of_ran quiet]
    rfl
  · rw [if_neg nothing]
    generalize logs : toldChanges (session.resolveAll root events) world = logged
    -- What was told in the log leaves the files.
    have same : world.disk = logged.disk := by
      rw [← logs, toldChanges, disk_loggedAll]
    rw [same] at spelled absent told orderly
    -- The resolved paths are spelled as the files are; under the told paths as such nothing is there.
    have fits : ∀ path ∈ session.resolveAll root events, ∀ file,
        logged.disk.files.entry? path = some file → file.1 = path := by
      intro path member file found
      obtain ⟨-, event, inside, rfl | rfl⟩ := cases_of_mem_resolveAll member
      · exact spelled event inside file found
      · rw [absent path inside] at found
        cases found
    -- The update of just these paths reads what the full one reads, and so both write alike.
    obtain ⟨changes, after, later, later', some, all⟩ := current.read_paths_eq orderly same again
      nothing fits fun path uncovered => current.tracked_of_told again spelled told uncovered
    have disks : later'.disk = later.disk := by
      rw [(keepsDisk_read _).of_ran some, (keepsDisk_read _).of_ran all, same]
    rw [effect_update_congr some all disks]

/-- What concerns no one changes nothing, whatever else the session has missed. -/
theorem Current.handle_unconcerned {world : World MemoryDisk} (current : session.Current known)
    (again : session.hasRead = true) (orderly : world.disk.Orderly)
    (absent : ∀ event ∈ events, world.disk.files.entry? event = none)
    (unknown : ∀ event ∈ events, known event = none)
    (unconcerned : ∀ event ∈ events, session.isConcernedBy (root.relativeTo event) = false) :
    effect (runOn (handle root (.changed events)) session world) = (.ok (), session, world.disk) := by
  rw [runOn_handle]
  by_cases nothing : session.resolveAll root events = []
  · -- Where nothing is resolved, nothing is done.
    rw [if_pos nothing]
  · rw [if_neg nothing]
    generalize logs : toldChanges (session.resolveAll root events) world = logged
    have same : logged.disk = world.disk := by
      rw [← logs, toldChanges, disk_loggedAll]
    -- All that is left to look at are told paths as such, where nothing is nor was.
    have foreign (path : Path) (member : path ∈ session.resolveAll root events) : path ∈ events := by
      obtain ⟨concerned, event, told, rfl | rfl⟩ := cases_of_mem_resolveAll member
      · rw [unconcerned event told] at concerned
        cases concerned
      · exact told
    -- So a reading of these paths finds nothing, where it held nothing before.
    have nowhere (path : Path) (member : path ∈ session.resolveAll root events) :
        logged.disk.files.entry? path = none := by
      rw [same]
      exact absent path (foreign path member)
    obtain ⟨last, read⟩ := current.read_some_eq_self (same ▸ orderly) again nothing nowhere
      fun path member => unknown path (foreign path member)
    rw [runOn_update, read]
    dsimp only [effect]
    rw [disk_logged, (keepsDisk_read _).of_ran read, same]
    rfl

end

/-- Nothing is known under an absolute path. -/
def Knowledge.Relative (known : Knowledge) : Prop :=
  ∀ path, path.isAbsolute = true → known path = none

/-- A path is told, in some spelling, as one inside the root. -/
def Tells (root : Path) (events : List Path) (path : Path) : Prop :=
  ∃ event ∈ events, ∃ spelling, compare path spelling = .eq ∧
    compare event (root.join spelling) = .eq

/-- A session whose readings all succeeded, on an orderly disk of relative paths, with told paths that lie
under an absolute root. -/
structure Watched (config : Config) (session : Session) (known : Knowledge)
    (world : World MemoryDisk) (root : Path) (events : List Path) : Prop where
  history : ReadHistory config session known
  again : session.hasRead = true
  orderly : world.disk.Orderly
  relative : Knowledge.Relative world.disk.files.entry?
  relativeKnown : known.Relative
  absolute : root.isAbsolute = true
  under : ∀ event ∈ events, event.isUnder root = true

/-- What is told leaves the session and the files that an update leaves which considers every file, and
fails as that does. -/
def HandlesAsUpdate (root : Path) (events : List Path) (session : Session)
    (world : World MemoryDisk) : Prop :=
  effect (runOn (handle root (.changed events)) session world) =
    match effect (runOn (update none) session world) with
    | (outcome, after, disk) => (outcome.map fun _ => (), after, disk)

section

variable {config : Config} {session : Session} {known : Knowledge} {world : World MemoryDisk}
  {root : Path} {events : List Path}

/-- Told paths are absolute. -/
theorem Watched.isAbsolute (watched : Watched config session known world root events) {event : Path}
    (told : event ∈ events) : event.isAbsolute = true := by
  obtain ⟨behind, components⟩ := List.isPrefixOf_iff_prefix.1 (watched.under event told)
  have starts := (Path.isAbsolute_iff root).1 watched.absolute
  rw [Path.isAbsolute_iff, ← components, List.head?_append, starts]
  rfl

/-- A changed path that is told is, as seen from the root, one of the told paths. -/
theorem Watched.seen (watched : Watched config session known world root events) {path : Path}
    (changed : world.disk.files.entry? path ≠ known path)
    (plain : path.components.head? ≠ some .current) (tells : Tells root events path) :
    ∃ event ∈ events, compare path (root.relativeTo event) = .eq := by
  obtain ⟨event, told, spelling, alike, same⟩ := tells
  have components : path.components = spelling.components := Path.compare_eq_iff.1 alike
  -- On both sides only relative paths are known, and this one has changed.
  have relative : spelling.isAbsolute = false := by
    rw [Bool.eq_false_iff, ne_eq, Path.isAbsolute_iff, ← components, ← Path.isAbsolute_iff]
    intro absolute
    exact changed ((watched.relative path absolute).trans (watched.relativeKnown path absolute).symm)
  refine ⟨event, told, Path.compare_eq_iff.2 ?_⟩
  rw [Path.components_relativeTo (watched.under event told), Path.compare_eq_iff.1 same,
    Path.components_join root relative (components ▸ plain), List.drop_left, components]

/-- Told paths that leave no change out, spelled behind the root as the files are, lead where an update
leads that considers every file, in whatever order and how often they are told. Told paths none of which
is a source or tracked change nothing. -/
theorem handle_told_changes (watched : Watched config session known world root events) :
    (SpelledBehind root events world.disk →
      (∀ path, world.disk.files.entry? path ≠ known path →
        path.components.head? ≠ some .current ∧ Tells root events path) →
      HandlesAsUpdate root events session world) ∧
    ((∀ event ∈ events, session.isConcernedBy (root.relativeTo event) = false) →
      effect (runOn (handle root (.changed events)) session world) =
        (.ok (), session, world.disk)) := by
  have current := watched.history.current
  -- A told path as such is absolute, and the files are relative.
  have absent : ∀ event ∈ events, world.disk.files.entry? event = none := fun event told =>
    watched.relative event (watched.isAbsolute told)
  refine ⟨fun spelled told => ?_, fun unconcerned => ?_⟩
  · -- Each path that has changed is among the paths that are seen behind the root.
    refine current.handle_as_update watched.again watched.orderly spelled absent fun path changed => ?_
    obtain ⟨plain, tells⟩ := told path changed
    exact watched.seen changed plain tells
  · exact current.handle_unconcerned watched.again watched.orderly absent
      (fun event told => watched.relativeKnown event (watched.isAbsolute told)) unconcerned

end

section

variable {session : Session} {known : Knowledge} {world : World MemoryDisk} {root event path : Path}
  {events : List Path}

/-- An update leaves the texts that its reading leaves. -/
theorem sources_update (changed : Option (List Path)) (session : Session) (world : World MemoryDisk) :
    (runOn (update changed) session world).2.1.sources =
      (runOn (read changed) session world).2.1.sources := by
  rcases ran : runOn (update changed) session world with ⟨outcome, after, later⟩
  rcases update_cases ran with ⟨_, -, opened⟩ | ⟨_, -, -, opened⟩ | ⟨_, _, _, -, opened, written⟩
  · rw [opened]
  · rw [opened]
  · rw [opened, keepsReading_write.of_ran written]

/-- What is told leads where an update leads only if what is wanted elsewhere is tracked. -/
theorem Current.tracked_of_handles (current : session.Current known) (again : session.hasRead = true)
    (orderly : world.disk.Orderly)
    (spelled : ∀ path ∈ session.resolveAll root events, ∀ file,
      world.disk.files.entry? path = some file → file.1 = path)
    (handles : HandlesAsUpdate root events session world)
    (uncovered : covers (session.resolveAll root events) path = false) :
    brought (session.sources.entry? path) (session.wanted (world.disk.files.entry? path)) =
      session.sources.entry? path := by
  obtain ⟨_, _, _, all, -, brings⟩ := current.readAll orderly (.inr (.inl rfl))
  -- An update of everything leads to what is wanted at the path, and the told paths to the same.
  have whole : (runOn (update none) session world).2.1.sources.entry? path =
      brought (session.sources.entry? path) (session.wanted (world.disk.files.entry? path)) := by
    rw [sources_update, all, brings.entries, if_pos rfl]
  have same : (effect (runOn (handle root (.changed events)) session world)).2.1.sources.entry? path =
      (runOn (update none) session world).2.1.sources.entry? path := by
    rw [handles]
    rfl
  rw [← whole, ← same, runOn_handle]
  by_cases nothing : session.resolveAll root events = []
  · rw [if_pos nothing]
  · rw [if_neg nothing]
    -- An update of paths that do not cover this one leaves what was tracked there.
    generalize logs : toldChanges (session.resolveAll root events) world = logged
    have disk : logged.disk = world.disk := by
      rw [← logs, toldChanges, disk_loggedAll]
    rw [← disk] at spelled orderly
    obtain ⟨_, _, _, some, -, brings⟩ := current.readSome orderly again nothing spelled
    show SortedMap.entry? (runOn (update _) session logged).2.1.sources path = _
    rw [sources_update, some, brings.entries, uncovered, if_neg Bool.false_ne_true]

/-- What is told does not lead where an update leads if a source elsewhere was missed. -/
theorem Current.not_handlesAsUpdate (current : session.Current known)
    (again : session.hasRead = true) (orderly : world.disk.Orderly)
    (spelled : ∀ path ∈ session.resolveAll root events, ∀ file,
      world.disk.files.entry? path = some file → file.1 = path)
    (uncovered : covers (session.resolveAll root events) path = false) {file : Path × String}
    (found : world.disk.files.entry? path = some file) (source : session.isSource file.1 = true)
    (untracked : session.sources.entry? path = none) :
    ¬ HandlesAsUpdate root events session world := by
  intro handles
  have tracked := current.tracked_of_handles again orderly spelled handles uncovered
  rw [untracked, found, wanted, Option.filter_some, source] at tracked
  cases tracked

/-- A single told path of which no form concerns the session leads to nothing. -/
theorem resolveAll_of_unconcerned (seen : session.isConcernedBy (root.relativeTo event) = false)
    (told : session.isConcernedBy event = false) : session.resolveAll root [event] = [] := by
  have unresolved : session.resolve? root event = none := by
    rw [resolve?, List.find?_cons, seen, List.find?_cons, told]
    rfl
  rw [resolveAll, List.filterMap_cons, unresolved]
  rfl

/-- A single told path that concerns the session, as seen from the root, leads to that. -/
theorem resolveAll_of_concerned (seen : session.isConcernedBy (root.relativeTo event) = true) :
    session.resolveAll root [event] = [root.relativeTo event] := by
  have resolved : session.resolve? root event = some (root.relativeTo event) := by
    rw [resolve?, List.find?_cons, seen]
  rw [resolveAll, List.filterMap_cons, resolved]
  rfl

end

/-- A session on the scripts of a directory and of the working directory, as it begins. -/
private def lookout : Session :=
  begun { input := ["src/*.js", "./*.js"] }
    [⟨"src/*.js", [.char 's', .char 'r', .char 'c', .char '/', .anySequence, .char '.', .char 'j',
      .char 's']⟩,
    ⟨"./*.js", [.char '.', .char '/', .anySequence, .char '.', .char 'j', .char 's']⟩] []
    ⟨"locales"⟩ none

/-- A site with some scripts. -/
private def siteOf (scripts : List (Path × String)) : World MemoryDisk := .ofFiles scripts []

private theorem orderly_siteOf (scripts : List (Path × String)) : (siteOf scripts).disk.Orderly :=
  World.orderly_ofFiles scripts

/-- A file of a site has the path of some script. -/
private theorem mem_of_entry? {scripts : List (Path × String)} {path : Path} {file : Path × String}
    (found : (siteOf scripts).disk.files.entry? path = some file) :
    ∃ key ∈ scripts.map (·.1), compare path key = .eq := by
  obtain ⟨member, equal⟩ := SortedMap.entry?_eq_some_iff.1 found
  exact ⟨file.1, SortedMap.mem_keys_ofList (List.mem_map_of_mem member), equal⟩

private theorem relative_siteOf {scripts : List (Path × String)}
    (relative : ∀ key ∈ scripts.map (·.1), key.isAbsolute = false) :
    Knowledge.Relative (siteOf scripts).disk.files.entry? := by
  intro path absolute
  rw [← Option.not_isSome_iff_eq_none, Option.isSome_iff_exists]
  rintro ⟨file, found⟩
  -- Paths of the same components are absolute together.
  obtain ⟨key, member, equal⟩ := mem_of_entry? found
  rw [Path.isAbsolute_iff, Path.compare_eq_iff.1 equal, ← Path.isAbsolute_iff,
    relative key member] at absolute
  cases absolute

/-- A path that has changed between two sites is that of a script of one of them. -/
private theorem mem_of_changed {scripts others : List (Path × String)} {path : Path}
    (changed : (siteOf scripts).disk.files.entry? path ≠ (siteOf others).disk.files.entry? path) :
    ∃ key ∈ scripts.map (·.1) ++ others.map (·.1), compare path key = .eq := by
  -- One of the two sites has a script there, for otherwise nothing has changed.
  cases now : (siteOf scripts).disk.files.entry? path with
  | some file =>
    obtain ⟨key, member, equal⟩ := mem_of_entry? now
    exact ⟨key, List.mem_append_left _ member, equal⟩
  | none =>
    cases before : (siteOf others).disk.files.entry? path with
    | none =>
      rw [now, before] at changed
      exact absurd rfl changed
    | some file =>
      obtain ⟨key, member, equal⟩ := mem_of_entry? before
      exact ⟨key, List.mem_append_right _ member, equal⟩

/-- The session after it has read a site, whose scripts it holds as far as they are sources. -/
private theorem readSite (scripts : List (Path × String)) : ∃ session changes later,
    runOn (read none) lookout (siteOf scripts) = (.ok changes, session, later) ∧
      ReadHistory lookout.config session (siteOf scripts).disk.files.entry? ∧
      session.hasRead = true ∧ (∀ path, session.isSource path = lookout.isSource path) ∧
      ∀ path, session.sources.entry? path =
        lookout.wanted ((siteOf scripts).disk.files.entry? path) := by
  have made : (new lookout.config : StateM (World MemoryDisk) (Outcome Session)).run (siteOf []) =
      (.ok lookout, siteOf []) := run_new_of_compiled (by cbv) (by cbv) rfl rfl _
  -- A new session knows of no files, and then reads all of them.
  have begun : ReadHistory lookout.config lookout fun _ => none := .new made
  obtain ⟨changes, session, later, ran, -, brings⟩ :=
    begun.current.readAll (orderly_siteOf scripts) (.inr (.inl rfl))
  refine ⟨session, changes, later, ran, .readAll begun (orderly_siteOf scripts) (.inl rfl) ran, ?_,
    fun path => ?_, fun path => ?_⟩
  · -- A reading leaves the settings, and with them what counts as a source.
    rw [brings.keepsRest]
  · rw [brings.keepsRest]
    rfl
  · -- Held is what is wanted of each file that is found.
    rw [brings.entries, if_pos rfl]
    cases lookout.wanted ((siteOf scripts).disk.files.entry? path) <;> rfl

private theorem spelledBehind_of_all {root : Path} {events : List Path} {disk : MemoryDisk}
    (all : (events.all fun event => (disk.files.entry? (root.relativeTo event)).all
      (·.1 = root.relativeTo event)) = true) : SpelledBehind root events disk := by
  intro event told file found
  simpa [found] using List.all_eq_true.1 all event told

/-- The scripts of a site, and those that it has later. -/
private def oldScripts : List (Path × String) := [(⟨"src/a.js"⟩, "__('A')")]

private def newScripts : List (Path × String) := [(⟨"src/b.js"⟩, "__('B')")]

/-- A script has gone and another one has come, which is told in any order among other things. -/
theorem handle_told_changes_of_site : ∃ session known,
    Watched lookout.config session known (siteOf newScripts) ⟨"/work"⟩ [⟨"/work/src/b.js"⟩,
      ⟨"/work/notes.txt"⟩, ⟨"/work/src/a.js"⟩, ⟨"/work/src/b.js"⟩] ∧
    HandlesAsUpdate ⟨"/work"⟩ [⟨"/work/src/b.js"⟩, ⟨"/work/notes.txt"⟩, ⟨"/work/src/a.js"⟩,
      ⟨"/work/src/b.js"⟩] session (siteOf newScripts) ∧
    effect (runOn (handle ⟨"/work"⟩ (.changed [⟨"/work/notes.txt"⟩])) session (siteOf newScripts)) =
      (.ok (), session, (siteOf newScripts).disk) := by
  -- The session reads the old scripts; by the time of the events they have become the new ones.
  obtain ⟨session, -, -, -, history, again, alike, entries⟩ := readSite oldScripts
  have watched (events : List Path) (under : ∀ event ∈ events, event.isUnder ⟨"/work"⟩ = true) :
      Watched lookout.config session (siteOf oldScripts).disk.files.entry? (siteOf newScripts)
        ⟨"/work"⟩ events :=
    ⟨history, again, orderly_siteOf _, relative_siteOf (by decide), relative_siteOf (by decide),
      by decide, under⟩
  refine ⟨session, _, watched _ (by decide), (handle_told_changes (watched _ (by decide))).1
    (spelledBehind_of_all (by cbv)) fun path changed => ?_,
    (handle_told_changes (watched _ (by decide))).2 fun event told => ?_⟩
  · -- What has changed is one of the scripts of before or of now, and all of them are told.
    obtain ⟨key, member, equal⟩ := mem_of_changed changed
    rw [Path.compare_eq_iff.1 equal]
    have plain : ∀ key ∈ newScripts.map (·.1) ++ oldScripts.map (·.1),
        key.components.head? ≠ some .current ∧ (⟨"/work"⟩ : Path).join key ∈
          [(⟨"/work/src/b.js"⟩ : Path), ⟨"/work/notes.txt"⟩, ⟨"/work/src/a.js"⟩,
            ⟨"/work/src/b.js"⟩] := by decide
    obtain ⟨plain, told⟩ := plain key member
    exact ⟨plain, _, told, key, equal, Std.ReflCmp.compare_self⟩
  · obtain rfl := List.mem_singleton.1 told
    -- The notes are no source, and they are not tracked.
    have other : lookout.isSource ((⟨"/work"⟩ : Path).relativeTo ⟨"/work/notes.txt"⟩) = false := by
      cbv
    have untracked : session.sources.entry?
        ((⟨"/work"⟩ : Path).relativeTo ⟨"/work/notes.txt"⟩) = none := by
      rw [entries]
      cbv
    -- So neither its patterns nor what it holds concern the notes.
    rw [isConcernedBy, alike, other, Bool.false_or, isTracked, SortedMap.contains, untracked]
    rfl

/-- A script that comes is missed when the path that is told of it concerns no one. -/
private theorem misses {key event : Path} (relative : key.isAbsolute = false)
    (under : event.isUnder ⟨"/work"⟩ = true)
    (same : compare event ((⟨"/work"⟩ : Path).join key) = .eq)
    (seen : lookout.isSource ((⟨"/work"⟩ : Path).relativeTo event) = false)
    (told : lookout.isSource event = false) (source : lookout.isSource key = true) :
    ∃ session known, Watched lookout.config session known (siteOf [(key, "__('A')")]) ⟨"/work"⟩
        [event] ∧
      (∀ path, (siteOf [(key, "__('A')")]).disk.files.entry? path ≠ known path →
        compare path key = .eq ∧ Tells ⟨"/work"⟩ [event] path) ∧
      ¬ HandlesAsUpdate ⟨"/work"⟩ [event] session (siteOf [(key, "__('A')")]) := by
  obtain ⟨session, -, -, -, history, again, alike, entries⟩ := readSite []
  -- The session has read the site without scripts, and so holds none.
  have untracked (path : Path) : session.sources.entry? path = none := by
    rw [entries]
    rfl
  have concerned (path : Path) : session.isConcernedBy path = lookout.isSource path := by
    rw [isConcernedBy, isTracked, SortedMap.contains, untracked, alike]
    exact Bool.or_false _
  -- In neither of its spellings does the told path concern the session, so that nothing is read.
  have nothing : session.resolveAll ⟨"/work"⟩ [event] = [] :=
    resolveAll_of_unconcerned ((concerned _).trans seen) ((concerned _).trans told)
  have stored : (siteOf [(key, "__('A')")]).disk.files.entry? key = some (key, "__('A')") := by
    show SortedMap.entry? (SortedMap.insert ∅ key "__('A')") key = _
    rw [SortedMap.entry?_insert, if_pos Std.ReflCmp.compare_self]
    rfl
  refine ⟨session, _, ⟨history, again, orderly_siteOf _, relative_siteOf (by simpa using relative),
    relative_siteOf (List.forall_mem_nil _), by decide, by simpa using under⟩, fun path changed => ?_, ?_⟩
  · obtain ⟨other, member, equal⟩ := mem_of_changed changed
    obtain rfl : other = key := by simpa using member
    exact ⟨equal, event, List.mem_singleton_self _, other, equal, same⟩
  · exact history.current.not_handlesAsUpdate again (orderly_siteOf _)
      (by rw [nothing]; exact List.forall_mem_nil _)
      (by rw [nothing]; rfl) stored ((alike key).trans source) (untracked key)

/-- Two scripts have come; one is read by name, and the other one is missed when that one is told again. -/
private theorem misses_unread : ∃ before session learned known changes middle,
    ∃ past world : World MemoryDisk,
      ReadHistory lookout.config before learned ∧ past.disk.Orderly ∧
        runOn (read (some [⟨"src/a.js"⟩])) before past = (.ok changes, session, middle) ∧
        Watched lookout.config session known world ⟨"/work"⟩ [⟨"/work/src/a.js"⟩] ∧
        SpelledBehind ⟨"/work"⟩ [⟨"/work/src/a.js"⟩] world.disk ∧
        world.disk.files.entry? = past.disk.files.entry? ∧
        ¬ HandlesAsUpdate ⟨"/work"⟩ [⟨"/work/src/a.js"⟩] session world := by
  -- The site was empty when it was read whole, and both scripts came after that.
  obtain ⟨first, _, _, _, history, again, alike, entries⟩ := readSite []
  let site := siteOf [(⟨"src/a.js"⟩, "__('A')"), (⟨"src/b.js"⟩, "__('B')")]
  have stored : site.disk.files.entry? ⟨"src/a.js"⟩ = some (⟨"src/a.js"⟩, "__('A')") := by cbv
  have stored' : site.disk.files.entry? ⟨"src/b.js"⟩ = some (⟨"src/b.js"⟩, "__('B')") := by cbv
  have spelled : ∀ path ∈ [(⟨"src/a.js"⟩ : Path)], ∀ file,
      site.disk.files.entry? path = some file → file.1 = path := by
    intro path member file found
    obtain rfl := List.mem_singleton.1 member
    rw [stored] at found
    cases found
    rfl
  -- The reading of one script on its list leaves the other one out.
  obtain ⟨_, second, _, ran, -, brings⟩ := history.current.readSome (orderly_siteOf _) again
    (List.cons_ne_nil _ _) spelled
  have later := ReadHistory.readSome history (orderly_siteOf _) again (List.cons_ne_nil _ _)
    spelled ran
  have again' : second.hasRead = true := by rw [brings.keepsRest]
  have alike' (path : Path) : second.isSource path = lookout.isSource path := by
    rw [← alike, brings.keepsRest]
    rfl
  have relative : Knowledge.Relative site.disk.files.entry? := relative_siteOf (by decide)
  have relative' : Knowledge.Relative (siteOf []).disk.files.entry? :=
    relative_siteOf (List.forall_mem_nil _)
  have watched : Watched lookout.config second _ site ⟨"/work"⟩ [⟨"/work/src/a.js"⟩] :=
    ⟨later, again', orderly_siteOf _, relative, fun path absolute => by
      rw [Knowledge.update, relative path absolute, relative' path absolute, ite_self],
      by decide, by decide⟩
  -- Both scripts match the pattern for sources, and the event tells of the first alone.
  have source : lookout.isSource ⟨"src/a.js"⟩ = true := by cbv
  have source' : lookout.isSource ⟨"src/b.js"⟩ = true := by cbv
  have resolved : second.resolveAll ⟨"/work"⟩ [⟨"/work/src/a.js"⟩] = [⟨"src/a.js"⟩] := by
    have seen : (⟨"/work"⟩ : Path).relativeTo ⟨"/work/src/a.js"⟩ = ⟨"src/a.js"⟩ := by decide
    rw [resolveAll_of_concerned, seen]
    rw [seen, isConcernedBy, alike', source, Bool.true_or]
  -- The other script is none of the paths that are told, and it was not read before.
  have apart : covers [(⟨"src/a.js"⟩ : Path)] ⟨"src/b.js"⟩ = false := by cbv
  have untracked : second.sources.entry? ⟨"src/b.js"⟩ = none := by
    rw [brings.entries, apart, if_neg Bool.false_ne_true, entries]
    rfl
  refine ⟨_, second, _, _, _, _, site, site, history, orderly_siteOf _, ran, watched,
    spelledBehind_of_all (by cbv), rfl, ?_⟩
  exact later.current.not_handlesAsUpdate again' (orderly_siteOf _) (resolved ▸ spelled)
    (resolved ▸ apart) stored' ((alike' _).trans source') untracked

/-- The paths that changed since the last reading are not enough when that one was given a list that left
changes out; a told path that is spelled in another way than the file behind the root may be taken for
none of the sources; and a path that starts at the current directory is another one behind the root. -/
theorem not_handle_told_changes :
    (¬ ∀ (config : Config) (before session : Session) (learned known : Knowledge)
      (changed : Option (List Path)) (changes : Bool) (past middle world : World MemoryDisk)
      (root : Path) (events : List Path),
      ReadHistory config before learned → past.disk.Orderly →
        runOn (read changed) before past = (.ok changes, session, middle) →
        Watched config session known world root events → SpelledBehind root events world.disk →
        (∀ path, world.disk.files.entry? path ≠ past.disk.files.entry? path →
          path.components.head? ≠ some .current ∧ Tells root events path) →
        HandlesAsUpdate root events session world) ∧
    (¬ ∀ (config : Config) (session : Session) (known : Knowledge) (world : World MemoryDisk)
      (root : Path) (events : List Path), Watched config session known world root events →
        (∀ path, world.disk.files.entry? path ≠ known path →
          path.components.head? ≠ some .current ∧ Tells root events path) →
        HandlesAsUpdate root events session world) ∧
    ¬ ∀ (config : Config) (session : Session) (known : Knowledge) (world : World MemoryDisk)
      (root : Path) (events : List Path), Watched config session known world root events →
        SpelledBehind root events world.disk →
        (∀ path, world.disk.files.entry? path ≠ known path → Tells root events path) →
        HandlesAsUpdate root events session world := by
  refine ⟨fun claimed => ?_, fun claimed => ?_, fun claimed => ?_⟩
  · -- Nothing has changed since the last reading, which left one script out.
    obtain ⟨_, _, _, _, _, _, _, _, history, orderly, ran, watched, spelled, same, missed⟩ :=
      misses_unread
    refine missed (claimed _ _ _ _ _ _ _ _ _ _ _ _ history orderly ran watched spelled
      fun path changed => ?_)
    rw [same] at changed
    exact absurd rfl changed
  · -- The event spells two slashes, and so what stands behind the root does not match the pattern.
    obtain ⟨session, known, watched, told, missed⟩ := @misses ⟨"src/a.js"⟩ ⟨"/work/src//a.js"⟩
      (by decide) (by decide) (by decide) (by cbv) (by cbv) (by cbv)
    refine missed (claimed _ _ _ _ _ _ watched fun path changed => ⟨?_, (told path changed).2⟩)
    rw [Path.compare_eq_iff.1 (told path changed).1]
    decide
  · -- The dot at the start of the script is lost behind the root.
    obtain ⟨session, known, watched, told, missed⟩ := @misses ⟨"./a.js"⟩ ⟨"/work/./a.js"⟩
      (by decide) (by decide) (by decide) (by cbv) (by cbv) (by cbv)
    exact missed (claimed _ _ _ _ _ _ watched (spelledBehind_of_all (by cbv))
      fun path changed => (told path changed).2)

end Session

end MessageCatalog
