import Mathlib
import MessageCatalog.Proofs.Disk.Memory
import MessageCatalog.Proofs.Session.FirstRead
import MessageCatalog.Proofs.Session.Write

/-! Reading the paths that changed does what reading every source does. -/

namespace MessageCatalog

namespace Session

/-- A file that is to be tracked, as a disk spells it: only a source is. -/
def wanted (session : Session) (file : Option (Path × String)) : Option (Path × String) :=
  file.filter fun file => session.isSource file.1

/-- What is tracked at a path after it was brought to what is wanted: a tracked file keeps its
spelling. -/
def brought (tracked wanted : Option (Path × String)) : Option (Path × String) :=
  wanted.map fun file => ((tracked.map Prod.fst).getD file.1, file.2)

/-- Bringing a path to what is wanted twice does no more than once. -/
@[simp] theorem brought_brought (tracked wanted : Option (Path × String)) :
    brought (brought tracked wanted) wanted = brought tracked wanted := by
  cases wanted <;> rfl

/-- Some path of a list is a path, however it is spelled. -/
def covers (paths : List Path) (path : Path) : Bool := paths.any (compare path · == .eq)

/-- What a list covers does not depend on how a path is spelled. -/
theorem covers_congr {paths : List Path} {path other : Path} (equal : compare path other = .eq) :
    covers paths path = covers paths other := by
  rw [covers, covers]
  exact congrArg paths.any (funext fun listed => by rw [Std.TransCmp.congr_left equal])

theorem covers_append (paths others : List Path) (path : Path) :
    covers (paths ++ others) path = (covers paths path || covers others path) :=
  List.any_append

/-- A step that succeeds on a disk, brings some paths to what is wanted and leaves all others, and
reports whether that has changed anything. -/
def Settles (origin : Session) (disk : MemoryDisk)
    (step : SessionM (StateM (World MemoryDisk)) Bool) (paths : List Path) : Prop :=
  ∀ session world, KeepsRest origin session → world.disk = disk →
    ∃ changes after later, runOn step session world = (.ok changes, after, later) ∧
      KeepsRest session after ∧ later.disk = disk ∧
      (changes = true ↔ after.sources ≠ session.sources) ∧
      ∀ path, after.sources.entry? path =
        if covers paths path then
          brought (session.sources.entry? path) (origin.wanted (disk.files.entry? path))
        else session.sources.entry? path

section

variable {origin : Session} {disk : MemoryDisk}

/-- Doing nothing settles no path. -/
theorem settles_nothing : Settles origin disk (pure false) [] := by
  intro session world _ same
  refine ⟨false, session, world, rfl, rfl, same, by simp, ?_⟩
  intro path
  rfl

/-- Two steps settle the paths of both. -/
theorem Settles.either {first second : SessionM (StateM (World MemoryDisk)) Bool}
    {paths others : List Path} (left : Settles origin disk first paths)
    (right : Settles origin disk second others) :
    Settles origin disk (do let changed ← first; let more ← second; return changed || more)
      (paths ++ others) := by
  intro session world kept same
  obtain ⟨changed, between, middle, began, keptThen, sameThen, told, entries⟩ :=
    left session world kept same
  obtain ⟨more, after, later, ended, keptLast, sameLast, toldMore, moreEntries⟩ :=
    right between middle (kept.trans keptThen) sameThen
  -- What the second step settles again is left as it is.
  have settled (path : Path) : after.sources.entry? path =
      if covers (paths ++ others) path then
        brought (session.sources.entry? path) (origin.wanted (disk.files.entry? path))
      else session.sources.entry? path := by
    rw [moreEntries, entries, covers_append]
    by_cases first : covers paths path <;> by_cases second : covers others path <;>
      simp [first, second]
  refine ⟨changed || more, after, later, ?_, keptThen.trans keptLast, sameLast, ?_, settled⟩
  · rw [runOn_bind_ok began, runOn_bind_ok ended, runOn_pure]
  · -- If the first step reported nothing, the report is that of the second.
    cases changed with
    | false =>
      have still : between.sources = session.sources := by simpa using told
      rw [Bool.false_or, toldMore, still]
    | true =>
      -- A path that the first step changed is not changed back.
      rw [Bool.true_or]
      refine iff_of_true rfl fun undone => told.1 rfl (SortedMap.ext_entry? fun path => ?_)
      have last := settled path
      rw [undone, covers_append] at last
      rw [entries]
      by_cases first : covers paths path
      · rw [if_pos first]
        simpa only [first, Bool.true_or, if_true] using last.symm
      · rw [if_neg first]

/-- A step for each path settles all of them. -/
theorem settles_anyChange {step : Path → SessionM (StateM (World MemoryDisk)) Bool}
    {paths : List Path} (each : ∀ path ∈ paths, Settles origin disk (step path) [path]) :
    Settles origin disk (anyChange step paths) paths := by
  induction paths with
  | nil => exact settles_nothing
  | cons path paths ih =>
    have rest := ih fun other member => each other (.tail path member)
    exact (each path (.head paths)).either rest

/-- One path is settled when it has become what is wanted there, and all others are as they were. -/
theorem settled_of_brought {sources after : SortedMap Path String} {path : Path}
    (here : after.entry? path =
      brought (sources.entry? path) (origin.wanted (disk.files.entry? path)))
    (others : ∀ other, compare other path ≠ .eq → after.entry? other = sources.entry? other)
    (other : Path) : after.entry? other =
      if covers [path] other then
        brought (sources.entry? other) (origin.wanted (disk.files.entry? other))
      else sources.entry? other := by
  by_cases equal : compare other path = .eq
  · have inside : covers [path] other = true := by simp [covers, equal]
    rw [if_pos inside, SortedMap.entry?_congr equal, SortedMap.entry?_congr equal,
      SortedMap.entry?_congr equal, here]
  · have outside : covers [path] other = false := by simp [covers, equal]
    rw [outside, if_neg Bool.false_ne_true, others other equal]

/-- Dropping a file settles a path at which nothing is wanted. -/
theorem settles_dropSource {path : Path}
    (unwanted : origin.wanted (disk.files.entry? path) = none) :
    Settles origin disk (dropSource path) [path] := by
  intro session world _ same
  rw [runOn_dropSource]
  -- A tracked file goes, which is a change; any other one is left out as it is wanted.
  by_cases tracked : session.isTracked path
  · rw [if_pos tracked]
    have gone : SortedMap.entry? (session.sources.erase path) path = none := by
      rw [SortedMap.entry?_erase, if_pos Std.ReflCmp.compare_self]
    refine ⟨true, _, _, rfl, rfl, (disk_logged ..).trans same, iff_of_true rfl ?_, ?_⟩
    · intro (erased : session.sources.erase path = session.sources)
      rw [erased] at gone
      simp [isTracked, SortedMap.contains, gone] at tracked
    · apply settled_of_brought
      · rw [gone, unwanted]
        rfl
      · intro other differs
        rw [SortedMap.entry?_erase, if_neg differs]
  · -- An untracked file stays untracked, and nothing is wanted of it.
    rw [if_neg tracked]
    have absent : session.sources.entry? path = none := by
      simpa [isTracked, SortedMap.contains] using tracked
    refine ⟨false, session, world, rfl, rfl, same, by simp, settled_of_brought ?_ fun _ _ => rfl⟩
    rw [absent, unwanted]
    rfl

/-- Loading a file settles a path that spells a source, or at which there is no file. -/
theorem settles_loadSource {path : Path} (orderly : disk.Orderly)
    (fits : ∀ file, disk.files.entry? path = some file →
      file.1 = path ∧ origin.isSource path = true) :
    Settles origin disk (loadSource path) [path] := by
  intro session world kept same
  have stored : (FileSystem.read path : StateM (World MemoryDisk) (Outcome String)).run world =
      (Disk.read disk path, world) := by
    rw [← same]
    rfl
  rw [runOn_loadSource, stored, orderly.read]
  cases found : disk.files.entry? path with
  | none =>
    -- A path without a file is dropped.
    have unwanted : origin.wanted (disk.files.entry? path) = none := by
      rw [found]
      rfl
    have absent : disk.files.get? path = none := by simp [SortedMap.get?, found]
    simp only [absent]
    exact settles_dropSource unwanted session world kept same
  | some file =>
    obtain ⟨spelled, source⟩ := fits file found
    have text : disk.files.get? path = some file.2 := by simp [SortedMap.get?, found]
    have wanted : origin.wanted (disk.files.entry? path) = some (path, file.2) := by
      rw [found, Session.wanted, Option.filter_some, spelled, source]
      exact congrArg some (Prod.ext spelled rfl)
    simp only [text]
    by_cases known : session.sources.get? path = some file.2
    · -- The text that is wanted is tracked already.
      rw [if_pos known]
      refine ⟨false, session, world, rfl, rfl, same, by simp, settled_of_brought ?_ fun _ _ => rfl⟩
      obtain ⟨tracked, entry, value⟩ := Option.map_eq_some_iff.1 known
      rw [wanted, entry, ← value]
      rfl
    · -- A new text takes the place of what was tracked, and leaves the other paths.
      rw [if_neg known]
      refine ⟨true, _, _, rfl, rfl, (disk_logged ..).trans same, iff_of_true rfl ?_, ?_⟩
      · intro inserted
        have value := congrArg (fun sources => SortedMap.get? sources path) inserted
        simp only [SortedMap.get?_insert, Std.ReflCmp.compare_self, if_true] at value
        exact known value.symm
      · apply settled_of_brought
        · rw [SortedMap.entry?_insert, if_pos Std.ReflCmp.compare_self, wanted]
          rfl
        · intro other differs
          rw [SortedMap.entry?_insert, if_neg differs]

/-- In memory the input patterns lead to the files that match. -/
theorem sourceFiles_memory {session : Session} (disk : MemoryDisk)
    (compiled : compilePatterns session.config.input = .ok session.included)
    (left : compilePatterns session.config.ignore = .ok session.ignored) :
    session.sourceFiles disk =
      .ok (disk.matchingFiles session.included session.ignored).elements := by
  rw [sourceFiles, MemoryDisk.glob_eq compiled left]
  rfl

/-- What is wanted at a path is among the files that match. -/
theorem covers_of_wanted {session : Session} (orderly : disk.Orderly) {path : Path}
    {file : Path × String} (here : session.wanted (disk.files.entry? path) = some file) :
    covers (disk.matchingFiles session.included session.ignored).elements path = true := by
  obtain ⟨stored, source⟩ := Option.filter_eq_some_iff.1 here
  obtain ⟨other, member, equal⟩ :=
    SortedMap.contains_iff.1 (orderly.contains_matchingFiles stored source)
  exact List.any_eq_true.2 ⟨other, member, by simp [equal]⟩

/-- A file that is tracked is among those found, or among the others. -/
theorem covers_of_tracked {session : Session} (files : List Path) {path : Path}
    {entry : Path × String} (tracked : session.sources.entry? path = some entry) :
    covers (session.unfound files ++ files) path = true := by
  obtain ⟨member, equal⟩ := SortedMap.entry?_eq_some_iff.1 tracked
  rw [covers_congr equal, covers_append, Bool.or_eq_true]
  by_cases here : covers files entry.1
  · exact .inr here
  · refine .inl (List.any_eq_true.2 ⟨entry.1, List.mem_filter.2 ⟨List.mem_map_of_mem member, ?_⟩, ?_⟩)
    · simpa [covers] using here
    · simp [Std.ReflCmp.compare_self]

/-- Dropping what is not found any more settles it: what is wanted is found. -/
theorem settles_unfound (session : Session) (orderly : disk.Orderly) :
    Settles session disk (anyChange dropSource
        (session.unfound (disk.matchingFiles session.included session.ignored).elements))
      (session.unfound (disk.matchingFiles session.included session.ignored).elements) := by
  refine settles_anyChange fun path member => settles_dropSource ?_
  rcases here : session.wanted (disk.files.entry? path) with _ | file
  · rfl
  · -- What is wanted is among the files that match, so it would have been found.
    have uncovered :
        (!covers (disk.matchingFiles session.included session.ignored).elements path) = true :=
      (List.mem_filter.1 member).2
    rw [covers_of_wanted orderly here] at uncovered
    cases uncovered

/-- Loading the files that match settles them, for each of them is a source. -/
theorem settles_found (session : Session) (orderly : disk.Orderly) :
    Settles session disk
      (anyChange loadSource (disk.matchingFiles session.included session.ignored).elements)
      (disk.matchingFiles session.included session.ignored).elements := by
  refine settles_anyChange fun path member => settles_loadSource orderly ?_
  obtain ⟨source, text, stored⟩ := MemoryDisk.entry?_of_mem_matchingFiles member
  rintro file here
  rw [stored, Option.some.injEq] at here
  exact ⟨here ▸ rfl, source⟩

/-- Reading every source brings every path to what is wanted. -/
theorem settles_readAll (session : Session) (world : World MemoryDisk)
    (orderly : world.disk.Orderly)
    (compiled : compilePatterns session.config.input = .ok session.included)
    (left : compilePatterns session.config.ignore = .ok session.ignored) :
    ∃ changes after later, runOn readAll session world = (.ok changes, after, later) ∧
      (changes = true ↔ after.sources ≠ session.sources) ∧
      ∀ path, after.sources.entry? path =
        brought (session.sources.entry? path) (session.wanted (world.disk.files.entry? path)) := by
  let files := (world.disk.matchingFiles session.included session.ignored).elements
  have found : session.sourceFiles world.disk = .ok files := sourceFiles_memory _ compiled left
  -- What is not found any more is dropped first, and then what is found is loaded.
  obtain ⟨changes, after, later, ran, -, -, told, entries⟩ :=
    (settles_unfound session orderly).either (settles_found session orderly) session world rfl rfl
  rw [runOn_readAll, found]
  refine ⟨changes, after, later, ran, told, fun path => ?_⟩
  rw [entries]
  split
  · rfl
  · -- A path outside both lists is neither tracked nor wanted.
    rename_i outside
    have untracked : session.sources.entry? path = none := by
      rcases tracked : session.sources.entry? path with _ | entry
      · rfl
      · exact absurd (covers_of_tracked files tracked) outside
    have unwanted : session.wanted (world.disk.files.entry? path) = none := by
      rcases here : session.wanted (world.disk.files.entry? path) with _ | file
      · rfl
      · rw [covers_append, covers_of_wanted orderly here, Bool.or_true] at outside
        exact absurd rfl outside
    rw [untracked, unwanted]
    rfl

/-- Splitting a list by a test leaves no path out. -/
theorem covers_split (test : Path → Bool) (paths : List Path) (path : Path) :
    covers (paths.filter (!test ·) ++ paths.filter test) path = covers paths path := by
  rw [Bool.eq_iff_iff, covers_append]
  simp only [covers, List.any_filter, Bool.or_eq_true, List.any_eq_true, Bool.and_eq_true]
  constructor
  · rintro (⟨other, member, -, equal⟩ | ⟨other, member, -, equal⟩)
    · exact ⟨other, member, equal⟩
    · exact ⟨other, member, equal⟩
  · rintro ⟨other, member, equal⟩
    -- Each path is in one of the two parts.
    cases passes : test other
    · exact .inl ⟨other, member, by simp [passes], equal⟩
    · exact .inr ⟨other, member, passes, equal⟩

/-- Taking up a path that is spelled as on the disk settles it. -/
theorem settles_takeUp {path : Path} (orderly : disk.Orderly)
    (spelled : ∀ file, disk.files.entry? path = some file → file.1 = path) :
    Settles origin disk (takeUp path) [path] := by
  intro session world kept same
  rw [runOn_takeUp]
  have alike : session.isSource path = origin.isSource path := by rw [kept]; rfl
  -- A source is loaded; anything else is wanted by no one, and dropped.
  by_cases source : session.isSource path
  · simp only [source, if_true]
    refine settles_loadSource orderly ?_ session world kept same
    intro file found
    exact ⟨spelled file found, alike ▸ source⟩
  · simp only [source, Bool.false_eq_true, if_false]
    refine settles_dropSource ?_ session world kept same
    rcases found : disk.files.entry? path with _ | file
    · rfl
    · rw [alike, ← spelled file found] at source
      simp [wanted, source]

/-- Reading some paths, spelled as on the disk, brings them to what is wanted. -/
theorem settles_readSome (paths : List Path) (session : Session) (world : World MemoryDisk)
    (orderly : world.disk.Orderly)
    (spelled : ∀ path ∈ paths, ∀ file, world.disk.files.entry? path = some file → file.1 = path) :
    ∃ changes after later, runOn (readSome paths) session world = (.ok changes, after, later) ∧
      (changes = true ↔ after.sources ≠ session.sources) ∧
      ∀ path, after.sources.entry? path =
        if covers paths path then
          brought (session.sources.entry? path) (session.wanted (world.disk.files.entry? path))
        else session.sources.entry? path := by
  -- The listed paths are apart from each other: those that are there, and those that are gone.
  let gone := paths.filter (!Disk.isThere world.disk ·)
  let there := paths.filter (Disk.isThere world.disk ·)
  -- What is gone is dropped, and what is there is loaded if it is a source.
  have dropping : Settles session world.disk (anyChange dropSource gone) gone := by
    apply settles_anyChange
    intro path member
    apply settles_dropSource
    have absent := (List.mem_filter.1 member).2
    rcases found : world.disk.files.entry? path with _ | file
    · rfl
    · have here : Disk.isThere world.disk path = true := by
        show (world.disk.files.contains path || world.disk.hasDir path) = true
        simp [SortedMap.contains, found]
      simp [here] at absent
  have loading : Settles session world.disk (anyChange takeUp there) there := by
    apply settles_anyChange
    intro path member
    exact settles_takeUp orderly (spelled path (List.mem_filter.1 member).1)
  obtain ⟨changes, after, later, ran, -, -, told, entries⟩ :=
    dropping.either loading session world rfl rfl
  refine ⟨changes, after, later, (runOn_readSome ..).trans ran, told, ?_⟩
  intro path
  rw [entries, covers_split]

/-- A session with a new index when something changed. -/
def reindexed (session : Session) (changes : Bool) : Session :=
  if changes then { session with index := .ofSources session.functions session.sources }
  else session

/-- Making a new index keeps all but the index. -/
theorem keepsRest_reindexed (session : Session) (changes : Bool) :
    KeepsRest session (session.reindexed changes) ∧
      (session.reindexed changes).sources = session.sources := by
  cases changes <;> exact ⟨rfl, rfl⟩

/-- A reading that gets through its files succeeds. -/
theorem runOn_read_of_changes {changed : Option (List Path)} {session between : Session}
    {world later : World MemoryDisk} {changes : Bool}
    (ran : runOn (readChanges changed !session.hasRead) { session with hasRead := true } world =
      (.ok changes, between, later)) :
    ∃ last, runOn (read changed) session world = (.ok (!session.hasRead || changes),
      between.reindexed (!session.hasRead || changes), last) := by
  rw [runOn_read, ran]
  dsimp only
  -- A first reading counts as a change, and only a change makes a new index.
  cases told : !session.hasRead || changes
  · exact ⟨later, rfl⟩
  · exact ⟨_, rfl⟩

/-- Behind the first one, a reading that leaves all texts as they are changes nothing. -/
theorem runOn_read_of_still {changed : Option (List Path)} {session between : Session}
    {world later : World MemoryDisk} {changes : Bool} (again : session.hasRead = true)
    (ran : runOn (readChanges changed !session.hasRead) { session with hasRead := true } world =
      (.ok changes, between, later))
    (told : changes = true ↔ between.sources ≠ session.sources)
    (still : between.sources = session.sources) :
    ∃ last, runOn (read changed) session world = (.ok false, session, last) := by
  -- A change is reported exactly when the sources differ.
  have quiet : changes = false := by
    rw [← Bool.not_eq_true, told]
    exact fun differs => differs still
  subst quiet
  obtain ⟨last, read⟩ := runOn_read_of_changes ran
  simp only [again, Bool.not_true, Bool.false_or] at read
  exact ⟨last, read.trans (by rw [(eq_of_read_false read).2])⟩

/-- What was known of the files when they were read last. -/
abbrev Knowledge := Path → Option (Path × String)

/-- What is known of the files after some paths were read. -/
def Knowledge.update (known : Knowledge) (paths : List Path) (disk : MemoryDisk) : Knowledge :=
  fun path => if covers paths path then disk.files.entry? path else known path

/-- Sessions on orderly disks whose readings all succeeded, with what those found at each path. -/
inductive ReadHistory (config : Config) : Session → Knowledge → Prop
  | new {session : Session} {world later : World MemoryDisk}
      (made : (new config : StateM (World MemoryDisk) (Outcome Session)).run world =
        (.ok session, later)) : ReadHistory config session fun _ => none
  | readAll {before after : Session} {known : Knowledge} {changed : Option (List Path)}
      {changes : Bool} {world later : World MemoryDisk}
      (earlier : ReadHistory config before known) (orderly : world.disk.Orderly)
      (whole : before.hasRead = false ∨ changed = none ∨ changed = some [])
      (ran : runOn (read changed) before world = (.ok changes, after, later)) :
      ReadHistory config after world.disk.files.entry?
  | readSome {before after : Session} {known : Knowledge} {paths : List Path}
      {changes : Bool} {world later : World MemoryDisk}
      (earlier : ReadHistory config before known) (orderly : world.disk.Orderly)
      (again : before.hasRead = true) (nonempty : paths ≠ [])
      (spelled : ∀ path ∈ paths, ∀ file, world.disk.files.entry? path = some file → file.1 = path)
      (ran : runOn (read (some paths)) before world = (.ok changes, after, later)) :
      ReadHistory config after (known.update paths world.disk)
  | write {before after : Session} {known : Knowledge} {outcome : Outcome Bool}
      {world later : World MemoryDisk} (earlier : ReadHistory config before known)
      (ran : runOn write before world = (outcome, after, later)) : ReadHistory config after known
  | close {before after : Session} {known : Knowledge} {outcome : Outcome Unit}
      {world later : World MemoryDisk} (earlier : ReadHistory config before known)
      (ran : runOn close before world = (outcome, after, later)) : ReadHistory config after known

/-- A session whose patterns are those of its settings and whose texts, once it has read any, are
what is wanted of the files it knows. -/
structure Current (session : Session) (known : Knowledge) : Prop where
  included : compilePatterns session.config.input = .ok session.included
  ignored : compilePatterns session.config.ignore = .ok session.ignored
  settled : session.hasRead = true → ∀ path,
    brought (session.sources.entry? path) (session.wanted (known path)) =
      session.sources.entry? path

/-- What has no part in reading may change. -/
theorem Current.of_keepsReading {before after : Session} {known : Knowledge}
    (current : before.Current known) (kept : KeepsReading before after) : after.Current known := by
  rw [kept]
  exact ⟨current.included, current.ignored, current.settled⟩

/-- A session is current after a reading that has settled all paths of what it knows. -/
theorem Current.of_settled {session between : Session} {known learned : Knowledge}
    (current : session.Current known)
    (kept : KeepsRest { session with hasRead := true } between) (changes : Bool)
    (settled : ∀ path, brought (between.sources.entry? path) (session.wanted (learned path)) =
      between.sources.entry? path) : (between.reindexed changes).Current learned := by
  obtain ⟨keptThen, sources⟩ := between.keepsRest_reindexed changes
  have rest := kept.trans keptThen
  -- What is wanted depends on the patterns, and these are the same.
  have alike (file : Option (Path × String)) :
      (between.reindexed changes).wanted file = session.wanted file := by
    rw [rest]
    rfl
  refine ⟨?_, ?_, ?_⟩
  · rw [rest]
    exact current.included
  · rw [rest]
    exact current.ignored
  · intro _ path
    rw [sources, alike]
    exact settled path

/-- What a reading does that succeeds and brings some paths to what is wanted. -/
structure Brings (session after : Session) (disk : MemoryDisk) (isRead : Path → Bool) : Prop where
  keepsRest : KeepsRest { session with hasRead := true } after
  entries : ∀ path, after.sources.entry? path =
    if isRead path then
      brought (session.sources.entry? path) (session.wanted (disk.files.entry? path))
    else session.sources.entry? path

/-- Reading every source succeeds, and leaves a session that knows all files. -/
theorem Current.readAll {session : Session} {known : Knowledge} (current : session.Current known)
    {world : World MemoryDisk} (orderly : world.disk.Orderly) {changed : Option (List Path)}
    (whole : session.hasRead = false ∨ changed = none ∨ changed = some []) :
    ∃ changes after later, runOn (read changed) session world = (.ok changes, after, later) ∧
      after.Current world.disk.files.entry? ∧ Brings session after world.disk fun _ => true := by
  obtain ⟨changes, between, later, ran, -, entries⟩ :=
    settles_readAll { session with hasRead := true } world orderly current.included current.ignored
  rw [← readChanges_whole whole] at ran
  have kept := (reports_readChanges changed !session.hasRead).keepsRest.of_ran ran
  obtain ⟨last, read⟩ := runOn_read_of_changes ran
  obtain ⟨keptThen, sources⟩ := between.keepsRest_reindexed (!session.hasRead || changes)
  -- What has been brought to what is wanted stays so when it is brought there again.
  refine ⟨_, _, last, read, current.of_settled kept _ fun path => ?_, kept.trans keptThen, ?_⟩
  · rw [entries]
    exact brought_brought ..
  · rw [sources]
    exact entries

/-- Reading some paths succeeds, and leaves a session that knows the files at those. -/
theorem Current.readSome {session : Session} {known : Knowledge} (current : session.Current known)
    {world : World MemoryDisk} (orderly : world.disk.Orderly) {paths : List Path}
    (again : session.hasRead = true) (nonempty : paths ≠ [])
    (spelled : ∀ path ∈ paths, ∀ file, world.disk.files.entry? path = some file →
      file.1 = path) :
    ∃ changes after later,
      runOn (read (some paths)) session world = (.ok changes, after, later) ∧
        after.Current (known.update paths world.disk) ∧
          Brings session after world.disk (covers paths) := by
  obtain ⟨changes, between, later, ran, -, entries⟩ :=
    settles_readSome paths { session with hasRead := true } world orderly spelled
  rw [← readChanges_paths again nonempty] at ran
  have kept := (reports_readChanges (some paths) !session.hasRead).keepsRest.of_ran ran
  obtain ⟨last, read⟩ := runOn_read_of_changes ran
  obtain ⟨keptThen, sources⟩ := between.keepsRest_reindexed (!session.hasRead || changes)
  refine ⟨_, _, last, read, current.of_settled kept _ fun path => ?_, kept.trans keptThen, ?_⟩
  · rw [entries, Knowledge.update]
    -- What is listed is brought to what is wanted, and the rest was settled before.
    by_cases listed : covers paths path
    · rw [if_pos listed, if_pos listed]
      exact brought_brought ..
    · rw [if_neg listed, if_neg listed]
      exact current.settled again path
  · rw [sources]
    exact entries

theorem ReadHistory.current {config : Config} {session : Session} {known : Knowledge}
    (history : ReadHistory config session known) : session.Current known := by
  -- By induction on what the session has gone through; only readings learn anything of the files.
  induction history with
  | new made =>
    obtain ⟨-, included, ignored, dir, scratch, compiled, left, rfl⟩ := new_eq_ok made
    exact ⟨compiled, left, nofun⟩
  | readAll earlier orderly whole ran ih =>
    obtain ⟨changes, after, later, went, current, -⟩ := ih.readAll orderly whole
    rw [ran, Prod.mk.injEq, Prod.mk.injEq] at went
    exact went.2.1 ▸ current
  | readSome earlier orderly again nonempty spelled ran ih =>
    obtain ⟨changes, after, later, went, current, -⟩ := ih.readSome orderly again nonempty spelled
    rw [ran, Prod.mk.injEq, Prod.mk.injEq] at went
    exact went.2.1 ▸ current
  | write earlier ran ih => exact ih.of_keepsReading (keepsReading_write.of_ran ran)
  | close earlier ran ih => exact ih.of_keepsReading (keepsReading_close.of_ran ran)

/-- Steps that report the same from one session and leave the same texts lead to the same session. -/
theorem Reports.reindexed_eq {step other : SessionM (StateM (World MemoryDisk)) Bool}
    (left : Reports step) (right : Reports other) {session a b : Session} {changes : Bool}
    {world world' later later' : World MemoryDisk}
    (ran : runOn step session world = (.ok changes, a, later))
    (ran' : runOn other session world' = (.ok changes, b, later'))
    (sources : a.sources = b.sources) : a.reindexed changes = b.reindexed changes := by
  -- Without a change both sessions stay, and after one the index is made from the same sources.
  cases changes with
  | false => rw [left.unchanged ran, right.unchanged ran']
  | true =>
    have kept : KeepsRest session a := left.keepsRest.of_ran ran
    have kept' : KeepsRest session b := right.keepsRest.of_ran ran'
    show { a with index := _ } = { b with index := _ }
    rw [kept, kept', sources]

/-- Reading some paths does what reading every source does, also in a world where other things have been
printed, when at all other paths what is wanted is tracked. -/
theorem Current.read_paths_eq {session : Session} {known : Knowledge} (current : session.Current known)
    {world world' : World MemoryDisk} (orderly : world.disk.Orderly)
    (same : world'.disk = world.disk) (again : session.hasRead = true) {paths : List Path}
    (nonempty : paths ≠ [])
    (spelled : ∀ path ∈ paths, ∀ file, world.disk.files.entry? path = some file → file.1 = path)
    (tracked : ∀ path, covers paths path = false →
      brought (session.sources.entry? path) (session.wanted (world.disk.files.entry? path)) =
        session.sources.entry? path) :
    ∃ changes after later later',
      runOn (read (some paths)) session world = (.ok changes, after, later) ∧
        runOn (read none) session world' = (.ok changes, after, later') := by
  obtain ⟨changes, between, later, ran, told, entries⟩ :=
    settles_readSome paths { session with hasRead := true } world orderly spelled
  obtain ⟨changes', between', later', ran', told', entries'⟩ :=
    settles_readAll { session with hasRead := true } world' (same ▸ orderly) current.included
      current.ignored
  -- Path by path, both readings leave what is wanted of the files on the disk.
  have sources : between.sources = between'.sources := by
    apply SortedMap.ext_entry?
    intro path
    rw [entries, entries', same]
    cases listed : covers paths path with
    | true => rfl
    | false => exact (tracked path listed).symm
  have alike : changes = changes' := by
    rw [Bool.eq_iff_iff, told, told', sources]
  subst alike
  -- The readings in between are the changes that the two calls make, each before its index.
  rw [← readChanges_paths again nonempty] at ran
  rw [← readChanges_whole (.inr (.inl rfl))] at ran'
  have agree := (reports_readChanges ..).reindexed_eq (reports_readChanges ..) ran ran' sources
  obtain ⟨last, listed⟩ := runOn_read_of_changes ran
  obtain ⟨last', whole⟩ := runOn_read_of_changes ran'
  simp only [again, Bool.not_true, Bool.false_or] at listed whole
  exact ⟨changes, _, last, last', listed, agree ▸ whole⟩

/-- Where all that is wanted is tracked, reading every source changes nothing. -/
theorem Current.read_none_eq_self {session : Session} {known : Knowledge}
    (current : session.Current known) {world : World MemoryDisk} (orderly : world.disk.Orderly)
    (again : session.hasRead = true)
    (tracked : ∀ path, brought (session.sources.entry? path)
      (session.wanted (world.disk.files.entry? path)) = session.sources.entry? path) :
    ∃ later, runOn (read none) session world = (.ok false, session, later) := by
  obtain ⟨changes, between, later, ran, told, entries⟩ :=
    settles_readAll { session with hasRead := true } world orderly current.included current.ignored
  rw [← readChanges_whole (.inr (.inl rfl))] at ran
  exact runOn_read_of_still again ran told
    (SortedMap.ext_entry? fun path => (entries path).trans (tracked path))

/-- Reading paths where nothing is nor was changes nothing. -/
theorem Current.read_some_eq_self {session : Session} {known : Knowledge}
    (current : session.Current known) {world : World MemoryDisk} (orderly : world.disk.Orderly)
    (again : session.hasRead = true) {paths : List Path} (nonempty : paths ≠ [])
    (absent : ∀ path ∈ paths, world.disk.files.entry? path = none)
    (unknown : ∀ path ∈ paths, known path = none) :
    ∃ later, runOn (read (some paths)) session world = (.ok false, session, later) := by
  obtain ⟨changes, between, later, ran, told, entries⟩ :=
    settles_readSome paths { session with hasRead := true } world orderly
      fun path member file found => by
        rw [absent path member] at found
        cases found
  -- A reading without changes leaves the sources as they were, path by path.
  rw [← readChanges_paths again nonempty] at ran
  refine runOn_read_of_still again ran told (SortedMap.ext_entry? fun path => ?_)
  rw [entries]
  split
  · -- Nothing is wanted at a listed path, and nothing was tracked there.
    rename_i listed
    obtain ⟨other, member, same⟩ := List.any_eq_true.1 listed
    have equal := beq_iff_eq.1 same
    have settled := current.settled again other
    rw [unknown other member] at settled
    have untracked : session.sources.entry? path = none := by
      rw [SortedMap.entry?_congr equal, ← settled]
      rfl
    rw [(SortedMap.entry?_congr equal).trans (absent other member)]
    exact untracked.symm
  · rfl

/-- Reading paths that cover every change does what reading every source does: both succeed, report
the same and leave the same session. -/
theorem read_some_eq_read_none {config : Config} {session : Session} {known : Knowledge}
    {world : World MemoryDisk} {paths : List Path} (history : ReadHistory config session known)
    (orderly : world.disk.Orderly) (nonempty : paths ≠ [])
    (spelled : ∀ path ∈ paths, ∀ file, world.disk.files.entry? path = some file → file.1 = path)
    (covered : ∀ path, world.disk.files.entry? path ≠ known path → covers paths path = true) :
    ∃ changes after later later',
      runOn (read (some paths)) session world = (.ok changes, after, later) ∧
        runOn (read none) session world = (.ok changes, after, later') := by
  have current := history.current
  cases again : session.hasRead with
  | false =>
    -- The first reading is one of every source, whatever paths are given.
    obtain ⟨changes, between, later, ran, -⟩ :=
      settles_readAll { session with hasRead := true } world orderly current.included
        current.ignored
    have first (changed : Option (List Path)) : ∃ last,
        runOn (read changed) session world = (.ok (!session.hasRead || changes),
          between.reindexed (!session.hasRead || changes), last) := by
      rw [← readChanges_whole (.inl again)] at ran
      exact runOn_read_of_changes ran
    obtain ⟨last, listed⟩ := first (some paths)
    obtain ⟨last', whole⟩ := first none
    exact ⟨_, _, last, last', listed, whole⟩
  -- Of a path that is not listed, the disk tells what the session knows already.
  | true =>
    refine current.read_paths_eq orderly rfl again nonempty spelled fun path unlisted => ?_
    have unchanged : world.disk.files.entry? path = known path := by
      by_contra differs
      rw [covered path differs] at unlisted
      cases unlisted
    rw [unchanged]
    exact current.settled again path

end

/-- Two more scripts have come to the first one. -/
private def secondWorld : World MemoryDisk :=
  .ofFiles [(⟨"a.js"⟩, "__('A')"), (⟨"b.js"⟩, "__('B')"), (⟨"c.js"⟩, "__('C')")] []

private theorem spelled_of_all {disk : MemoryDisk} {paths : List Path}
    (all : (paths.all fun path => (disk.files.entry? path).all (·.1 = path)) = true) :
    ∀ path ∈ paths, ∀ file, disk.files.entry? path = some file → file.1 = path := by
  intro path member file found
  simpa [found] using List.all_eq_true.1 all path member

private theorem orderly_secondWorld : secondWorld.disk.Orderly := World.orderly_ofFiles _

/-- After the first world was read whole, only one of the new scripts is read. -/
private theorem listHistory : ∃ first second changes later,
    ReadHistory englishSession.config first World.oneScript.disk.files.entry? ∧
      runOn (read (some [⟨"b.js"⟩])) first secondWorld = (.ok changes, second, later) ∧
      ReadHistory englishSession.config second
        (Knowledge.update World.oneScript.disk.files.entry? [⟨"b.js"⟩] secondWorld.disk) ∧
      second.hasRead = true ∧ second.isSource ⟨"c.js"⟩ = true ∧
      second.sources.entry? ⟨"c.js"⟩ = none := by
  have begun : ReadHistory englishSession.config englishSession _ :=
    .new (run_new_englishSession World.oneScript)
  -- The whole reading comes first, and then that of the listed script.
  obtain ⟨_, first, _, ran, current, brings⟩ :=
    begun.current.readAll World.orderly_oneScript (.inr (.inl rfl))
  have history := ReadHistory.readAll begun World.orderly_oneScript (.inl rfl) ran
  have again : first.hasRead = true := by rw [brings.keepsRest]
  have spelled : ∀ path ∈ [(⟨"b.js"⟩ : Path)], ∀ file,
      secondWorld.disk.files.entry? path = some file → file.1 = path := spelled_of_all (by cbv)
  obtain ⟨changes, second, later, ran', -, brings'⟩ :=
    current.readSome orderly_secondWorld again (List.cons_ne_nil _ _) spelled
  refine ⟨first, second, changes, later, history, ran',
    .readSome history orderly_secondWorld again (List.cons_ne_nil _ _) spelled ran', ?_, ?_, ?_⟩
  · rw [brings'.keepsRest]
  · rw [brings'.keepsRest, brings.keepsRest]
    show englishSession.isSource ⟨"c.js"⟩ = true
    cbv
  · -- The other script is not on the list, and was not there before.
    have outside : covers [(⟨"b.js"⟩ : Path)] ⟨"c.js"⟩ = false := by cbv
    have absent : World.oneScript.disk.files.entry? ⟨"c.js"⟩ = none := by cbv
    rw [brings'.entries, outside, if_neg Bool.false_ne_true, brings.entries, if_pos rfl, absent]
    rfl

/-- Paths that cover what has come since they were read last. -/
theorem read_some_eq_read_none_of_covered : ∃ session changes after later later',
    runOn (read (some [⟨"c.js"⟩, ⟨"missing.js"⟩])) session secondWorld =
      (.ok changes, after, later) ∧
    runOn (read none) session secondWorld = (.ok changes, after, later') := by
  obtain ⟨first, session, _, _, -, -, history, -⟩ := listHistory
  refine ⟨session, read_some_eq_read_none history orderly_secondWorld (List.cons_ne_nil _ _)
    (spelled_of_all (by cbv)) ?_⟩
  intro path differs
  have added : secondWorld.disk.files =
      (World.oneScript.disk.files.insert ⟨"b.js"⟩ "__('B')").insert ⟨"c.js"⟩ "__('C')" := rfl
  rw [Knowledge.update] at differs
  by_cases listed : covers [⟨"b.js"⟩] path
  · -- A path on the earlier list is known as it is now.
    rw [if_pos listed] at differs
    exact absurd rfl differs
  · rw [if_neg listed, added, SortedMap.entry?_insert] at differs
    -- Only the third script has come since, and it is on the list.
    by_cases third : compare path ⟨"c.js"⟩ = .eq
    · simp [covers, third]
    · have unlisted : ¬compare path ⟨"b.js"⟩ = .eq := by simpa [covers] using listed
      rw [if_neg third, SortedMap.entry?_insert, if_neg unlisted] at differs
      exact absurd rfl differs

/-- A list that covers what has changed since the last reading is not enough when that one was given
a list that did not. -/
theorem read_some_ne_read_none :
    ¬ ∀ (config : Config) (before session : Session) (known learned : Knowledge)
      (changed : Option (List Path)) (changes : Bool) (past between world : World MemoryDisk)
      (paths : List Path),
      ReadHistory config before known → past.disk.Orderly →
        runOn (read changed) before past = (.ok changes, session, between) →
        ReadHistory config session learned → world.disk.Orderly → paths ≠ [] →
        (∀ path ∈ paths, ∀ file, world.disk.files.entry? path = some file → file.1 = path) →
        (∀ path, world.disk.files.entry? path ≠ past.disk.files.entry? path →
          covers paths path = true) →
        ∃ changes after later later',
          runOn (read (some paths)) session world = (.ok changes, after, later) ∧
            runOn (read none) session world = (.ok changes, after, later') := by
  intro claimed
  obtain ⟨first, second, _, _, earlier, ran, history, again, source, untracked⟩ := listHistory
  have spelled : ∀ path ∈ [(⟨"a.js"⟩ : Path)], ∀ file,
      secondWorld.disk.files.entry? path = some file → file.1 = path := spelled_of_all (by cbv)
  obtain ⟨_, after, _, _, ran', ranAll⟩ := claimed _ _ _ _ _ _ _ _ _ secondWorld [⟨"a.js"⟩] earlier
    orderly_secondWorld ran history orderly_secondWorld (List.cons_ne_nil _ _) spelled
    fun path differs => absurd rfl differs
  -- The third script, which no reading had on its list, is found by the full one only.
  obtain ⟨_, _, _, listed, -, bringsListed⟩ :=
    history.current.readSome orderly_secondWorld again (List.cons_ne_nil _ _) spelled
  obtain ⟨_, _, _, whole, -, bringsWhole⟩ :=
    history.current.readAll orderly_secondWorld (.inr (.inl rfl))
  rw [ran', Prod.mk.injEq, Prod.mk.injEq] at listed
  rw [ranAll, Prod.mk.injEq, Prod.mk.injEq] at whole
  have left := bringsListed.entries ⟨"c.js"⟩
  have right := bringsWhole.entries ⟨"c.js"⟩
  have outside : covers [(⟨"a.js"⟩ : Path)] ⟨"c.js"⟩ = false := by cbv
  have stored : secondWorld.disk.files.entry? ⟨"c.js"⟩ = some (⟨"c.js"⟩, "__('C')") := by cbv
  -- One reading leaves the third script out, and the other has its text.
  rw [← listed.2.1, outside, if_neg Bool.false_ne_true, untracked] at left
  rw [← whole.2.1, left, if_pos rfl, stored, wanted, Option.filter_some, source] at right
  cases right

end Session

end MessageCatalog
