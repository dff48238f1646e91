import Mathlib
import MessageCatalog.Proofs.Disk.Memory
import MessageCatalog.Proofs.Session.FullRead

/-! A reading of listed paths fails where it takes one of them for a source and cannot read it. A
directory is never kept as a source, but one that the patterns match is taken for one. -/

namespace MessageCatalog

/-- A directory is refused to a reader, and not because nothing is there; a path names one however it is
spelled. -/
structure Disk.RefusesDirs {δ : Type} [Disk δ] (disk : δ) : Prop where
  refused : ∀ path, Disk.isDir disk path = true →
    ∃ failure, Disk.read disk path = .error failure ∧ failure.isNotFound = false
  alike : ∀ path other, compare path other = .eq → Disk.isDir disk path = Disk.isDir disk other

namespace Session

section

variable {δ : Type} {origin : Session} {disk : δ} {dir : Path}
  {step first second : SessionM (StateM (World δ)) Bool}

/-- On a disk, and with certain settings, a step fails just when there is trouble. -/
def FailsIf (origin : Session) (disk : δ) (step : SessionM (StateM (World δ)) Bool)
    (trouble : Prop) : Prop :=
  ∀ session world, KeepsRest origin session → world.disk = disk →
    ((∃ failure, (runOn step session world).1 = .error failure) ↔ trouble)

/-- Two steps fail when one of them does; the first one leaves settings and files to the second. -/
theorem FailsIf.either {left right : Prop} (fails : FailsIf origin disk first left)
    (fails' : FailsIf origin disk second right) (reports : Reports first) (keeps : KeepsDisk first) :
    FailsIf origin disk (do let changed ← first; let others ← second; return changed || others)
      (left ∨ right) := by
  intro session world kept same
  have began := fails session world kept same
  rw [runOn_bind]
  -- A failure of the first step ends both.
  rcases ran : runOn first session world with ⟨failure | changed, between, middle⟩
  · rw [ran] at began
    exact iff_of_true ⟨failure, rfl⟩ (.inl (began.1 ⟨failure, rfl⟩))
  · rw [ran] at began
    -- Where the first step went well there was no trouble for it, and the second one decides.
    have calm : ¬ left := fun trouble => by
      obtain ⟨failure, failed⟩ := began.2 trouble
      cases failed
    have ended := fails' between middle (kept.trans (reports.keepsRest.of_ran ran))
      ((keeps.of_ran ran).trans same)
    rw [or_iff_right calm, ← ended]
    dsimp only
    rw [runOn_bind]
    rcases runOn second between middle with ⟨failure | others, after, later⟩
    · exact Iff.rfl
    · exact iff_of_false nofun nofun

/-- A step for each path fails when one of the steps does. -/
theorem failsIf_anyChange {step : Path → SessionM (StateM (World δ)) Bool} {trouble : Path → Prop}
    (fails : ∀ path, FailsIf origin disk (step path) (trouble path))
    (reports : ∀ path, Reports (step path)) (keeps : ∀ path, KeepsDisk (step path))
    (paths : List Path) :
    FailsIf origin disk (anyChange step paths) (∃ path ∈ paths, trouble path) := by
  -- By induction on the paths: one step behind another fails when either does.
  induction paths with
  | nil => exact fun _ _ _ _ => iff_of_false nofun nofun
  | cons path paths ih =>
    have both := (fails path).either ih (reports path) (keeps path)
    simp only [List.mem_cons, exists_eq_or_imp]
    exact both

theorem failsIf_dropSource (path : Path) :
    FailsIf origin disk (dropSource path : SessionM (StateM (World δ)) Bool) False := by
  intro session world _ _
  rcases ran : runOn (dropSource path) session world with ⟨outcome, after, later⟩
  obtain ⟨⟨changed, rfl⟩, -⟩ := dropSource_ok ran
  exact iff_of_false nofun nofun

/-- On a disk, a step takes no path that equals a certain one into the sources, whatever its outcome. -/
def LeavesOut (disk : δ) (dir : Path) (step : SessionM (StateM (World δ)) Bool) : Prop :=
  ∀ session world, world.disk = disk → session.isTracked dir = false →
    (runOn step session world).2.1.isTracked dir = false

theorem LeavesOut.either (left : LeavesOut disk dir first) (right : LeavesOut disk dir second)
    (keeps : KeepsDisk first) :
    LeavesOut disk dir (do
      let changed ← first
      let others ← second
      return changed || others) := by
  intro session world same untracked
  -- The first step leaves the path out, and so does the second one on the same disk.
  have began := left session world same untracked
  rw [runOn_bind]
  rcases ran : runOn first session world with ⟨failure | changed, between, middle⟩
  all_goals rw [ran] at began
  · exact began
  · have ended := right between middle ((keeps.of_ran ran).trans same) began
    dsimp only
    rw [runOn_bind]
    rcases ran' : runOn second between middle with ⟨failure | others, after, later⟩
    all_goals
      rw [ran'] at ended
      exact ended

theorem leavesOut_anyChange {step : Path → SessionM (StateM (World δ)) Bool}
    (each : ∀ path, LeavesOut disk dir (step path)) (keeps : ∀ path, KeepsDisk (step path))
    (paths : List Path) : LeavesOut disk dir (anyChange step paths) := by
  induction paths with
  | nil => exact fun _ _ _ untracked => untracked
  | cons path paths ih => exact (each path).either ih (keeps path)

/-- A path on the list of a step that drops it is no source in the end, where the steps for the others
leave it out. -/
theorem untracked_of_anyChange {step : Path → SessionM (StateM (World δ)) Bool}
    (each : ∀ path, LeavesOut disk dir (step path)) (keeps : ∀ path, KeepsDisk (step path))
    (drops : ∀ session after world later changed, world.disk = disk →
      runOn (step dir) session world = (.ok changed, after, later) → after.isTracked dir = false)
    {paths : List Path} (listed : dir ∈ paths) {session after : Session} {world later : World δ}
    {changed : Bool} (same : world.disk = disk)
    (ran : runOn (anyChange step paths) session world = (.ok changed, after, later)) :
    after.isTracked dir = false := by
  -- By induction on the paths; once the path was dropped, the steps behind it leave it out.
  induction paths generalizing session world changed with
  | nil => cases listed
  | cons path paths ih =>
    obtain ⟨first, between, middle, began, rest⟩ := runOn_bind_eq_ok ran
    obtain ⟨others, last, latest, ended, told⟩ := runOn_bind_eq_ok rest
    cases told
    have same' : middle.disk = disk := ((keeps path).of_ran began).trans same
    cases listed with
    | head =>
      have dropped := drops _ _ _ _ _ same began
      have left := leavesOut_anyChange each keeps paths between middle same' dropped
      rwa [ended] at left
    | tail _ later => exact ih later same' ended

/-- Dropping a file leaves it untracked. -/
theorem untracked_of_dropSource {path : Path} {session after : Session} {world later : World δ}
    {changed : Bool} (ran : runOn (dropSource path) session world = (.ok changed, after, later)) :
    after.isTracked path = false := by
  rw [isTracked, (dropSource_ok ran).2, SortedMap.contains_erase,
    (Std.ReflCmp.compare_self : compare path path = .eq), Bool.and_comm]
  rfl

theorem leavesOut_dropSource (path : Path) :
    LeavesOut disk dir (dropSource path : SessionM (StateM (World δ)) Bool) := by
  intro session world _ untracked
  rcases ran : runOn (dropSource path) session world with ⟨outcome, after, later⟩
  rw [isTracked] at untracked ⊢
  rw [(dropSource_ok ran).2, SortedMap.contains_erase, untracked, Bool.false_and]

variable [Disk δ]

/-- Loading a file fails when it is there and cannot be read. -/
theorem failsIf_loadSource (path : Path) :
    FailsIf origin disk (loadSource path) (¬ Readable disk path) := by
  intro session world _ same
  rcases ran : runOn (loadSource path) session world with ⟨outcome, after, later⟩
  rw [← same, ← loadSource_ok_iff ran]
  cases outcome with
  | error failure => exact iff_of_true ⟨failure, rfl⟩ nofun
  | ok changed => exact iff_of_false nofun fun fails => fails ⟨changed, rfl⟩

/-- Taking up a path fails when it is a source that is there and cannot be read. -/
theorem failsIf_takeUp (path : Path) :
    FailsIf origin disk (takeUp path) (origin.isSource path = true ∧ ¬ Readable disk path) := by
  intro session world kept same
  have alike : session.isSource path = origin.isSource path := by
    rw [kept]
    rfl
  rw [runOn_takeUp, alike]
  -- A source is loaded, and any other path is dropped, which does not fail.
  by_cases source : origin.isSource path = true
  · rw [if_pos source, failsIf_loadSource path session world kept same]
    exact ⟨fun unreadable => ⟨source, unreadable⟩, And.right⟩
  · rw [if_neg source, failsIf_dropSource path session world kept same]
    exact iff_of_false id fun trouble => source trouble.1

/-- Reading some paths fails just when one of them is a source that is there and cannot be read. -/
theorem read_some_fails_iff {session : Session} {world : World δ} {paths : List Path}
    (again : session.hasRead = true) (nonempty : paths ≠ []) :
    (∃ failure, (runOn (read (some paths)) session world).1 = .error failure) ↔
      ∃ path ∈ paths, Disk.isThere world.disk path = true ∧ session.isSource path = true ∧
        ¬ Readable world.disk path := by
  -- Dropping what is gone cannot fail, and taking up what is there fails where it cannot be read.
  have dropping : FailsIf session world.disk _ _ := failsIf_anyChange failsIf_dropSource
    reports_dropSource keepsDisk_dropSource (paths.filter (!Disk.isThere world.disk ·))
  have taking : FailsIf session world.disk _ _ := failsIf_anyChange failsIf_takeUp
    reports_takeUp keepsDisk_takeUp (paths.filter (Disk.isThere world.disk ·))
  have fails := dropping.either taking (reports_anyChange reports_dropSource _)
    (keepsDisk_anyChange keepsDisk_dropSource _) { session with hasRead := true } world (by
      rw [← again]
      rfl) rfl
  rw [← runOn_readSome, ← readChanges_paths again nonempty] at fails
  -- Making the index anew, which comes behind the paths, does not fail.
  have told : (∃ failure, (runOn (read (some paths)) session world).1 = .error failure) ↔
      ∃ failure, (runOn (readChanges (some paths) !session.hasRead)
        { session with hasRead := true } world).1 = .error failure := by
    rw [runOn_read]
    rcases runOn (readChanges (some paths) !session.hasRead) { session with hasRead := true } world
      with ⟨failure | changes, between, later⟩
    · exact Iff.rfl
    · dsimp only
      split <;> exact iff_of_false nofun nofun
  rw [told, fails]
  simp only [List.mem_filter, and_false, exists_false, false_or, and_assoc]

/-- No file that the input patterns lead to is a directory. -/
theorem isDir_of_mem_sourceFiles {session : Session} {files : List Path}
    (found : session.sourceFiles disk = .ok files) {path : Path} (member : path ∈ files) :
    Disk.isDir disk path = false := by
  obtain ⟨matching, -, rfl⟩ := exists_of_sourceFiles found
  have passes := (List.mem_filter.1 (SortedSet.mem_of_mem_ofElements member)).2
  simpa using passes

variable (refuses : Disk.RefusesDirs disk) (isDir : Disk.isDir disk dir = true)

include refuses isDir

/-- A directory cannot be read. -/
theorem not_readable_of_isDir : ¬ Readable disk dir := by
  intro readable
  obtain ⟨failure, unread, present⟩ := refuses.refused dir isDir
  rw [readable failure unread] at present
  cases present

/-- Loading a file takes no directory into the sources. -/
theorem leavesOut_loadSource (path : Path) : LeavesOut disk dir (loadSource path) := by
  intro session world same untracked
  rcases ran : runOn (loadSource path) session world with ⟨outcome, after, later⟩
  rw [isTracked] at untracked ⊢
  rcases loadSource_cases ran with
    ⟨text, _, read, -, sources⟩ | ⟨_, _, -, -, -, sources⟩ | ⟨_, -, -, -, rfl⟩
  · -- What could be read is no directory, and so it is another path.
    have apart : ¬ compare dir path = .eq := by
      intro equal
      rw [refuses.alike dir path equal] at isDir
      obtain ⟨failure, unread, -⟩ := refuses.refused path isDir
      rw [← same, read] at unread
      cases unread
    rw [sources, SortedMap.contains_insert, untracked]
    simp [apart]
  · -- A path that is dropped, or left alone, adds nothing.
    rw [sources, SortedMap.contains_erase, untracked, Bool.false_and]
  · exact untracked

theorem leavesOut_takeUp (path : Path) : LeavesOut disk dir (takeUp path) := by
  intro session world same untracked
  rw [runOn_takeUp]
  split
  · exact leavesOut_loadSource refuses isDir path session world same untracked
  · exact leavesOut_dropSource path session world same untracked

/-- Reading some paths with success leaves no directory among them in the sources. -/
theorem untracked_of_readSome {paths : List Path} (listed : dir ∈ paths) {session after : Session}
    {world later : World δ} {changed : Bool} (same : world.disk = disk)
    (ran : runOn (readSome paths) session world = (.ok changed, after, later)) :
    after.isTracked dir = false := by
  rw [runOn_readSome, same] at ran
  -- The directory is among what is gone, or among what is there.
  obtain ⟨dropped, between, middle, began, rest⟩ := runOn_bind_eq_ok ran
  obtain ⟨taken, last, latest, ended, told⟩ := runOn_bind_eq_ok rest
  cases told
  have same' : middle.disk = disk :=
    ((keepsDisk_anyChange keepsDisk_dropSource _).of_ran began).trans same
  cases there : Disk.isThere disk dir with
  | false =>
    -- It was dropped with those that are gone, and is not taken up.
    have gone := untracked_of_anyChange leavesOut_dropSource keepsDisk_dropSource
      (fun _ _ _ _ _ _ => untracked_of_dropSource)
      (List.mem_filter.2 ⟨listed, by simp [there]⟩) same began
    have left := leavesOut_anyChange (leavesOut_takeUp refuses isDir) keepsDisk_takeUp
      (paths.filter (Disk.isThere disk ·)) between middle same' gone
    rwa [ended] at left
  | true =>
    refine untracked_of_anyChange (leavesOut_takeUp refuses isDir) keepsDisk_takeUp
      (fun session after world later changed same took => ?_)
      (List.mem_filter.2 ⟨listed, there⟩) same' ended
    -- To take it up as a source would have failed.
    have fails : FailsIf session disk (takeUp dir) _ := failsIf_takeUp dir
    have calm := fails session world rfl same
    rw [took] at calm
    have other : session.isSource dir = false := by
      rw [Bool.eq_false_iff]
      intro source
      obtain ⟨failure, failed⟩ := calm.2 ⟨source, not_readable_of_isDir refuses isDir⟩
      cases failed
    rw [runOn_takeUp, other] at took
    exact untracked_of_dropSource took

/-- Reading every source with success leaves no directory in the sources. -/
theorem untracked_of_readAll {session after : Session} {world later : World δ} {changed : Bool}
    (same : world.disk = disk) (ran : runOn readAll session world = (.ok changed, after, later)) :
    after.isTracked dir = false := by
  rw [runOn_readAll, same] at ran
  cases found : session.sourceFiles disk with
  | error failure =>
    rw [found] at ran
    cases ran
  | ok files =>
    rw [found] at ran
    -- Both parts succeeded: dropping what is not found, and then loading what is.
    obtain ⟨dropped, between, middle, began, rest⟩ := runOn_bind_eq_ok ran
    obtain ⟨loaded, last, latest, ended, told⟩ := runOn_bind_eq_ok rest
    cases told
    have same' : middle.disk = disk :=
      ((keepsDisk_anyChange keepsDisk_dropSource _).of_ran began).trans same
    have left := leavesOut_anyChange (leavesOut_loadSource refuses isDir) keepsDisk_loadSource files
      between middle same'
    rw [ended] at left
    apply left
    -- What was held and not dropped was found, and no directory is.
    rw [isTracked, SortedMap.contains, sources_dropAll began, ← Bool.not_eq_true,
      Option.isSome_iff_exists]
    rintro ⟨file, held⟩
    obtain ⟨kept, before⟩ := entry?_foldl_erase held
    obtain ⟨inside, equal⟩ := SortedMap.entry?_eq_some_iff.1 before
    refine kept file.1 (List.mem_filter.2 ⟨List.mem_map_of_mem inside, ?_⟩) equal
    rw [Bool.not_eq_true', ← Bool.not_eq_true, List.any_eq_true]
    rintro ⟨other, member, alike⟩
    have plain := isDir_of_mem_sourceFiles found member
    rw [← refuses.alike dir other (Std.TransCmp.eq_trans equal (beq_iff_eq.1 alike)), isDir] at plain
    cases plain

/-- A reading takes no directory into the sources, whatever its outcome. -/
theorem leavesOut_read (changed : Option (List Path)) : LeavesOut disk dir (read changed) := by
  intro session world same untracked
  -- Dropping adds nothing, and loading or taking up takes no directory.
  have whole : LeavesOut disk dir readAll := by
    intro session world same untracked
    rw [runOn_readAll, same]
    cases session.sourceFiles disk with
    | error failure => exact untracked
    | ok files =>
      exact (leavesOut_anyChange leavesOut_dropSource keepsDisk_dropSource _).either
        (leavesOut_anyChange (leavesOut_loadSource refuses isDir) keepsDisk_loadSource files)
        (keepsDisk_anyChange keepsDisk_dropSource _) session world same untracked
  have some (paths : List Path) : LeavesOut disk dir (readSome paths) := by
    intro session world same untracked
    rw [runOn_readSome]
    exact (leavesOut_anyChange leavesOut_dropSource keepsDisk_dropSource _).either
      (leavesOut_anyChange (leavesOut_takeUp refuses isDir) keepsDisk_takeUp _)
      (keepsDisk_anyChange keepsDisk_dropSource _) session world same untracked
  -- What comes behind the texts makes the index, and leaves the sources as they are.
  have left : LeavesOut disk dir (readChanges changed !session.hasRead) := by
    unfold readChanges
    split
    · exact whole
    · exact some _
  have left := left { session with hasRead := true } world same untracked
  rcases ran : runOn (read changed) session world with ⟨outcome, after, later⟩
  rcases read_cases ran with ⟨_, -, went⟩ | ⟨-, -, -, went⟩ | ⟨_, _, _, -, went, last, -⟩
  · -- How the reading ends makes no difference to the texts that are held.
    rwa [went] at left
  · rwa [went] at left
  · rw [went] at left
    rw [last]
    exact left

end

/-- Reading listed paths fails just where one of them is a source that is there and cannot be read. Where
no directory among them is matched by the patterns, that one is no directory. No reading takes a
directory into the sources; one of listed paths that succeeds leaves none of those listed there, and one
of every source leaves none at all. -/
theorem read_some_among_dirs {δ : Type} [Disk δ] {session : Session} {world : World δ}
    {paths : List Path} (refuses : Disk.RefusesDirs world.disk) (again : session.hasRead = true)
    (nonempty : paths ≠ []) :
    ((∃ failure, (runOn (read (some paths)) session world).1 = .error failure) ↔
      ∃ path ∈ paths, Disk.isThere world.disk path = true ∧ session.isSource path = true ∧
        ¬ Readable world.disk path) ∧
    ((∀ path ∈ paths, Disk.isDir world.disk path = true → session.isSource path = false) →
      ∀ failure, (runOn (read (some paths)) session world).1 = .error failure →
        ∃ path ∈ paths, Disk.isDir world.disk path = false ∧ Disk.isThere world.disk path = true ∧
          ¬ Readable world.disk path) ∧
    (∀ changed dir, Disk.isDir world.disk dir = true → session.isTracked dir = false →
      (runOn (read changed) session world).2.1.isTracked dir = false) ∧
    (∀ changes after later,
      runOn (read (some paths)) session world = (.ok changes, after, later) →
      ∀ dir ∈ paths, Disk.isDir world.disk dir = true → after.isTracked dir = false) ∧
    ∀ changes after later, runOn (read none) session world = (.ok changes, after, later) →
      ∀ dir, Disk.isDir world.disk dir = true → after.isTracked dir = false := by
  refine ⟨read_some_fails_iff again nonempty, fun unmatched failure failed => ?_,
    fun changed dir isDir => leavesOut_read refuses isDir changed session world rfl,
    fun changes after later ran dir listed isDir => ?_, fun changes after later ran dir isDir => ?_⟩
  · obtain ⟨path, listed, there, source, unreadable⟩ :=
      (read_some_fails_iff again nonempty).1 ⟨failure, failed⟩
    refine ⟨path, listed, ?_, there, unreadable⟩
    -- A directory that fails would be a source, and so the patterns would match it.
    rw [Bool.eq_false_iff]
    intro isDir
    rw [unmatched path listed isDir] at source
    cases source
  · obtain ⟨told, between, middle, went, same⟩ := exists_of_read_ok ran
    rw [readChanges_paths again nonempty] at went
    rw [isTracked, same]
    exact untracked_of_readSome refuses isDir listed rfl went
  · obtain ⟨told, between, middle, went, same⟩ := exists_of_read_ok ran
    rw [readChanges_whole (.inr (.inl rfl))] at went
    rw [isTracked, same]
    exact untracked_of_readAll refuses isDir rfl went

/-- In memory, directories are refused where reading each of them meets trouble. -/
theorem refusesDirs_of_hindered {disk : MemoryDisk}
    (hindered : ∀ dir ∈ disk.dirs.elements, (disk.hindrances.find? (·.concerns .read dir)).any
      (·.trouble != .notFound) = true) : Disk.RefusesDirs disk where
  refused path isDir := by
    obtain ⟨dir, member, equal⟩ := SortedMap.contains_iff.1 (isDir : disk.hasDir path = true)
    -- Trouble with a directory is met however its path is spelled.
    have components : path.components = dir.components := Std.LawfulEqOrd.eq_of_compare equal
    have alike : (fun hindrance : Hindrance => hindrance.concerns .read path) =
        (·.concerns .read dir) := by
      funext hindrance
      rw [Hindrance.concerns, Hindrance.concerns, Path.same, Path.same, components]
    obtain ⟨hindrance, found, trouble⟩ := (Option.any_eq_true _ _).1 (hindered dir member)
    refine ⟨.of (.file ⟨hindrance.trouble, "injected read fault: " ++ path.text⟩), ?_, ?_⟩
    · rw [MemoryDisk.read_eq, MemoryDisk.attempt, alike, found]
      rfl
    · simpa [Failure.isNotFound, Failure.of] using trouble
  alike _ _ equal := MemoryDisk.hasDir_congr equal

/-- A session on all that lies in a directory, as it begins. -/
private def shelfSession : Session :=
  begun { input := ["src/*"] } [⟨"src/*", [.char 's', .char 'r', .char 'c', .char '/', .anySequence]⟩] []
    ⟨"locales"⟩ none

/-- A script beside a directory that the pattern matches as well, and a directory elsewhere. -/
private def openShelf : World MemoryDisk where
  disk := {
    files := .ofList [(⟨"src/a.js"⟩, "__('A')")]
    dirs := .ofElements [⟨"src"⟩, ⟨"src/sub"⟩, ⟨"assets"⟩]
    hindrances := [⟨⟨"src"⟩, .read, .isADirectory⟩, ⟨⟨"src/sub"⟩, .read, .isADirectory⟩,
      ⟨⟨"assets"⟩, .read, .isADirectory⟩] }

/-- The script cannot be read. -/
private def lockedShelf : World MemoryDisk := openShelf.forbid .read ⟨"src/a.js"⟩

/-- The session after it has read the script. -/
private def readShelf : Session := (runOn (read none) shelfSession openShelf).2.1

private theorem read_openShelf : (runOn (read none) shelfSession openShelf).1 = .ok true := by cbv

private theorem hasRead_readShelf : readShelf.hasRead = true := by
  show (runOn (read none) shelfSession openShelf).2.1.hasRead = true
  rw [keepsRest_of_read (runOn_eq read_openShelf)]

/-- What counts as a source is not changed by the reading. -/
private theorem isSource_readShelf (path : Path) : readShelf.isSource path = shelfSession.isSource path := by
  show (runOn (read none) shelfSession openShelf).2.1.isSource path = _
  rw [keepsRest_of_read (runOn_eq read_openShelf)]
  rfl

private theorem refusesDirs_shelf : Disk.RefusesDirs openShelf.disk :=
  refusesDirs_of_hindered (by decide)

/-- A directory that no pattern matches stands by while a script cannot be read. -/
theorem read_some_among_dirs_locked :
    Disk.RefusesDirs lockedShelf.disk ∧ readShelf.hasRead = true ∧
      (∃ failure, (runOn (read (some [⟨"assets"⟩, ⟨"src/a.js"⟩])) readShelf lockedShelf).1 =
        .error failure) ∧
      ∃ path ∈ [(⟨"assets"⟩ : Path), ⟨"src/a.js"⟩], Disk.isDir lockedShelf.disk path = false ∧
        Disk.isThere lockedShelf.disk path = true ∧ ¬ Readable lockedShelf.disk path := by
  have refuses : Disk.RefusesDirs lockedShelf.disk := refusesDirs_of_hindered (by decide)
  have source : shelfSession.isSource ⟨"src/a.js"⟩ = true := by cbv
  have plainDir : shelfSession.isSource ⟨"assets"⟩ = false := by cbv
  -- The script is there but locked, and the directory is passed over.
  have unreadable : ¬ Readable lockedShelf.disk ⟨"src/a.js"⟩ := fun readable => by
    cases readable _ (rfl : Disk.read lockedShelf.disk ⟨"src/a.js"⟩ = .error
      (.of (.file ⟨.permissionDenied, "injected read fault: src/a.js"⟩)))
  obtain ⟨fails, plain, -⟩ := read_some_among_dirs refuses hasRead_readShelf
    (List.cons_ne_nil (⟨"assets"⟩ : Path) [⟨"src/a.js"⟩])
  obtain ⟨failure, failed⟩ := fails.2 ⟨⟨"src/a.js"⟩, .tail _ (.head _), by decide,
    (isSource_readShelf _).trans source, unreadable⟩
  refine ⟨refuses, hasRead_readShelf, ⟨failure, failed⟩, plain (fun path listed isDir => ?_) failure failed⟩
  rcases List.mem_cons.1 listed with rfl | listed
  · rw [isSource_readShelf, plainDir]
  · cases List.mem_singleton.1 listed
    cases isDir

/-- A directory on the list breaks a reading when the patterns match it, right after a reading of every
source that has succeeded. -/
theorem not_read_some_among_dirs :
    ¬ ∀ (config : Config) (start session : Session) (dawn dusk world middle : World MemoryDisk)
      (changes : Bool) (paths : List Path) (failure : Failure),
      (new config : StateM (World MemoryDisk) (Outcome Session)).run dawn = (.ok start, dusk) →
        Disk.RefusesDirs world.disk →
        runOn (read none) start world = (.ok changes, session, middle) →
        (runOn (read (some paths)) session world).1 = .error failure →
        ∃ path ∈ paths, Disk.isDir world.disk path = false ∧ Disk.isThere world.disk path = true ∧
          ¬ Readable world.disk path := by
  intro claimed
  have made : (new shelfSession.config : StateM (World MemoryDisk) (Outcome Session)).run
      openShelf = (.ok shelfSession, openShelf) :=
    run_new_of_compiled (by cbv) (by cbv) rfl rfl openShelf
  have source : readShelf.isSource ⟨"src/sub"⟩ = true := (isSource_readShelf _).trans (by cbv)
  -- The pattern for scripts matches the name of the directory.
  have isDir : Disk.isDir openShelf.disk ⟨"src/sub"⟩ = true := by decide
  obtain ⟨failure, failed⟩ : ∃ failure,
      (runOn (read (some [⟨"src/sub"⟩])) readShelf openShelf).1 = .error failure :=
    (read_some_fails_iff hasRead_readShelf (List.cons_ne_nil _ _)).2
      ⟨_, .head _, by decide, source, not_readable_of_isDir refusesDirs_shelf isDir⟩
  -- The one listed path is a directory, and so it is no file that could not be read.
  obtain ⟨path, listed, plain, -⟩ := claimed _ _ _ _ _ _ _ _ _ _ made refusesDirs_shelf
    (runOn_eq read_openShelf) failed
  cases List.mem_singleton.1 listed
  rw [isDir] at plain
  cases plain

end Session

end MessageCatalog
