import MessageCatalog.Proofs.Session.Catalog
import MessageCatalog.Proofs.Session.FirstRead

/-! A reading of every source leaves the texts that are found, whatever texts were held before. -/

namespace MessageCatalog

namespace Session

/-- The files of a session that are found again are spelled as they are held. -/
def SpelledAlike {δ : Type} [Disk δ] (session : Session) (disk : δ) : Prop :=
  ∀ files, session.sourceFiles disk = .ok files → ∀ path ∈ files, ∀ file,
    session.sources.entry? path = some file → file.1 = path

/-- Dropping files leaves the texts of the others. -/
theorem sources_dropAll {σ : Type} [Console (StateM σ)] {paths : List Path} {session after : Session}
    {world later : σ} {changes : Bool}
    (ran : runOn (anyChange dropSource paths) session world = (.ok changes, after, later)) :
    after.sources = paths.foldl SortedMap.erase session.sources := by
  -- By induction on the paths; to drop one is to erase it, tracked or not.
  induction paths generalizing session world changes with
  | nil =>
    cases ran
    rfl
  | cons path paths ih =>
    obtain ⟨first, between, middle, dropped, rest⟩ := runOn_bind_eq_ok ran
    obtain ⟨others, last, latest, droppedAll, told⟩ := runOn_bind_eq_ok rest
    cases told
    rw [ih droppedAll, List.foldl_cons, (dropSource_ok dropped).2]

section

variable {δ : Type} [Disk δ] {view : DiskView δ} {disk : δ} {sources others : SortedMap Path String}
  {path : Path} {files : List Path}

/-- A file that is brought up to date is held with its text, and all others are as they were. -/
theorem entry?_withFile (spelled : ∀ file, sources.entry? path = some file → file.1 = path)
    (other : Path) :
    SortedMap.entry? (withFile view disk sources path) other =
      if compare other path = .eq then (view.text? disk path).map (path, ·)
      else sources.entry? other := by
  rw [withFile]
  -- Without a text the path goes; a text is entered under the spelling that the path has.
  cases view.text? disk path with
  | none => exact SortedMap.entry?_erase sources path other
  | some text =>
    have kept : ((sources.entry? path).map Prod.fst).getD path = path := by
      cases held : sources.entry? path with
      | none => rfl
      | some file => exact spelled file held
    dsimp only
    rw [SortedMap.entry?_insert, kept]
    rfl

/-- What files are brought up to does not depend on what was held of them. -/
theorem foldl_withFile_congr (ascending : files.Pairwise fun a b => compare a b = .lt)
    (spelled : ∀ path ∈ files, ∀ file, sources.entry? path = some file → file.1 = path)
    (spelled' : ∀ path ∈ files, ∀ file, others.entry? path = some file → file.1 = path)
    (same : ∀ other, (∀ path ∈ files, compare other path ≠ .eq) →
      sources.entry? other = others.entry? other) :
    files.foldl (withFile view disk) sources = files.foldl (withFile view disk) others := by
  -- By induction on the files; one that was brought up to date is the same in both from then on.
  induction files generalizing sources others with
  | nil => exact SortedMap.ext_entry? fun other => same other nofun
  | cons path files ih =>
    rw [List.pairwise_cons] at ascending
    have first := @entry?_withFile _ _ view disk _ _ (spelled path (.head _))
    have first' := @entry?_withFile _ _ view disk _ _ (spelled' path (.head _))
    -- The files ascend, so a later one never equals this one.
    have behind (later : Path) (member : later ∈ files) : compare later path ≠ .eq := by
      intro equal
      cases (ascending.1 later member).symm.trans (Std.OrientedCmp.eq_symm equal)
    refine ih ascending.2 (fun later member file held => ?_) (fun later member file held => ?_)
      fun other apart => ?_
    · rw [first, if_neg (behind later member)] at held
      exact spelled later (.tail _ member) file held
    · rw [first', if_neg (behind later member)] at held
      exact spelled' later (.tail _ member) file held
    · rw [first, first']
      split
      · rfl
      · exact same other (List.forall_mem_cons.2 ⟨‹_›, apart⟩)

variable {session between after : Session} {world middle later : World δ} {changes : Bool}

/-- Where files are dropped, one that is still held is none of them, and is held as it was. -/
theorem entry?_foldl_erase {paths : List Path} {file : Path × String}
    (held : SortedMap.entry? (paths.foldl SortedMap.erase sources) path = some file) :
    (∀ other ∈ paths, compare path other ≠ .eq) ∧ sources.entry? path = some file := by
  -- By induction on the paths, from what is still held at the end.
  induction paths generalizing sources with
  | nil => exact ⟨nofun, held⟩
  | cons first paths ih =>
    obtain ⟨apart, still⟩ := ih held
    rw [SortedMap.entry?_erase] at still
    split at still
    · cases still
    · exact ⟨List.forall_mem_cons.2 ⟨‹_›, apart⟩, still⟩

/-- Loading a file succeeds where it can be read or is not there. -/
theorem loadSource_ok_iff {path : Path} {outcome : Outcome Bool}
    (ran : runOn (loadSource path) session world = (outcome, after, later)) :
    (∃ changed, outcome = .ok changed) ↔ Readable world.disk path := by
  -- The file is read, it is not there, or it is there and cannot be read.
  rcases loadSource_cases ran with
    ⟨_, changed, read, rfl, -⟩ | ⟨_, changed, read, absent, rfl, -⟩ | ⟨failure, read, present, rfl, -⟩
  · refine iff_of_true ⟨changed, rfl⟩ fun failure unread => ?_
    cases read.symm.trans unread
  · refine iff_of_true ⟨changed, rfl⟩ fun failure unread => ?_
    cases read.symm.trans unread
    exact absent
  · refine iff_of_false nofun fun readable => ?_
    cases present.symm.trans (readable failure read)

/-- Loading files succeeds only where each of them can be read. -/
theorem readable_of_loadAll {paths : List Path}
    (ran : runOn (anyChange loadSource paths) session world = (.ok changes, after, later)) :
    ∀ path ∈ paths, Readable world.disk path := by
  -- By induction on the paths; loading one leaves the disk to the others.
  induction paths generalizing session world changes with
  | nil => exact nofun
  | cons path paths ih =>
    obtain ⟨first, between, middle, loads, rest⟩ := runOn_bind_eq_ok ran
    obtain ⟨others, last, latest, loadsAll, told⟩ := runOn_bind_eq_ok rest
    cases told
    have kept : middle.disk = world.disk := (keepsDisk_loadSource path).of_ran loads
    exact List.forall_mem_cons.2 ⟨(loadSource_ok_iff loads).1 ⟨first, rfl⟩, kept ▸ ih loadsAll⟩

/-- Files that can be read are loaded with success. -/
theorem runOn_loadAll_of_readable {paths : List Path}
    (readable : ∀ path ∈ paths, Readable world.disk path) :
    ∃ changes after later, runOn (anyChange loadSource paths) session world =
      (.ok changes, after, later) := by
  -- By induction on the paths; loading one leaves the others readable.
  induction paths generalizing session world with
  | nil => exact ⟨false, session, world, rfl⟩
  | cons path paths ih =>
    rcases loads : runOn (loadSource path) session world with ⟨outcome, between, middle⟩
    obtain ⟨first, rfl⟩ := (loadSource_ok_iff loads).2 (readable path (.head _))
    have kept : middle.disk = world.disk := (keepsDisk_loadSource path).of_ran loads
    obtain ⟨others, after, later, rest⟩ := @ih between middle
      (kept ▸ fun other member => readable other (.tail _ member))
    refine ⟨first || others, after, later, ?_⟩
    rw [anyChange, runOn_bind, loads]
    dsimp only
    rw [runOn_bind, rest]
    rfl

/-- The files that are found come in the order of their paths. -/
theorem ascending_sourceFiles (found : session.sourceFiles disk = .ok files) :
    files.Pairwise fun a b => compare a b = .lt := by
  obtain ⟨matching, -, rfl⟩ := exists_of_sourceFiles found
  exact SortedSet.ascending_elements _

/-- Where what is not found is dropped and what is found is brought up to date, nothing else is held. -/
theorem foldl_withFile_unfound (found : session.sourceFiles disk = .ok files)
    (spelled : session.SpelledAlike disk) :
    files.foldl (withFile view disk)
        ((session.unfound files).foldl SortedMap.erase session.sources) =
      files.foldl (withFile view disk) ∅ := by
  refine foldl_withFile_congr (ascending_sourceFiles found) (fun path member file held => ?_) nofun
    fun path apart => ?_
  · exact spelled files found path member file (entry?_foldl_erase held).2
  · -- What is held but not found has been dropped.
    cases held : SortedMap.entry? ((session.unfound files).foldl SortedMap.erase session.sources) path with
    | none => rfl
    | some file =>
      obtain ⟨kept, before⟩ := entry?_foldl_erase held
      obtain ⟨inside, equal⟩ := SortedMap.entry?_eq_some_iff.1 before
      refine absurd equal (kept file.1 (List.mem_filter.2 ⟨List.mem_map_of_mem inside, ?_⟩))
      rw [Bool.not_eq_true', ← Bool.not_eq_true, List.any_eq_true]
      rintro ⟨other, member, same⟩
      exact apart other member (Std.TransCmp.eq_trans equal (beq_iff_eq.1 same))

/-- A reading of every source that succeeds leaves the texts that are found, and all files that it has
found can be read. -/
theorem sources_of_read_none (honest : view.Honest world.disk)
    (spelled : session.SpelledAlike world.disk)
    (ran : runOn (read none) session world = (.ok changes, after, later)) :
    ∃ files, session.sourceFiles world.disk = .ok files ∧
      (∀ path ∈ files, Readable world.disk path) ∧
      after.sources = files.foldl (withFile view world.disk) ∅ := by
  have all : readChanges none (!session.hasRead) =
      (readAll : SessionM (StateM (World δ)) Bool) := rfl
  have alike : { session with hasRead := true }.sourceFiles world.disk =
      session.sourceFiles world.disk := rfl
  obtain ⟨told, between, middle, read, texts⟩ := exists_of_read_ok ran
  rw [all, runOn_readAll, alike] at read
  -- What is not found is dropped, and then what is found is loaded.
  cases found : session.sourceFiles world.disk with
  | error failure =>
    rw [found] at read
    cases read
  | ok files =>
    rw [found] at read
    obtain ⟨dropped, halfway, mid, drops, rest⟩ := runOn_bind_eq_ok read
    obtain ⟨loaded, last, latest, loads, ended⟩ := runOn_bind_eq_ok rest
    cases ended
    have disk : mid.disk = world.disk :=
      (keepsDisk_anyChange keepsDisk_dropSource _).of_ran drops
    -- What was held was dropped or is loaded over, so the files that are found are all there is.
    refine ⟨files, rfl, disk ▸ readable_of_loadAll loads, ?_⟩
    rw [texts, sources_loadAll (disk ▸ honest) loads, disk, sources_dropAll drops]
    exact foldl_withFile_unfound found spelled

end

end Session

end MessageCatalog
