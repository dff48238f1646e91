import MessageCatalog.Proofs.Session.Bundle

/-! Bundles that have been written are known, and known ones are not written again. -/

namespace MessageCatalog

namespace WriteCache

variable {δ : Type} [Disk δ] {view : DiskView δ} {cache updated : WriteCache} {path : Path}
  {text : String} {world later : World δ} {outcome : Outcome Bool}

/-- The text that a file was given is known. -/
theorem Gives.known {written : Bool}
    (gives : Gives view cache path text world (.ok written) updated later) :
    updated.get? path = some text := by
  have inserted : (cache.insert path text).get? path = some text := by
    rw [SortedMap.get?_insert, if_pos Std.ReflCmp.compare_self]
  cases gives with
  | cached known => exact known
  | found => exact inserted
  | put => exact inserted

/-- The text of a file stays known while another file is given a text, or the same file that text. -/
theorem Gives.keeps (gives : Gives view cache path text world outcome updated later) {other : Path}
    {known : String} (agrees : compare other path = .eq → known = text)
    (held : cache.get? other = some known) : updated.get? other = some known := by
  -- What is known at the same file is the text that is entered.
  have inserted : (cache.insert path text).get? other = some known := by
    rw [SortedMap.get?_insert]
    split
    · rename_i equal
      rw [agrees equal]
    · exact held
  cases gives with
  | cached => exact held
  | found => exact inserted
  | put => exact inserted
  | failed => exact held

end WriteCache

namespace Session

/-- The session knows that a file has a text. -/
def KnowsText (session : Session) (file : Path × String) : Prop :=
  (bundleCache (targetOf file.1) session).get? file.1 = some file.2

/-- Files of the same path have the same text. -/
def Consistent (files : List (Path × String)) : Prop :=
  ∀ file ∈ files, ∀ other ∈ files, compare file.1 other.1 = .eq → file.2 = other.2

section

variable {session after : Session} {file : Path × String} {files : List (Path × String)}

/-- The cache of a target after that of some target was set. -/
theorem bundleCache_setBundleCache (target other : Path) (session : Session) (cache : WriteCache) :
    bundleCache other (setBundleCache target session cache) =
      if compare other target = .eq then cache else bundleCache other session := by
  rw [bundleCache, setBundleCache, SortedMap.get?_insert]
  split <;> rfl

/-- A session in which a text is known does not change when its cache is set to what it is. -/
theorem setBundleCache_eq_self (known : session.KnowsText file) :
    setBundleCache (targetOf file.1) session (bundleCache (targetOf file.1) session) = session := by
  cases cached : session.bundleCaches.get? (targetOf file.1) with
  | none =>
    rw [KnowsText, bundleCache, cached] at known
    cases known
  | some cache =>
    rw [bundleCache, cached, Option.getD_some, setBundleCache, SortedMap.insert_eq_self cached]

variable {σ : Type} [FileSystem (StateM σ)] [Console (StateM σ)]

/-- A known text is neither read nor written. -/
theorem runOn_writeBundle_of_known (known : session.KnowsText file) (world : σ) :
    runOn (writeBundle file) session world = (.ok false, session, world) := by
  -- The text is known, so the file is not looked at.
  have skipped : (WriteCache.writeIfChanged (bundleCache (targetOf file.1) session) file.1 file.2 :
      StateM σ (Outcome Bool × WriteCache)).run world =
        ((.ok false, bundleCache (targetOf file.1) session), world) := by
    unfold WriteCache.writeIfChanged
    rw [if_pos (show (bundleCache (targetOf file.1) session).get? file.1 = some file.2 from known)]
    rfl
  rw [writeBundle, runOn_writeCached skipped, setBundleCache_eq_self known]

/-- Writing files that are all known does nothing. -/
theorem runOn_writeBundleFiles_of_known (known : ∀ file ∈ files, session.KnowsText file)
    (world : σ) : runOn (writeBundleFiles files) session world = (.ok (), session, world) := by
  induction files with
  | nil => rfl
  | cons file files ih =>
    rw [runOn_writeBundleFiles_cons, runOn_writeBundle_of_known (known file (.head _))]
    exact ih fun other member => known other (.tail _ member)

end

section

variable {session after : Session} {files : List (Path × String)}

/-- Counts of writes do not matter to what is known of bundles. -/
theorem KnowsText.of_kept {file : Path × String} (known : session.KnowsText file)
    (kept : after.bundleCaches = session.bundleCaches) : after.KnowsText file := by
  rw [KnowsText, bundleCache, kept]
  exact known

variable {δ : Type} [Disk δ] (view : DiskView δ) {world later : World δ}

include view

/-- Writing files of bundles, also when it fails on the way, makes no directories but theirs. -/
theorem follows_of_writeBundleFiles {outcome : Outcome Unit}
    (ran : runOn (writeBundleFiles files) session world = (outcome, after, later)) :
    Disk.Follows (fun path => ∃ file ∈ files, path = file.1) world.disk later.disk := by
  -- By induction on the files, up to the one that cannot be written.
  induction files generalizing session world with
  | nil =>
    cases ran
    exact .refl
  | cons file files ih =>
    -- Writing one file touches that file and its directory only, whatever comes of it.
    have first {result : Outcome Bool} {between : Session} {middle : World δ}
        (wrote : runOn (writeBundle file) session world = (result, between, middle)) :
        Disk.Follows (fun path => ∃ other ∈ file :: files, path = other.1) world.disk
          middle.disk := by
      obtain ⟨_, -, gives⟩ := gives_of_writeCached view wrote
      exact gives.follows.mono fun path same => ⟨file, .head _, same⟩
    rcases writeBundleFiles_cases ran with ⟨_, -, wrote⟩ | ⟨_, _, _, wrote, rest⟩
    · exact first wrote
    · refine (first wrote).trans ((ih rest).mono ?_)
      rintro path ⟨other, member, same⟩
      exact ⟨other, .tail _ member, same⟩

/-- The text of a bundle is known when it has been written. -/
theorem knowsText_of_writeBundle {file : Path × String} {written : Bool}
    (ran : runOn (writeBundle file) session world = (.ok written, after, later)) :
    after.KnowsText file := by
  obtain ⟨updated, rfl, gives⟩ := gives_of_writeCached view ran
  rw [KnowsText, bundleCache_setBundleCache, if_pos Std.ReflCmp.compare_self]
  exact gives.known

/-- Writing a bundle keeps what is known of files that agree with it. -/
theorem KnowsText.writeBundle {file other : Path × String} {outcome : Outcome Bool}
    (known : session.KnowsText other) (agrees : compare other.1 file.1 = .eq → other.2 = file.2)
    (ran : runOn (writeBundle file) session world = (outcome, after, later)) :
    after.KnowsText other := by
  obtain ⟨updated, rfl, gives⟩ := gives_of_writeCached view ran
  rw [KnowsText, bundleCache_setBundleCache]
  -- Another file of the same target shares the cache, and those of other targets do not.
  split
  · rename_i same
    refine gives.keeps agrees ?_
    rw [bundleCache, ← SortedMap.get?_congr same]
    exact known
  · exact known

/-- Writing files keeps what is known of files that agree with them. -/
theorem KnowsText.writeBundleFiles {file : Path × String} {outcome : Outcome Unit}
    (known : session.KnowsText file)
    (agrees : ∀ other ∈ files, compare file.1 other.1 = .eq → file.2 = other.2)
    (ran : runOn (writeBundleFiles files) session world = (outcome, after, later)) :
    after.KnowsText file := by
  -- By induction on the files: another file spares the text, and the same one has it again.
  induction files generalizing session world with
  | nil =>
    cases ran
    exact known
  | cons first files ih =>
    have agrees' := agrees first (.head _)
    rcases writeBundleFiles_cases ran with ⟨_, -, wrote⟩ | ⟨_, _, _, wrote, rest⟩
    · exact known.writeBundle view agrees' wrote
    · refine ih ((known.writeBundle view agrees' wrote).of_kept ?_)
        (fun other member => agrees other (.tail _ member)) rest
      rfl

/-- After files were written that do not contradict each other, all of them are known. -/
theorem knowsText_of_writeBundleFiles (consistent : Consistent files)
    (ran : runOn (writeBundleFiles files) session world = (.ok (), after, later)) :
    ∀ file ∈ files, after.KnowsText file := by
  induction files generalizing session world with
  | nil => exact nofun
  | cons first files ih =>
    rcases writeBundleFiles_cases ran with ⟨_, ⟨⟩, _⟩ | ⟨_, _, _, wrote, rest⟩
    refine List.forall_mem_cons.2 ⟨?_, ih (fun file member other member' =>
      consistent file (.tail _ member) other (.tail _ member')) rest⟩
    -- What follows agrees with the first file.
    refine KnowsText.writeBundleFiles view ((knowsText_of_writeBundle view wrote).of_kept ?_)
      (fun other member => consistent first (.head _) other (.tail _ member)) rest
    rfl

end

end Session

end MessageCatalog
