import MessageCatalog.Proofs.Entry.Merge
import MessageCatalog.Proofs.Source.Lines
import MessageCatalog.Session.Index

/-! An index refers to lines of the texts that it is made from, names messages by their keys, and has the
keys of the files whose scans succeeded. -/

namespace MessageCatalog

open Source (Call Function Named Scan ScanError)

/-- A reference to a line of some source. -/
def Reference.RefersTo (sources : SortedMap Path String) (reference : Reference) : Prop :=
  ∃ source ∈ sources.toList, reference.file = Index.displayName source.1 ∧
    reference.line ≤ source.2.length + 1

namespace Index

variable {test : Reference → Prop}

/-- The use of a message keeps what is known of the messages in use. -/
theorem sound_addCall {live : LiveMessages} (sound : live.Sound test) {file : String} {call : Call}
    (passes : test ⟨file, call.stop.line + 1⟩) : (addCall file live call).Sound test where
  keys := by
    -- A message is entered when its key is new only, and its usages grow by one reference.
    intro key message found
    by_cases known : live.messages.contains call.key = true
    · rw [addCall, SortedMap.insertIfNew, if_pos known] at found
      exact sound.keys found
    · rw [addCall, SortedMap.insertIfNew, if_neg known, SortedMap.get?_insert] at found
      -- A key that is entered is that of the call.
      split at found
      · rename_i same
        cases found
        exact (Std.LawfulEqOrd.eq_of_compare same).symm
      · exact sound.keys found
  usages := by
    -- A reference is the new one, or it was known for its key before.
    intro key usages found reference member
    rw [addCall, SortedMap.get?_insert] at found
    split at found
    · cases found
      rcases SortedMap.mem_keys_insert member with rfl | old
      · exact passes
      · cases earlier : live.usages.get? call.key with
        | none =>
          rw [earlier] at old
          cases old
        | some usages =>
          rw [earlier] at old
          exact sound.usages earlier reference old
    · exact sound.usages found reference member

/-- The uses of messages keep what is known of the messages in use. -/
theorem sound_addCalls {file : String} {calls : List Call}
    (pass : ∀ call ∈ calls, test ⟨file, call.stop.line + 1⟩) {live : LiveMessages}
    (sound : live.Sound test) : (calls.foldl (addCall file) live).Sound test := by
  induction calls generalizing live with
  | nil => exact sound
  | cons call calls ih =>
    rw [List.forall_mem_cons] at pass
    exact ih pass.2 (sound_addCall sound pass.1)

/-- Scans keep what is known of the messages in use. -/
theorem sound_addScans {scans : List (Path × Scan)}
    (pass : ∀ scanned ∈ scans, ∀ calls, scanned.2.result = .ok calls →
      ∀ call ∈ calls, test ⟨displayName scanned.1, call.stop.line + 1⟩)
    {index : Index} (sound : index.live.Sound test) :
    (scans.foldl (fun index (path, scanned) => index.addScan path scanned) index).live.Sound
      test := by
  -- By induction on the scans; one that failed adds no calls.
  induction scans generalizing index with
  | nil => exact sound
  | cons scanned scans ih =>
    rw [List.forall_mem_cons] at pass
    refine ih pass.2 ?_
    dsimp only
    unfold addScan
    split
    · rename_i calls result
      exact sound_addCalls (pass.1 calls result) sound
    · exact sound

/-- The index of sources names messages by their keys, and refers to lines of the sources. -/
theorem sound_ofSources {functions : List Function} (named : Named functions)
    (sources : SortedMap Path String) :
    (ofSources functions sources).live.Sound (Reference.RefersTo sources) := by
  refine sound_addScans ?_ LiveMessages.sound_empty
  intro scanned member calls result call found
  obtain ⟨source, tracked, rfl⟩ := List.mem_map.1 member
  refine ⟨source, tracked, rfl, Nat.succ_le_succ ?_⟩
  rw [← String.length_toList]
  exact Source.line_le_of_scan named result call found

/-- The keys that a scan found, when it succeeded. -/
def scannedKeys (functions : List Function) (text : String) : Option (SortedSet Key) :=
  (Source.scan functions text.toList).result.toOption.map fun calls =>
    .ofElements (calls.map Call.key)

/-- What stopped a scan, when it failed. -/
def scannedFault (functions : List Function) (text : String) : Option ScanError :=
  match (Source.scan functions text.toList).result with
  | .ok _ => none
  | .error fault => some fault

section

variable {ω : Type} {functions : List Function} {part : Index → SortedMap Path ω}
  {told : String → Option ω}

/-- A map of the index that begins without entries, and to which each scan adds what it tells of its file,
has entries for the files whose scans tell something. -/
theorem toList_part (blank : part {} = ∅)
    (adds : ∀ index file text, part (index.addScan file (Source.scan functions text.toList)) =
      (told text).elim (part index) ((part index).insert file)) (sources : SortedMap Path String) :
    (part (ofSources functions sources)).toList = sources.toList.filterMap fun source =>
      (told source.2).map (source.1, ·) := by
  have folded (index : Index) (entries : List (Path × String)) :
      part ((entries.map fun source => (source.1, Source.scan functions source.2.toList)).foldl
        (fun index scanned => index.addScan scanned.1 scanned.2) index) =
        (entries.filterMap fun source => (told source.2).map (source.1, ·)).foldl
          (fun map entry => map.insert entry.1 entry.2) (part index) := by
    -- By induction on the sources; one whose scan tells nothing adds no entry.
    induction entries generalizing index with
    | nil => rfl
    | cons source entries ih =>
      rw [List.map_cons, List.foldl_cons, ih, List.filterMap_cons]
      dsimp only
      rw [adds]
      cases told source.2 <;> rfl
  have gathered : part (ofSources functions sources) =
      .ofList (sources.toList.filterMap fun source => (told source.2).map (source.1, ·)) := by
    have all := folded {} sources.toList
    rw [blank] at all
    exact all
  -- The files come in ascending order, so what is told of them does, too.
  rw [gathered]
  refine SortedMap.toList_ofList (List.pairwise_filterMap.2 ?_)
  refine sources.ascending.imp fun below entry told other told' => ?_
  obtain ⟨_, -, rfl⟩ := Option.map_eq_some_iff.1 told
  obtain ⟨_, -, rfl⟩ := Option.map_eq_some_iff.1 told'
  exact below

end

/-- A file has the keys that the scan of its text found. -/
theorem get?_keysByFile (functions : List Function) (sources : SortedMap Path String) (file : Path) :
    (ofSources functions sources).keysByFile.get? file =
      (sources.get? file).bind (scannedKeys functions) := by
  refine SortedMap.get?_of_filterMap (toList_part rfl (fun index file text => ?_) sources) file
  rw [scannedKeys, addScan]
  cases (Source.scan functions text.toList).result <;> rfl

/-- A file has the fault that stopped the scan of its text. -/
theorem get?_failures (functions : List Function) (sources : SortedMap Path String) (file : Path) :
    (ofSources functions sources).failures.get? file =
      (sources.get? file).bind (scannedFault functions) := by
  refine SortedMap.get?_of_filterMap (toList_part rfl (fun index file text => ?_) sources) file
  rw [scannedFault, addScan]
  cases (Source.scan functions text.toList).result <;> rfl

end Index

end MessageCatalog
