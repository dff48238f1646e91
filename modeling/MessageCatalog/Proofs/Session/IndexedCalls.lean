import MessageCatalog.Proofs.Entry.MergeRules
import MessageCatalog.Proofs.Session.Freshness
import MessageCatalog.Proofs.Session.Index

/-! All maps of an index tell of the same calls: those that the scans of the tracked files find. -/

namespace MessageCatalog

open Source (Call Function Scan scan)

namespace Index

/-- The calls of a text, if it can be scanned. -/
def scannedCalls (functions : List Function) (text : String) : List Call :=
  (scan functions text.toList).result.toOption.getD []

/-- The calls of all sources, each with its file: in the order of the paths, and as they stand in a
file. -/
def allCalls (functions : List Function) (sources : SortedMap Path String) : List (Path × Call) :=
  sources.toList.flatMap fun source => (scannedCalls functions source.2).map (source.1, ·)

/-- The reference to the line on which a call ends. -/
def referenceTo (file : Path) (call : Call) : Reference := ⟨displayName file, call.stop.line + 1⟩

/-- The messages in use in some calls. -/
def liveOf (calls : List (Path × Call)) : LiveMessages :=
  calls.foldl (fun live (file, call) => addCall (displayName file) live call) ⟨∅, ∅⟩

/-- The messages in use are those of all calls. -/
theorem live_ofSources (functions : List Function) (sources : SortedMap Path String) :
    (ofSources functions sources).live = liveOf (allCalls functions sources) := by
  have folded (index : Index) (entries : List (Path × String)) :
      ((entries.map fun source => (source.1, scan functions source.2.toList)).foldl
        (fun index scanned => index.addScan scanned.1 scanned.2) index).live =
        (entries.flatMap fun source => (scannedCalls functions source.2).map (source.1, ·)).foldl
          (fun live (file, call) => addCall (displayName file) live call) index.live := by
    -- By induction on the sources; one whose scan failed adds no calls.
    induction entries generalizing index with
    | nil => rfl
    | cons source entries ih =>
      rw [List.map_cons, List.foldl_cons, ih, List.flatMap_cons, List.foldl_append, List.foldl_map]
      dsimp only
      rw [scannedCalls, addScan]
      cases (scan functions source.2.toList).result <;> rfl
  exact folded {} sources.toList

section

variable {calls : List (Path × Call)} {key : Key}

/-- The message of a key is that of the first call with it. -/
theorem get?_messages_liveOf (calls : List (Path × Call)) (key : Key) :
    (liveOf calls).messages.get? key =
      (calls.find? fun call => call.2.key = key).map fun call => call.2.message := by
  -- From the end: a later call is entered when no earlier one has its key.
  induction calls using List.reverseRecOn with
  | nil => rfl
  | append_singleton calls call ih =>
    have entered : (liveOf (calls ++ [call])).messages =
        (liveOf calls).messages.insertIfNew call.2.key call.2.message := by
      rw [liveOf, List.foldl_append]
      rfl
    rw [entered, SortedMap.insertIfNew, List.find?_append, Option.map_or, ← ih]
    -- The new call has the key in question, or it leaves what is known of it.
    by_cases same : call.2.key = key
    · subst same
      rw [List.find?_cons_of_pos (by simp), SortedMap.contains_eq_isSome_get?]
      cases known : (liveOf calls).messages.get? call.2.key with
      | none => simp [SortedMap.get?_insert, Std.ReflCmp.compare_self]
      | some message => simp [known]
    · rw [List.find?_cons_of_neg (by simpa using same), List.find?_nil, Option.map_none,
        Option.or_none]
      split
      · rfl
      · have differ : compare key call.2.key ≠ .eq := fun equal =>
          same (Std.LawfulEqOrd.eq_of_compare equal).symm
        rw [SortedMap.get?_insert, if_neg differ]

/-- The places where some calls use a key. -/
def placesOf (calls : List (Path × Call)) (key : Key) : List Reference :=
  (calls.filter fun call => call.2.key = key).map fun call => referenceTo call.1 call.2

/-- A key that some calls use has the set of the places where they do. -/
theorem get?_usages_liveOf (calls : List (Path × Call)) (key : Key) :
    (liveOf calls).usages.get? key =
      if placesOf calls key = [] then none else some (.ofElements (placesOf calls key)) := by
  -- From the end: a later call adds its place to the set of its key, and leaves all others.
  induction calls using List.reverseRecOn with
  | nil => rfl
  | append_singleton calls call ih =>
    have entered : (liveOf (calls ++ [call])).usages = (liveOf calls).usages.insert call.2.key
        ((((liveOf calls).usages.get? call.2.key).getD ∅).add (referenceTo call.1 call.2)) := by
      rw [liveOf, List.foldl_append]
      rfl
    rw [entered, SortedMap.get?_insert]
    -- Only the set of the new call's key grows.
    by_cases same : call.2.key = key
    · subst same
      have places : placesOf (calls ++ [call]) call.2.key =
          placesOf calls call.2.key ++ [referenceTo call.1 call.2] := by
        simp [placesOf]
      have joined : SortedSet.ofElements (placesOf (calls ++ [call]) call.2.key) =
          (SortedSet.ofElements (placesOf calls call.2.key)).add (referenceTo call.1 call.2) := by
        rw [places, SortedSet.ofElements, List.foldl_append]
        rfl
      rw [if_pos Std.ReflCmp.compare_self, if_neg (by simp [places]), joined, ih]
      -- Without an earlier place the set begins with this one.
      split
      · rename_i none
        rw [none]
        rfl
      · rfl
    · have differ : compare key call.2.key ≠ .eq := fun equal =>
        same (Std.LawfulEqOrd.eq_of_compare equal).symm
      have places : placesOf (calls ++ [call]) key = placesOf calls key := by
        simp [placesOf, same]
      rw [if_neg differ, places, ih]

/-- A place is one where some calls use a key when one of them ends there. -/
theorem mem_placesOf {reference : Reference} :
    reference ∈ placesOf calls key ↔
      ∃ call ∈ calls, call.2.key = key ∧ referenceTo call.1 call.2 = reference := by
  simp [placesOf, and_assoc]

/-- The calls of all sources are those of each of them. -/
theorem mem_allCalls {functions : List Function} {sources : SortedMap Path String} {file : Path}
    {call : Call} :
    (file, call) ∈ allCalls functions sources ↔ ∃ text calls, (file, text) ∈ sources.toList ∧
      (scan functions text.toList).result = .ok calls ∧ call ∈ calls := by
  rw [allCalls, List.mem_flatMap]
  constructor
  · rintro ⟨source, tracked, member⟩
    obtain ⟨found, inside, ⟨⟩⟩ := List.mem_map.1 member
    rw [scannedCalls] at inside
    -- A scan that fails finds no calls.
    cases result : (scan functions source.2.toList).result with
    | error fault =>
      rw [result] at inside
      cases inside
    | ok calls =>
      rw [result] at inside
      exact ⟨source.2, calls, tracked, result, inside⟩
  · rintro ⟨text, calls, tracked, result, inside⟩
    refine ⟨(file, text), tracked, List.mem_map_of_mem ?_⟩
    rw [scannedCalls, result]
    exact inside

end

/-- All maps of an index tell of the calls in some sources. -/
structure Describes (functions : List Function) (sources : SortedMap Path String) (index : Index) :
    Prop where
  /-- The keys with a message are those with places of use. -/
  contains_messages : ∀ key, index.live.messages.contains key = index.live.usages.contains key
  /-- They are the keys of all files together. -/
  contains_usages : ∀ key, index.live.usages.contains key = true ↔
    ∃ file keys, index.keysByFile.get? file = some keys ∧ keys.contains key = true
  /-- A key is used somewhere. -/
  elements_ne_nil : ∀ key usages, index.live.usages.get? key = some usages → usages.elements ≠ []
  /-- No file has both keys and a fault. -/
  apart : ∀ file, ¬ (index.keysByFile.contains file = true ∧ index.failures.contains file = true)
  /-- The tracked files are those with keys and those with a fault. -/
  contains_sources : ∀ file,
    sources.contains file = (index.keysByFile.contains file || index.failures.contains file)
  /-- A place of use is the last line of a call in a file that is displayed so. -/
  mem_usages : ∀ key reference,
    (∃ usages, index.live.usages.get? key = some usages ∧ reference ∈ usages.elements) ↔
      ∃ file text calls, (file, text) ∈ sources.toList ∧
        (scan functions text.toList).result = .ok calls ∧ displayName file = reference.file ∧
        ∃ call ∈ calls, call.key = key ∧ call.stop.line + 1 = reference.line
  /-- The keys of a file are those of the calls in it. -/
  mem_keysByFile : ∀ file key,
    (∃ keys, index.keysByFile.get? file = some keys ∧ keys.contains key = true) ↔
      ∃ text calls, sources.get? file = some text ∧
        (scan functions text.toList).result = .ok calls ∧ ∃ call ∈ calls, call.key = key
  /-- The message of a key has that key. -/
  key_of_messages : ∀ key message, index.live.messages.get? key = some message → message.key = key
  /-- It is the one of the first call with the key. -/
  get?_messages : ∀ key, index.live.messages.get? key =
    ((allCalls functions sources).find? fun call => call.2.key = key).map fun call => call.2.message

section

variable {functions : List Function} {sources : SortedMap Path String} {key : Key}

/-- A text has the calls of its scan for keys. -/
theorem scannedKeys_eq_some {text : String} {keys : SortedSet Key} :
    scannedKeys functions text = some keys ↔ ∃ calls,
      (scan functions text.toList).result = .ok calls ∧ .ofElements (calls.map Call.key) = keys := by
  rw [scannedKeys]
  cases (scan functions text.toList).result with
  | error fault => simp [Except.toOption]
  | ok calls => simp [Except.toOption]

/-- A text has keys or a fault, and never both. -/
theorem scannedKeys_or_fault {text : String} :
    ((scannedKeys functions text).isSome || (scannedFault functions text).isSome) = true ∧
      ¬ ((scannedKeys functions text).isSome = true ∧
        (scannedFault functions text).isSome = true) := by
  rw [scannedKeys, scannedFault]
  cases (scan functions text.toList).result with
  | error fault => simp [Except.toOption]
  | ok calls => simp [Except.toOption]

/-- The files in which a key is used are those with a call for it. -/
theorem mem_keysByFile_ofSources (file : Path) :
    (∃ keys, (ofSources functions sources).keysByFile.get? file = some keys ∧
        keys.contains key = true) ↔
      ∃ text calls, sources.get? file = some text ∧
        (scan functions text.toList).result = .ok calls ∧ ∃ call ∈ calls, call.key = key := by
  -- The keys of a file are those of a scan of its text.
  simp only [get?_keysByFile, Option.bind_eq_some_iff, scannedKeys_eq_some]
  constructor
  · rintro ⟨_, ⟨text, held, calls, result, rfl⟩, used⟩
    rw [← SortedSet.mem_elements, SortedSet.mem_elements_ofElements, List.mem_map] at used
    exact ⟨text, calls, held, result, used⟩
  · rintro ⟨text, calls, held, result, used⟩
    refine ⟨_, ⟨text, held, calls, result, rfl⟩, ?_⟩
    rw [← SortedSet.mem_elements, SortedSet.mem_elements_ofElements, List.mem_map]
    exact used

/-- A key is in use when some call has it. -/
theorem contains_usages_ofSources :
    (ofSources functions sources).live.usages.contains key = true ↔
      ∃ call ∈ allCalls functions sources, call.2.key = key := by
  rw [SortedMap.contains_eq_isSome_get?, live_ofSources, get?_usages_liveOf]
  have used : placesOf (allCalls functions sources) key ≠ [] ↔
      ∃ call ∈ allCalls functions sources, call.2.key = key := by
    simp [placesOf]
  rw [← used]
  split <;> simp_all

/-- A key is in use when it is one of the keys of some file. -/
theorem contains_usages_iff_keysByFile :
    (ofSources functions sources).live.usages.contains key = true ↔
      ∃ file keys, (ofSources functions sources).keysByFile.get? file = some keys ∧
        keys.contains key = true := by
  rw [contains_usages_ofSources]
  simp only [mem_keysByFile_ofSources]
  -- A file is tracked under the spelling of its entry.
  constructor
  · rintro ⟨⟨file, call⟩, member, named⟩
    obtain ⟨text, calls, tracked, result, inside⟩ := mem_allCalls.1 member
    have held : sources.get? file = some text :=
      congrArg (Option.map Prod.snd) (SortedMap.entry?_of_mem tracked)
    exact ⟨file, text, calls, held, result, call, inside, named⟩
  · rintro ⟨file, text, calls, held, result, call, inside, named⟩
    obtain ⟨⟨spelled, _⟩, found, rfl⟩ := Option.map_eq_some_iff.1 held
    have tracked := (SortedMap.entry?_eq_some_iff.1 found).1
    exact ⟨(spelled, call), mem_allCalls.2 ⟨_, calls, tracked, result, inside⟩, named⟩

/-- A key has the places where the calls of the sources use it, and no others. -/
theorem mem_usages_iff_placesOf {reference : Reference} :
    (∃ usages, (ofSources functions sources).live.usages.get? key = some usages ∧
        reference ∈ usages.elements) ↔
      reference ∈ placesOf (allCalls functions sources) key := by
  rw [live_ofSources, get?_usages_liveOf]
  split
  · simp_all
  · simp [SortedSet.mem_elements_ofElements]

/-- The index of sources tells of the calls in them. -/
theorem describes_ofSources (functions : List Function) (sources : SortedMap Path String) :
    (ofSources functions sources).Describes functions sources where
  contains_messages key := by
    rw [Bool.eq_iff_iff, contains_usages_ofSources, SortedMap.contains_eq_isSome_get?,
      live_ofSources, get?_messages_liveOf, Option.isSome_map, List.find?_isSome]
    simp
  contains_usages _ := contains_usages_iff_keysByFile
  elements_ne_nil key usages known := by
    rw [live_ofSources, get?_usages_liveOf] at known
    -- A key in use has a place, so its set is not empty.
    split at known
    · cases known
    · rename_i used
      cases known
      obtain ⟨reference, member⟩ := List.exists_mem_of_ne_nil _ used
      exact List.ne_nil_of_mem (SortedSet.mem_elements_ofElements.2 member)
  -- A file tells its keys or its fault, and never both.
  apart file := by
    rw [SortedMap.contains_eq_isSome_get?, SortedMap.contains_eq_isSome_get?, get?_keysByFile,
      get?_failures]
    -- A file that is not tracked tells neither.
    cases sources.get? file with
    | none => simp
    | some text => exact scannedKeys_or_fault.2
  contains_sources file := by
    rw [SortedMap.contains_eq_isSome_get?, SortedMap.contains_eq_isSome_get?,
      SortedMap.contains_eq_isSome_get?, get?_keysByFile, get?_failures]
    cases sources.get? file with
    | none => rfl
    | some text => exact scannedKeys_or_fault.1.symm
  -- A reference stands for a call with the key, whose last line is the line of the reference.
  mem_usages key reference := by
    rw [mem_usages_iff_placesOf, mem_placesOf]
    constructor
    · rintro ⟨⟨file, call⟩, member, named, rfl⟩
      obtain ⟨text, calls, tracked, result, inside⟩ := mem_allCalls.1 member
      exact ⟨file, text, calls, tracked, result, rfl, call, inside, named, rfl⟩
    · rintro ⟨file, text, calls, tracked, result, shown, call, inside, named, line⟩
      refine ⟨(file, call), mem_allCalls.2 ⟨text, calls, tracked, result, inside⟩, named, ?_⟩
      rw [referenceTo, shown, line]
  mem_keysByFile file key := mem_keysByFile_ofSources file
  key_of_messages key message known := by
    rw [live_ofSources, get?_messages_liveOf] at known
    obtain ⟨call, found, rfl⟩ := Option.map_eq_some_iff.1 known
    have named := List.find?_some found
    -- What was found first is a call that has the key.
    exact of_decide_eq_true named
  get?_messages key := by rw [live_ofSources, get?_messages_liveOf]

end

end Index

namespace Session

/-- A fresh index tells of the calls in the sources. -/
theorem IsFresh.describes {session : Session} (fresh : session.IsFresh) :
    session.index.Describes session.functions session.sources := by
  rw [fresh]
  exact Index.describes_ofSources session.functions session.sources

/-- Whatever the files have become before each of its readings, a session the readings of which all
succeed has an index that tells of the calls in its sources. A failed reading that changes nothing, or
behind which one reports a change, does no harm. -/
theorem describes_of_readRun {σ : Type} [FileSystem (StateM σ)] [Console (StateM σ)]
    {config : Config} {start session : Session} {dawn dusk : σ}
    (made : (new config : StateM σ (Outcome Session)).run dawn = (.ok start, dusk))
    (run : ReadRun σ start session false) :
    session.index.Describes session.functions session.sources :=
  (run.isFresh (isFresh_new made) rfl).describes

/-- A page that uses a message twice. -/
private def onePage : World MemoryDisk := .ofFiles [(⟨"a.js"⟩, "__('A')\n__('A')")] []

/-- The session after it has read the page. -/
private def readPages : Session := (runOn (read none) englishSession onePage).2.1

/-- The reading succeeds. -/
private theorem read_onePage : (runOn (read none) englishSession onePage).1 = .ok true := by cbv

/-- The index tells of both uses of the message of a page. -/
theorem describes_read_page :
    readPages.index.Describes readPages.functions readPages.sources ∧
      readPages.index.live.messages.keys = [⟨":A"⟩] ∧
      (readPages.index.live.usages.get? ⟨":A"⟩).map (·.elements.map Reference.line) =
        some [1, 2] := by
  have run := ReadRun.succeeded .start (runOn_eq read_onePage)
  exact ⟨describes_of_readRun (run_new_englishSession onePage) run, by cbv, by cbv⟩

end Session

end MessageCatalog
