import MessageCatalog.Disk.Tree
import MessageCatalog.Proofs.Disk.Memory
import MessageCatalog.Proofs.Session.BundleTexts
import MessageCatalog.Proofs.Session.Uncached

/-! What a cache knows of files is there, whatever fails while they are given texts, as long as nothing
else changes them. -/

namespace MessageCatalog

namespace WriteCache

section

variable {δ : Type} [Disk δ] {view : DiskView δ} {paths : Path → Prop} {cache updated : WriteCache}
  {path : Path} {text : String} {world later : World δ} {outcome : Outcome Bool} {written : Bool}

/-- Paths two of which name one file just when they are equal. -/
structure NameFiles (view : DiskView δ) (paths : Path → Prop) : Prop where
  same : ∀ path other, paths path → paths other → compare other path = .eq →
    ∀ disk, view.text? disk other = view.text? disk path
  apart : ∀ path other, paths path → paths other → compare other path ≠ .eq → view.Apart path other

/-- What is known of certain files is there. -/
def Coherent (view : DiskView δ) (paths : Path → Prop) (cache : WriteCache) (disk : δ) : Prop :=
  ∀ path, paths path → ∀ text, cache.get? path = some text → view.text? disk path = some text

/-- Nothing keeps a file from being given a text: it can be read unless it is missing, its directory can
be made, and then it can be written. -/
def Unhindered (disk : δ) (path : Path) (text : String) : Prop :=
  Session.Readable disk path ∧
    ∃ ready after, prepared disk path = .ok ready ∧ Disk.write ready path text = .ok after

/-- Of no file anything is known at first. -/
theorem coherent_empty (view : DiskView δ) (paths : Path → Prop) (disk : δ) :
    Coherent view paths ∅ disk := nofun

/-- Giving a file a text leaves the files honest. -/
theorem Gives.honest (gives : Gives view cache path text world outcome updated later)
    (honest : view.Honest world.disk) : view.Honest later.disk := by
  cases gives with
  | cached => exact honest
  | found => exact honest
  | put _ _ put => exact put.honest honest
  | failed _ _ untouched => exact untouched.honest honest

/-- Whatever comes of giving a file a text, what is known of files is there again. -/
theorem Coherent.of_gives (coherent : Coherent view paths cache world.disk)
    (names : NameFiles view paths) (honest : view.Honest world.disk) (inside : paths path)
    (gives : Gives view cache path text world outcome updated later) :
    Coherent view paths updated later.disk := by
  intro other inside' known held
  by_cases equal : compare other path = .eq
  · -- It is the file that was given the text, perhaps by another spelling.
    rw [SortedMap.get?_congr equal] at held
    rw [names.same path other inside inside' equal]
    exact gives.there_of_known honest (coherent path inside) held
  · rw [gives.get?_other equal] at held
    rw [gives.text?_other fun _ => names.apart path other inside inside' equal]
    exact coherent other inside' known held

/-- A file that was given a text has it, and had it before if it was not written. -/
theorem Gives.there (gives : Gives view cache path text world (.ok written) updated later)
    (honest : view.Honest world.disk)
    (known : cache.get? path = some text → view.text? world.disk path = some text) :
    view.text? later.disk path = some text ∧
      (written = false → view.text? world.disk path = some text) := by
  cases gives with
  | cached held => exact ⟨known held, fun _ => known held⟩
  | found read =>
    have there := view.text?_of_read honest read
    exact ⟨there, fun _ => there⟩
  | put _ _ put => exact ⟨put.written, nofun⟩

/-- A text that its file has is not written, also when the file cannot be read. -/
theorem run_writeIfChanged_of_there (honest : view.Honest world.disk)
    (there : view.text? world.disk path = some text)
    (ran : (writeIfChanged cache path text : StateM (World δ) (Outcome Bool × WriteCache)).run world =
      ((outcome, updated), later)) : later = world ∧ outcome ≠ .ok true := by
  rw [run_writeIfChanged] at ran
  split at ran
  · -- The cache has this text already, and the file is not looked at.
    cases ran
    exact ⟨rfl, by rintro ⟨⟩⟩
  · split at ran
    · cases ran
      exact ⟨rfl, by rintro ⟨⟩⟩
    · rename_i differs
      -- Honest files are read with this text, or the reading fails for another reason than a missing one.
      cases read : Disk.read world.disk path with
      | ok existing =>
        have stored := view.text?_of_read honest read
        cases there.symm.trans stored
        exact absurd read differs
      | error failure =>
        rw [read] at ran
        dsimp only at ran
        split at ran
        · rename_i absent
          cases there.symm.trans (view.text?_of_notFound honest read absent)
        · cases ran
          exact ⟨rfl, by rintro ⟨⟩⟩

/-- A text that was placed was written behind its directory. -/
theorem written_of_placed {disk after : δ} (done : placed disk path text = (.ok (), after)) :
    ∃ ready, prepared disk path = .ok ready ∧ Disk.write ready path text = .ok after := by
  rw [placed] at done
  -- The directory is made first, and then the file is written in it.
  split at done
  · cases done
  · rename_i ready made
    split at done
    · cases done
    · rename_i last wrote
      cases done
      exact ⟨ready, made, wrote⟩

/-- A file that was said to be written was written behind its directory. -/
theorem written_of_given {disk after : δ} (done : given disk path text = (.ok true, after)) :
    ∃ ready, prepared disk path = .ok ready ∧ Disk.write ready path text = .ok after := by
  -- Only a text that was placed makes the outcome of placing it a success.
  have placed_of_map (told : ((placed disk path text).1.map (fun _ => true),
      (placed disk path text).2) = ((.ok true, after) : Outcome Bool × δ)) :
      placed disk path text = (.ok (), after) := by
    generalize placed disk path text = result at told ⊢
    rcases result with ⟨failure | ⟨⟩, last⟩
    · cases told
    · cases told
      rfl
  rw [given] at done
  -- A text that is there already is not written, and a failed look at the file is no success.
  split at done
  · cases done
  · split at done
    · exact written_of_placed (placed_of_map done)
    · split at done
      · exact written_of_placed (placed_of_map done)
      · cases done

/-- Where nothing hinders it, a text is placed. -/
theorem Unhindered.placed {disk : δ} (free : Unhindered disk path text) :
    (placed disk path text).1 = .ok () := by
  obtain ⟨-, ready, after, made, wrote⟩ := free
  rw [WriteCache.placed, made]
  dsimp only
  rw [wrote]

/-- Where nothing hinders it, a file is given its text. -/
theorem Unhindered.given {disk : δ} (free : Unhindered disk path text) :
    ∃ written, (given disk path text).1 = .ok written := by
  have placed := free.placed
  rw [WriteCache.given]
  -- The text is there already, or another one is, or no file is there yet.
  split
  · exact ⟨false, rfl⟩
  · split
    · rw [placed]
      exact ⟨true, rfl⟩
    · rename_i failure read
      rw [if_pos (free.1 failure read), placed]
      exact ⟨true, rfl⟩

/-- A file that is said to be written was written behind its directory, and no more was done to the
disk. -/
theorem run_writeIfChanged_true
    (ran : (writeIfChanged cache path text : StateM (World δ) (Outcome Bool × WriteCache)).run world =
      ((.ok true, updated), later)) :
    ∃ ready, prepared world.disk path = .ok ready ∧ Disk.write ready path text = .ok later.disk := by
  -- Where the text is known, nothing is written; otherwise what is known does not matter.
  have unknown : cache.get? path ≠ some text := by
    intro known
    rw [run_writeIfChanged, if_pos known] at ran
    cases ran
  obtain ⟨told, disk⟩ := run_writeIfChanged_of_settled cache path text world (absurd · unknown)
  rw [ran] at told disk
  exact written_of_given (Prod.ext told.symm disk.symm)

/-- What comes of a call, when its outcome is known. -/
theorem eq_of_told {σ : Type} {given : (Outcome Bool × WriteCache) × σ} (told : given.1.1 = outcome) :
    given = ((outcome, given.1.2), given.2) := by
  obtain ⟨⟨outcome, cache⟩, world⟩ := given
  cases told
  rfl

/-- Where nothing hinders it, a file is given its text by way of any cache. -/
theorem Unhindered.run (free : Unhindered world.disk path text) (cache : WriteCache) :
    ∃ written updated later,
      (writeIfChanged cache path text : StateM (World δ) (Outcome Bool × WriteCache)).run world =
        ((.ok written, updated), later) := by
  obtain ⟨written, done⟩ : ∃ written,
      ((writeIfChanged cache path text :
        StateM (World δ) (Outcome Bool × WriteCache)).run world).1.1 = .ok written := by
    -- A known text is not written, and any other one is given to the file.
    by_cases known : cache.get? path = some text
    · rw [run_writeIfChanged, if_pos known]
      exact ⟨false, rfl⟩
    · rw [(run_writeIfChanged_of_settled cache path text world (absurd · known)).1]
      exact free.given
  exact ⟨written, _, _, eq_of_told done⟩

/-- What happens to a cache and a world: a file is given a text, whatever comes of it, or something else
goes on, such as a fault that comes or goes, and leaves these files as they are. -/
inductive Step (view : DiskView δ) (paths : Path → Prop) :
    WriteCache × World δ → WriteCache × World δ → Prop
  | call {cache updated : WriteCache} {world later : World δ} {path : Path} {text : String}
    {outcome : Outcome Bool} (inside : paths path)
    (ran : (writeIfChanged cache path text : StateM (World δ) (Outcome Bool × WriteCache)).run world =
      ((outcome, updated), later)) : Step view paths (cache, world) (updated, later)
  | elsewhere {cache : WriteCache} {world later : World δ}
    (honest : view.Honest world.disk → view.Honest later.disk)
    (kept : ∀ path, paths path → view.text? later.disk path = view.text? world.disk path) :
    Step view paths (cache, world) (cache, later)

/-- A moment at which files are reported honestly and what is known of them is there. -/
structure Sound (view : DiskView δ) (paths : Path → Prop) (moment : WriteCache × World δ) : Prop where
  honest : view.Honest moment.2.disk
  coherent : Coherent view paths moment.1 moment.2.disk

/-- Each step keeps a moment sound. -/
theorem Sound.step {before after : WriteCache × World δ} (sound : Sound view paths before)
    (names : NameFiles view paths) (step : Step view paths before after) :
    Sound view paths after := by
  -- A call keeps the cache right by what it gives; other programs spare the files.
  cases step with
  | call inside ran =>
    have gives := Gives.of_ran view ran
    exact ⟨gives.honest sound.honest, sound.coherent.of_gives names sound.honest inside gives⟩
  | elsewhere honest kept =>
    refine ⟨honest sound.honest, fun path inside text known => ?_⟩
    rw [kept path inside]
    exact sound.coherent path inside text known

/-- Each run keeps a moment sound. -/
theorem Sound.run {before after : WriteCache × World δ} (sound : Sound view paths before)
    (names : NameFiles view paths)
    (run : Relation.ReflTransGen (Step view paths) before after) : Sound view paths after := by
  -- By induction on the run, from its start.
  induction run with
  | refl => exact sound
  | tail _ step ih => exact ih.step names step

/-- Over every run of calls, whatever fails on the way, a call that succeeds leaves the file with its text
and says that it was written if it was missing or had another text; it is written behind its directory
then, and nothing at all is done where it has the text already. A call that fails leaves every file as it
was. Whatever follows, once nothing hinders the call it succeeds, and the file has the text. -/
theorem text_of_calls (names : NameFiles view paths) {start : World δ}
    (honest : view.Honest start.disk)
    (run : Relation.ReflTransGen (Step view paths) (∅, start) (cache, world)) (inside : paths path)
    (ran : (writeIfChanged cache path text : StateM (World δ) (Outcome Bool × WriteCache)).run world =
      ((outcome, updated), later)) :
    (view.text? world.disk path = some text → later = world) ∧
    (∀ written, outcome = .ok written →
      view.text? later.disk path = some text ∧
        (written = true ↔ view.text? world.disk path ≠ some text) ∧
        (written = true → ∃ ready, prepared world.disk path = .ok ready ∧
          Disk.write ready path text = .ok later.disk)) ∧
    (∀ failure, outcome = .error failure →
      view.Untouched world.disk later.disk ∧
        ∀ known again,
          Relation.ReflTransGen (Step view paths) (updated, later) (known, again) →
          Unhindered again.disk path text →
          ∃ written learnt last,
            (writeIfChanged known path text :
                StateM (World δ) (Outcome Bool × WriteCache)).run again =
              ((.ok written, learnt), last) ∧
            view.text? last.disk path = some text) := by
  have begun : Sound view paths (∅, start) := ⟨honest, coherent_empty view paths start.disk⟩
  have sound := begun.run names run
  have gives := Gives.of_ran view ran
  -- Whatever ran before, the cache is sound for the files, and each part is read off what the call
  -- gives.
  refine ⟨fun there => (run_writeIfChanged_of_there sound.honest there ran).1, ?_, ?_⟩
  · rintro written rfl
    obtain ⟨there, unwritten⟩ := gives.there sound.honest (sound.coherent path inside text)
    refine ⟨there, ⟨?_, ?_⟩, ?_⟩
    · rintro rfl stored
      exact (run_writeIfChanged_of_there sound.honest stored ran).2 rfl
    · intro differs
      by_contra told
      exact differs (unwritten (Bool.eq_false_iff.2 told))
    · rintro rfl
      exact run_writeIfChanged_true ran
  · rintro failure rfl
    -- Nothing was written; what the cache knew before the call it still knows.
    refine ⟨?_, fun known again rest free => ?_⟩
    · cases gives with
      | failed _ _ untouched => exact untouched
    · -- The call that failed is a step of a longer run, and the cache is sound at its end too.
      have sound := Sound.run (sound.step names (.call inside ran)) names rest
      obtain ⟨written, learnt, last, ran⟩ := free.run known
      have gives := Gives.of_ran view ran
      exact ⟨written, learnt, last, ran,
        (gives.there sound.honest (sound.coherent path inside text)).1⟩

end

/-- In memory any paths name one file just when they are equal. -/
theorem nameFiles_memory (paths : Path → Prop) : NameFiles MemoryDisk.view paths where
  same path other _ _ equal disk := MemoryDisk.view_ignoresSpelling disk other path equal
  apart _ _ _ _ differs := differs

/-- In memory nothing hinders a file from being given a text where nothing is made to fail. -/
theorem unhindered_memory {disk : MemoryDisk} (clear : disk.hindrances = []) (path : Path)
    (text : String) : Unhindered disk path text := by
  have writes (disk : MemoryDisk) (clear : disk.hindrances = []) :
      ∃ after, Disk.write disk path text = .ok after :=
    ⟨_, congrArg (· >>= _) (MemoryDisk.attempt_of_unhindered clear .write path)⟩
  refine ⟨fun failure read => ?_, ?_⟩
  · -- A file that is not there is no trouble, and no other trouble is there.
    rw [MemoryDisk.read_of_unhindered clear] at read
    split at read
    · cases read
    · cases read
      rfl
  · -- The directory is there, or it is made, or there is none to make.
    rw [prepared]
    split
    · split
      · exact ⟨disk, (writes disk clear).imp fun _ wrote => ⟨rfl, wrote⟩⟩
      · rename_i parent _ _
        have made := MemoryDisk.attempt_of_unhindered clear .makeDir parent
        exact ⟨_, (writes (disk.addDirs parent) clear).imp fun _ wrote =>
          ⟨congrArg (· >>= _) made, wrote⟩⟩
    · exact ⟨disk, (writes disk clear).imp fun _ wrote => ⟨rfl, wrote⟩⟩

/-- What comes of giving a file its first text, in an empty memory. -/
private def firstGiven : (Outcome Bool × WriteCache) × World MemoryDisk :=
  (writeIfChanged ∅ ⟨"out/en.json"⟩ "one" :
    StateM (World MemoryDisk) (Outcome Bool × WriteCache)).run .bare

/-- The files then, when this one cannot be written any more. -/
private def lockedOut : World MemoryDisk := firstGiven.2.forbid .write ⟨"out/en.json"⟩

/-- What comes of giving the file a second text, by another spelling of its path. -/
private def secondGiven : (Outcome Bool × WriteCache) × World MemoryDisk :=
  (writeIfChanged firstGiven.1.2 ⟨"out//en.json"⟩ "two" :
    StateM (World MemoryDisk) (Outcome Bool × WriteCache)).run lockedOut

/-- The files when this one can be written again. -/
private def unlockedOut : World MemoryDisk :=
  secondGiven.2.setDisk (secondGiven.2.disk.release .write ⟨"out/en.json"⟩)

/-- A file that could not be written keeps its text, and has the next one when that is given again. -/
theorem text_of_calls_locked :
    secondGiven.1.1.isOk = false ∧
      MemoryDisk.view.Untouched lockedOut.disk secondGiven.2.disk ∧
      ∃ written learnt last,
        (writeIfChanged secondGiven.1.2 ⟨"out//en.json"⟩ "two" :
            StateM (World MemoryDisk) (Outcome Bool × WriteCache)).run unlockedOut =
          ((.ok written, learnt), last) ∧
        MemoryDisk.view.text? last.disk ⟨"out//en.json"⟩ = some "two" := by
  let paths (path : Path) : Prop := path = ⟨"out/en.json"⟩ ∨ path = ⟨"out//en.json"⟩
  have failed : secondGiven.1.1.isOk = false := by decide +kernel
  have unlocked : unlockedOut.disk.hindrances = [] := by decide +kernel
  refine ⟨failed, ?_⟩
  cases told : secondGiven.1.1 with
  | ok written =>
    rw [told] at failed
    cases failed
  | error failure =>
    -- Between the two calls another program has locked the file, and then unlocks it.
    have run : Relation.ReflTransGen (Step MemoryDisk.view paths) (∅, World.bare)
        (firstGiven.1.2, lockedOut) :=
      .tail (.single (.call (.inl rfl) rfl))
        (.elsewhere (fun honest => World.honest_forbid honest _ _) fun _ _ => rfl)
    -- The failing call is one of the second spelling, for the same file.
    obtain ⟨-, -, fails⟩ := text_of_calls (nameFiles_memory paths)
      (World.honest_ofFiles _ _) run (.inr rfl) (eq_of_told told)
    obtain ⟨untouched, again⟩ := fails failure rfl
    exact ⟨untouched, again _ _
      (.single (.elsewhere (fun _ => MemoryDisk.honest_of_unhindered unlocked) fun _ _ => rfl))
      (unhindered_memory unlocked _ _)⟩

/-- Giving files texts one after the other, whatever comes of each. -/
def writeEach {m : Type → Type} [Monad m] [FileSystem m] [Console m] (cache : WriteCache) :
    List (Path × String) → m WriteCache
  | [] => return cache
  | (path, text) :: files => do
    let (_, updated) ← writeIfChanged cache path text
    writeEach updated files

/-- A directory in which a catalog can lie. -/
private def localesTree : World Tree where
  disk := {
    nodes := .ofList [(["work"], .dir), (["work", "locales"], .dir)]
    workingDir := ["work"] }

/-- Two texts for one catalog, by two paths that lead to it. -/
private def twoTexts : List (Path × String) :=
  [(⟨"locales/en.po"⟩, "one"), (⟨"locales/../locales/en.po"⟩, "two")]

/-- What comes of giving it these texts. -/
private def givenTwice : WriteCache × World Tree :=
  (writeEach ∅ twoTexts : StateM (World Tree) WriteCache).run localesTree

/-- What comes of giving it the first text again. -/
private def givenAgain : (Outcome Bool × WriteCache) × World Tree :=
  (writeIfChanged givenTwice.1 ⟨"locales/en.po"⟩ "one" :
    StateM (World Tree) (Outcome Bool × WriteCache)).run givenTwice.2

/-- A call that succeeds need not leave the file with its text where paths that differ lead to one file: the
cache does not notice that the file was given another text by way of the other path. -/
theorem not_text_of_calls : ¬ ∀ (start : World Tree) (files : List (Path × String))
    (file : Path × String) (cache updated : WriteCache) (world later : World Tree) (written : Bool),
    (writeEach ∅ files : StateM (World Tree) WriteCache).run start = (cache, world) →
    (writeIfChanged cache file.1 file.2 :
      StateM (World Tree) (Outcome Bool × WriteCache)).run world = ((.ok written, updated), later) →
    later.disk.readText file.1 = .ok file.2 := by
  intro claimed
  -- The first text is known of the first path, and so nothing is done, but the file has the second one.
  have told : givenAgain.1.1 = .ok false := by decide +kernel
  have stale : givenAgain.2.disk.readText ⟨"locales/en.po"⟩ = .ok "two" := by decide +kernel
  have twice : givenTwice = (givenTwice.1, givenTwice.2) := Prod.mk.eta.symm
  have again := eq_of_told told
  have read := claimed localesTree twoTexts (⟨"locales/en.po"⟩, "one") givenTwice.1 givenAgain.1.2
    givenTwice.2 givenAgain.2 false twice again
  exact absurd (Except.ok.inj (stale.symm.trans read)) (by decide)

end WriteCache

end MessageCatalog
