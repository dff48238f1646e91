import MessageCatalog.Proofs.Disk.View
import MessageCatalog.Proofs.Session.World
import MessageCatalog.Proofs.Session.Write

/-! Writing by way of a cache gives one file its text, or does nothing to the files. -/

namespace MessageCatalog

namespace WriteCache

variable {δ : Type} [Disk δ] (view : DiskView δ)

/-- A disk after the directory of a file was made, where it has one. -/
inductive Prepares (path : Path) (before : δ) : δ → Prop
  | bare : Prepares path before before
  | made {parent : Path} {after : δ} (held : path.parent? = some parent)
    (made : Disk.makeDir before parent = .ok after) : Prepares path before after

/-- What comes of placing a text: its directory is made, the file is written, and that is told. Each of
the first two steps may fail, and the text is not placed then. -/
inductive Places (path : Path) (text : String) (world : World δ) : Outcome Unit → World δ → Prop
  | unmade {parent : Path} {failure : Failure}
    (refused : Disk.makeDir world.disk parent = .error failure) :
    Places path text world (.error failure) world
  | unwritten {disk : δ} {failure : Failure} (prepares : Prepares path world.disk disk)
    (refused : Disk.write disk path text = .error failure) :
    Places path text world (.error (failure.within ("Failed to write " ++ path.text)))
      (world.setDisk disk)
  | written {disk after : δ} (prepares : Prepares path world.disk disk)
    (written : Disk.write disk path text = .ok after) :
    Places path text world (.ok ())
      (Session.logged .info ("Wrote " ++ path.text) (world.setDisk after))

/-- Writing a text behind a directory that was made. -/
def putText (path : Path) (text : String) : StateM (World δ) (Outcome Unit) := do
  match ← FileSystem.write path text with
  | .error failure => return .error (failure.within ("Failed to write " ++ path.text))
  | .ok () =>
    log .info ("Wrote " ++ path.text)
    return .ok ()

theorem run_putText (path : Path) (text : String) (world : World δ) :
    (putText path text).run world =
      match Disk.write world.disk path text with
      | .error failure => (.error (failure.within ("Failed to write " ++ path.text)), world)
      | .ok disk =>
        (.ok (), Session.logged .info ("Wrote " ++ path.text) (world.setDisk disk)) := by
  have begun : (FileSystem.write path text : StateM (World δ) (Outcome Unit)).run world =
      world.settle (Disk.write world.disk path text) := rfl
  rw [putText, Session.run_worldBind, begun]
  cases Disk.write world.disk path text <;> rfl

/-- A disk with the directory of a file, where that file has one. -/
def prepared (disk : δ) (path : Path) : Outcome δ :=
  match path.parent? with
  | some parent => if parent.isEmpty then .ok disk else Disk.makeDir disk parent
  | none => .ok disk

/-- A text is placed by making its directory, if it has one, and writing it. -/
theorem run_place (path : Path) (text : String) (world : World δ) :
    (place path text : StateM (World δ) (Outcome Unit)).run world =
      match prepared world.disk path with
      | .error failure => (.error failure, world)
      | .ok disk => (putText path text).run (world.setDisk disk) := by
  unfold place prepared
  cases held : path.parent? with
  | none => rfl
  | some parent =>
    -- A path in the current directory has no directory to make.
    by_cases bare : parent.isEmpty = true
    · simp only [bare, if_true]
      rfl
    · have begun : (FileSystem.makeDir parent : StateM (World δ) (Outcome Unit)).run world =
          world.settle (Disk.makeDir world.disk parent) := rfl
      simp only [bare, Bool.false_eq_true, if_false]
      rw [Session.run_worldBind, begun]
      cases Disk.makeDir world.disk parent <;> rfl

/-- What comes of placing a text. -/
theorem places_place (path : Path) (text : String) (world : World δ) :
    Places path text world ((place path text : StateM (World δ) (Outcome Unit)).run world).1
      ((place path text : StateM (World δ) (Outcome Unit)).run world).2 := by
  -- Once its directory is there, the file is given the text, or the disk refuses it.
  have put {disk : δ} (prepares : Prepares path world.disk disk) :
      Places path text world ((putText path text).run (world.setDisk disk)).1
        ((putText path text).run (world.setDisk disk)).2 := by
    rw [run_putText]
    cases written : Disk.write disk path text with
    | error failure =>
      rw [show Disk.write (world.setDisk disk).disk path text = .error failure from written]
      exact .unwritten prepares written
    | ok after =>
      rw [show Disk.write (world.setDisk disk).disk path text = .ok after from written]
      exact .written prepares written
  rw [run_place]
  -- A directory is made only where the path has one that is not there.
  cases ready : prepared world.disk path with
  | error failure =>
    rw [prepared] at ready
    split at ready
    · split at ready
      · cases ready
      · exact .unmade ready
    · cases ready
  | ok disk =>
    -- The disk that is written to is the one before, or the one with the directory.
    refine put ?_
    rw [prepared] at ready
    split at ready
    · split at ready
      · cases ready
        exact .bare
      · exact .made ‹_› ready
    · cases ready
      exact .bare

section

variable {view} {path : Path} {text : String} {world later : World δ}

/-- Making a directory does nothing to the files. -/
theorem Prepares.untouched {before after : δ} (prepares : Prepares path before after) :
    view.Untouched before after := by
  cases prepares with
  | bare => exact .refl _
  | made _ made => exact DiskView.untouched_makeDir made

/-- A text that is placed is put into its file. -/
theorem Places.put (places : Places path text world (.ok ()) later) :
    view.Put path text world.disk later.disk := by
  cases places with
  | written prepares written =>
    rw [Session.disk_logged]
    exact prepares.untouched.put (DiskView.put_write written)

/-- Where placing a text fails, nothing is done to the files. -/
theorem Places.untouched {failure : Failure}
    (places : Places path text world (.error failure) later) :
    view.Untouched world.disk later.disk := by
  cases places with
  | unmade => exact .refl _
  | unwritten prepares => exact prepares.untouched

/-- Placing a text does no more than write its file and make the directory of that. -/
theorem Places.follows {outcome : Outcome Unit} (places : Places path text world outcome later) :
    Disk.Follows (· = path) world.disk later.disk := by
  have prepared {disk : δ} (prepares : Prepares path world.disk disk) :
      Disk.Follows (· = path) world.disk disk := by
    cases prepares with
    | bare => exact .refl
    | made held made => exact .makeDir .refl rfl held made
  -- What was done may have ended behind the directory, or behind the file.
  cases places with
  | unmade => exact .refl
  | unwritten prepares => exact prepared prepares
  | written prepares written =>
    rw [Session.disk_logged]
    exact .write (prepared prepares) rfl written

/-- Placing a text fails by a file fault where the disk does. -/
theorem Places.isFileFault (tells : Disk.TellsFaults δ) {failure : Failure}
    (places : Places path text world (.error failure) later) : failure.isFileFault = true := by
  cases places with
  | unmade refused => exact tells.makeDir refused
  | unwritten _ refused =>
    have fault := tells.write refused
    exact fault

end

/-- What comes of giving a file a text: nothing where cache or file has the text already. Otherwise it
is put into the file, and where that fails, nothing is done to the files. -/
inductive Gives (view : DiskView δ) (cache : WriteCache) (path : Path) (text : String)
    (world : World δ) : Outcome Bool → WriteCache → World δ → Prop
  | cached (known : cache.get? path = some text) :
    Gives view cache path text world (.ok false) cache world
  | found (read : Disk.read world.disk path = .ok text) :
    Gives view cache path text world (.ok false) (cache.insert path text) world
  | put {later : World δ} (unknown : cache.get? path ≠ some text)
    (differs : Disk.read world.disk path ≠ .ok text)
    (put : view.Put path text world.disk later.disk)
    (follows : Disk.Follows (· = path) world.disk later.disk) :
    Gives view cache path text world (.ok true) (cache.insert path text) later
  | failed {failure : Failure} {later : World δ} (unknown : cache.get? path ≠ some text)
    (differs : Disk.read world.disk path ≠ .ok text)
    (untouched : view.Untouched world.disk later.disk)
    (told : Disk.TellsFaults δ → failure.isFileFault = true)
    (follows : Disk.Follows (· = path) world.disk later.disk) :
    Gives view cache path text world (.error failure) cache later

/-- Placing a text that a cache knows then. -/
def placeIn (cache : WriteCache) (path : Path) (text : String) :
    StateM (World δ) (Outcome Bool × WriteCache) := do
  match ← place path text with
  | .error failure => return (.error failure, cache)
  | .ok () => return (.ok true, cache.insert path text)

/-- A text is placed unless it is the one known, or the one that the file has; a file that cannot be read is
left as it is. -/
theorem run_writeIfChanged (cache : WriteCache) (path : Path) (text : String) (world : World δ) :
    (writeIfChanged cache path text : StateM (World δ) (Outcome Bool × WriteCache)).run world =
      if cache.get? path = some text then ((.ok false, cache), world)
      else if Disk.read world.disk path = .ok text then ((.ok false, cache.insert path text), world)
      else match Disk.read world.disk path with
        | .ok _ => (placeIn cache path text).run world
        | .error failure =>
          if failure.isNotFound then (placeIn cache path text).run world
          else ((.error failure, cache), world) := by
  unfold writeIfChanged
  -- What the cache knows comes first, and then what the file holds.
  by_cases known : cache.get? path = some text
  · rw [if_pos known, if_pos known]
    rfl
  · rw [if_neg known, if_neg known, Session.run_worldBind, World.run_read]
    cases Disk.read world.disk path with
    | ok existing =>
      -- A file with another text is given the new one, and one with this text is only entered in the
      -- cache.
      by_cases equal : existing = text
      · rw [if_pos (congrArg Except.ok equal)]
        simp only [equal, if_true]
        rfl
      · have differs : (.ok existing : Outcome String) ≠ .ok text := by
          rintro ⟨⟩
          exact equal rfl
        rw [if_neg differs]
        simp only [equal, if_false]
        rfl
    | error failure =>
      have differs : (.error failure : Outcome String) ≠ .ok text := by rintro ⟨⟩
      rw [if_neg differs]
      -- A missing file is made, and any other failure ends the call.
      by_cases absent : failure.isNotFound = true <;>
        simp only [absent, Bool.false_eq_true, if_true, if_false] <;> rfl

theorem Gives.of_placeIn {cache updated : WriteCache} {path : Path} {text : String}
    {world later : World δ} {outcome : Outcome Bool} (unknown : cache.get? path ≠ some text)
    (differs : Disk.read world.disk path ≠ .ok text)
    (ran : (placeIn cache path text).run world = ((outcome, updated), later)) :
    Gives view cache path text world outcome updated later := by
  have places := places_place path text world
  rw [placeIn, Session.run_worldBind] at ran
  -- Placing the text fails or succeeds, and only then is it known.
  rcases placed : (place path text : StateM (World δ) (Outcome Unit)).run world with
    ⟨failure | ⟨⟩, latest⟩
  all_goals
    rw [placed] at places ran
    cases ran
  · exact .failed unknown differs places.untouched (fun tells => places.isFileFault tells)
      places.follows
  · exact .put unknown differs places.put places.follows

/-- A file is given a text unless cache or file has it already. -/
theorem Gives.of_ran {cache updated : WriteCache} {path : Path} {text : String}
    {world later : World δ} {outcome : Outcome Bool}
    (ran : (writeIfChanged cache path text : StateM (World δ) (Outcome Bool × WriteCache)).run world =
      ((outcome, updated), later)) : Gives view cache path text world outcome updated later := by
  rw [run_writeIfChanged] at ran
  -- The cases are those of `run_writeIfChanged`.
  by_cases known : cache.get? path = some text
  · rw [if_pos known] at ran
    cases ran
    exact .cached known
  · rw [if_neg known] at ran
    by_cases equal : Disk.read world.disk path = .ok text
    · rw [if_pos equal] at ran
      cases ran
      exact .found equal
    · rw [if_neg equal] at ran
      split at ran
      · exact .of_placeIn view known equal ran
      · rename_i failure read
        split at ran
        · exact .of_placeIn view known equal ran
        · cases ran
          exact .failed known equal (.refl _) (fun tells => tells.read read) .refl

variable {view}

/-- What is done to the files and to a cache by giving a file a text. -/
inductive Leaves (view : DiskView δ) (cache : WriteCache) (path : Path) (text : String)
    (before : δ) : WriteCache → δ → Prop
  | unknown {after : δ} (untouched : view.Untouched before after) :
    Leaves view cache path text before cache after
  | known {after : δ} (untouched : view.Untouched before after) :
    Leaves view cache path text before (cache.insert path text) after
  | put {after : δ} (put : view.Put path text before after) :
    Leaves view cache path text before (cache.insert path text) after

/-- Whatever comes of it, the file has its text and the cache knows it, or nothing is done to the
files. -/
theorem Gives.leaves {cache updated : WriteCache} {path : Path} {text : String}
    {world later : World δ} {outcome : Outcome Bool}
    (gives : Gives view cache path text world outcome updated later) :
    Leaves view cache path text world.disk updated later.disk := by
  cases gives with
  | cached => exact .unknown (.refl _)
  | found => exact .known (.refl _)
  | put _ _ put => exact .put put
  | failed _ _ untouched => exact .unknown untouched

/-- Giving a file a text does no more than write it and make its directory. -/
theorem Gives.follows {cache updated : WriteCache} {path : Path} {text : String}
    {world later : World δ} {outcome : Outcome Bool}
    (gives : Gives view cache path text world outcome updated later) :
    Disk.Follows (· = path) world.disk later.disk := by
  cases gives with
  | cached => exact .refl
  | found => exact .refl
  | put _ _ _ follows => exact follows
  | failed _ _ _ _ follows => exact follows

/-- A text that cache or file has already is not written, and nothing changes. -/
theorem Gives.of_there {cache updated : WriteCache} {path : Path} {text : String}
    {world later : World δ} {outcome : Outcome Bool}
    (gives : Gives view cache path text world outcome updated later)
    (there : cache.get? path = some text ∨ Disk.read world.disk path = .ok text) :
    outcome = .ok false ∧ later = world ∧ (updated = cache ∨ updated = cache.insert path text) := by
  cases gives with
  | cached => exact ⟨rfl, rfl, .inl rfl⟩
  | found => exact ⟨rfl, rfl, .inr rfl⟩
  | put unknown differs => exact (there.elim unknown differs).elim
  | failed unknown differs => exact (there.elim unknown differs).elim

/-- What a cache knows of a file is there after the file was given a text, if it was there before. -/
theorem Gives.there_of_known {cache updated : WriteCache} {path : Path} {text : String}
    {world later : World δ} {outcome : Outcome Bool} (honest : view.Honest world.disk)
    (gives : Gives view cache path text world outcome updated later)
    (coherent : ∀ known, cache.get? path = some known → view.text? world.disk path = some known)
    {known : String} (held : updated.get? path = some known) :
    view.text? later.disk path = some known := by
  have inserted (held : (cache.insert path text).get? path = some known) : text = known := by
    rw [SortedMap.get?_insert, if_pos Std.ReflCmp.compare_self] at held
    exact Option.some.inj held
  -- What is newly known was found in the file or has just been written there.
  cases gives with
  | cached => exact coherent known held
  | found read => exact inserted held ▸ view.text?_of_read honest read
  | put _ _ put => exact inserted held ▸ put.written
  | failed _ _ untouched => exact (untouched.text? path).trans (coherent known held)

end WriteCache

end MessageCatalog
