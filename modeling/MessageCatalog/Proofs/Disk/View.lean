import MessageCatalog.Disk.Memory
import MessageCatalog.Proofs.SortedMap

/-! What the files of a disk hold, and how it changes when one of them is given a text. -/

namespace MessageCatalog

/-- A view of the files of a disk whose operations do what they say: a read file has the text that is
read, and a written one the text that is written, which changes no file of another name. -/
structure DiskView (δ : Type) [Disk δ] where
  /-- The text of the file at a path, if there is one. -/
  text? : δ → Path → Option String
  /-- Two paths name different files. -/
  Apart : Path → Path → Prop
  /-- No file that is there is reported as not found. -/
  Honest : δ → Prop
  text?_of_read : ∀ {disk path text}, Honest disk → Disk.read disk path = .ok text →
    text? disk path = some text
  text?_of_notFound : ∀ {disk path failure}, Honest disk → Disk.read disk path = .error failure →
    failure.isNotFound = true → text? disk path = none
  honest_write : ∀ {disk path text after}, Honest disk → Disk.write disk path text = .ok after →
    Honest after
  text?_written : ∀ {disk path text after}, Disk.write disk path text = .ok after →
    text? after path = some text
  text?_apart : ∀ {disk path text after other}, Disk.write disk path text = .ok after →
    Apart path other → text? after other = text? disk other
  honest_makeDir : ∀ {disk dir after}, Honest disk → Disk.makeDir disk dir = .ok after → Honest after
  text?_makeDir : ∀ {disk dir after} (path : Path), Disk.makeDir disk dir = .ok after →
    text? after path = text? disk path

/-- A failure because of trouble with a file. -/
def Failure.isFileFault (failure : Failure) : Bool :=
  match failure.cause with
  | .file _ => true
  | _ => false

/-- A disk on which reading, writing and making directories fail by file faults only. -/
structure Disk.TellsFaults (δ : Type) [Disk δ] : Prop where
  read : ∀ {disk : δ} {path failure}, Disk.read disk path = .error failure →
    failure.isFileFault = true
  write : ∀ {disk : δ} {path text failure}, Disk.write disk path text = .error failure →
    failure.isFileFault = true
  makeDir : ∀ {disk : δ} {dir failure}, Disk.makeDir disk dir = .error failure →
    failure.isFileFault = true

/-- An outcome that no trouble with a file has led to. -/
def Disk.Untroubled (δ : Type) [Disk δ] {α : Type} (outcome : Outcome α) : Prop :=
  ∀ failure, outcome = .error failure → Disk.TellsFaults δ ∧ failure.isFileFault = false

/-- A success is no trouble. -/
theorem Disk.untroubled_ok (δ : Type) [Disk δ] {α : Type} (value : α) :
    Disk.Untroubled δ (.ok value : Outcome α) := nofun

/-- A disk that comes of another one by writing certain files and making the directories that hold
them. -/
inductive Disk.Follows {δ : Type} [Disk δ] (touched : Path → Prop) (before : δ) : δ → Prop
  | refl : Follows touched before before
  | makeDir {path parent : Path} {disk after : δ} (earlier : Follows touched before disk)
    (inside : touched path) (held : path.parent? = some parent)
    (made : Disk.makeDir disk parent = .ok after) : Follows touched before after
  | write {path : Path} {text : String} {disk after : δ} (earlier : Follows touched before disk)
    (inside : touched path) (written : Disk.write disk path text = .ok after) :
    Follows touched before after

section

variable {δ : Type} [Disk δ] {touched further : Path → Prop} {a b c : δ}

theorem Disk.Follows.trans (first : Disk.Follows touched a b) (second : Disk.Follows touched b c) :
    Disk.Follows touched a c := by
  induction second with
  | refl => exact first
  | makeDir _ inside held made ih => exact ih.makeDir inside held made
  | write _ inside written ih => exact ih.write inside written

/-- More files may be written than are. -/
theorem Disk.Follows.mono (follows : Disk.Follows touched a b)
    (inside : ∀ path, touched path → further path) : Disk.Follows further a b := by
  induction follows with
  | refl => exact .refl
  | makeDir _ member held made ih => exact ih.makeDir (inside _ member) held made
  | write _ member written ih => exact ih.write (inside _ member) written

end

namespace DiskView

section

variable {δ : Type} [Disk δ] (view : DiskView δ)

/-- A disk with the files of another one. -/
structure Untouched (before after : δ) : Prop where
  honest : view.Honest before → view.Honest after
  text? : ∀ path, view.text? after path = view.text? before path

/-- A disk on which a file has been given a text. -/
structure Put (path : Path) (text : String) (before after : δ) : Prop where
  honest : view.Honest before → view.Honest after
  written : view.text? after path = some text
  others : ∀ other, view.Apart path other → view.text? after other = view.text? before other

/-- A disk on which none but certain files have been given texts. -/
structure TouchesOnly (touched : Path → Prop) (before after : δ) : Prop where
  honest : view.Honest before → view.Honest after
  others : ∀ path, (∀ other, touched other → view.Apart other path) →
    view.text? after path = view.text? before path

variable {view}

/-- A disk has its own files. -/
theorem Untouched.refl (disk : δ) : view.Untouched disk disk := ⟨id, fun _ => rfl⟩

/-- A text is given to a file after nothing was done to the files. -/
theorem Untouched.put {a b c : δ} {path : Path} {text : String} (first : view.Untouched a b)
    (second : view.Put path text b c) : view.Put path text a c :=
  ⟨second.honest ∘ first.honest, second.written, fun other apart =>
    (second.others other apart).trans (first.text? other)⟩

/-- Making a directory does nothing to the files. -/
theorem untouched_makeDir {disk after : δ} {dir : Path} (made : Disk.makeDir disk dir = .ok after) :
    view.Untouched disk after :=
  ⟨fun honest => view.honest_makeDir honest made, fun path => view.text?_makeDir path made⟩

/-- Writing gives a file its text. -/
theorem put_write {disk after : δ} {path : Path} {text : String}
    (written : Disk.write disk path text = .ok after) : view.Put path text disk after :=
  ⟨fun honest => view.honest_write honest written, view.text?_written written,
    fun _ apart => view.text?_apart written apart⟩

section

variable {touched further : Path → Prop} {a b c : δ}

/-- Where nothing is done to the files, none of them is given a text. -/
theorem Untouched.touchesOnly (untouched : view.Untouched a b) : view.TouchesOnly touched a b :=
  ⟨untouched.honest, fun path _ => untouched.text? path⟩

/-- Where a text is given to a file, only that one is touched. -/
theorem Put.touchesOnly {path : Path} {text : String} (put : view.Put path text a b)
    (inside : touched path) : view.TouchesOnly touched a b :=
  ⟨put.honest, fun other apart => put.others other (apart path inside)⟩

theorem TouchesOnly.trans (first : view.TouchesOnly touched a b)
    (second : view.TouchesOnly touched b c) : view.TouchesOnly touched a c :=
  ⟨second.honest ∘ first.honest, fun path apart =>
    (second.others path apart).trans (first.others path apart)⟩

/-- More files may be touched than are. -/
theorem TouchesOnly.mono (touches : view.TouchesOnly touched a b)
    (inside : ∀ path, touched path → further path) : view.TouchesOnly further a b :=
  ⟨touches.honest, fun path apart => touches.others path fun other member =>
    apart other (inside other member)⟩

end

end

end DiskView

namespace MemoryDisk

/-- An action that succeeds is not hindered. -/
theorem outcome_of_attempt {α : Type} {disk : MemoryDisk} {action : DiskAction} {path : Path}
    {next : Unit → Outcome α} {value : α}
    (done : (disk.attempt action path >>= next) = .ok value) : next () = .ok value := by
  cases tried : disk.attempt action path with
  | error failure =>
    rw [tried] at done
    cases done
  | ok =>
    rw [tried] at done
    exact done

/-- A reading that is not hindered finds the file or says that it is not there. -/
theorem read_eq (disk : MemoryDisk) (path : Path) :
    Disk.read disk path = (do
      disk.attempt .read path
      match disk.files.get? path with
      | some text => return text
      | none => throw (.of (.file ⟨.notFound, "File not found: " ++ path.text⟩))) := rfl

/-- No reading is made to fail as if there was no file. -/
def Honest (disk : MemoryDisk) : Prop :=
  ∀ hindrance ∈ disk.hindrances, hindrance.action = .read → hindrance.trouble ≠ .notFound

/-- Where nothing is made to fail, no reading is. -/
theorem honest_of_unhindered {disk : MemoryDisk} (unhindered : disk.hindrances = []) :
    disk.Honest := by
  rw [Honest, unhindered]
  nofun

/-- The files of a disk in memory, which are the same when their paths are. -/
def view : DiskView MemoryDisk where
  text? disk path := disk.files.get? path
  Apart path other := compare other path ≠ .eq
  Honest := Honest
  text?_of_read := by
    intro disk path text _ read
    have found := outcome_of_attempt read
    cases stored : disk.files.get? path with
    | none =>
      rw [stored] at found
      cases found
    | some text =>
      rw [stored] at found
      cases found
      rfl
  text?_of_notFound := by
    intro disk path failure honest read absent
    cases stored : disk.files.get? path with
    | none => rfl
    | some text =>
      -- A reading that was made to fail says so in another way.
      rw [read_eq, stored, attempt] at read
      split at read
      · rename_i hindrance found
        have concerned := List.find?_some found
        have action : hindrance.action = .read := by
          rw [Hindrance.concerns, Bool.and_eq_true, beq_iff_eq] at concerned
          exact concerned.1
        cases read
        have trouble : hindrance.trouble = .notFound := by
          simpa [Failure.isNotFound, Failure.of] using absent
        exact absurd trouble (honest hindrance (List.mem_of_find?_eq_some found) action)
      · cases read
  honest_write := by
    intro disk path text after honest written
    have written := outcome_of_attempt written
    cases written
    exact honest
  text?_written := by
    intro disk path text after written
    have written := outcome_of_attempt written
    cases written
    exact (SortedMap.get?_insert ..).trans (if_pos Std.ReflCmp.compare_self)
  text?_apart := by
    intro disk path text after other written apart
    have written := outcome_of_attempt written
    cases written
    exact (SortedMap.get?_insert ..).trans (if_neg apart)
  honest_makeDir := by
    intro disk dir after honest made
    have made := outcome_of_attempt made
    cases made
    exact honest
  text?_makeDir := by
    intro disk dir after path made
    have made := outcome_of_attempt made
    cases made
    rfl

end MemoryDisk

end MessageCatalog
