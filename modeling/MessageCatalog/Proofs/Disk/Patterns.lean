import MessageCatalog.Disk.Host
import MessageCatalog.Disk.Memory
import MessageCatalog.Proofs.Entry.Fault

/-! Files are searched by patterns, and only then can an operation on files fail because of a pattern. -/

namespace MessageCatalog

/-- A failure because of a pattern. -/
def Failure.isPattern (failure : Failure) : Bool :=
  match failure.cause with
  | .pattern _ => true
  | _ => false

@[simp] theorem Failure.isPattern_within (failure : Failure) (context : String) :
    (failure.within context).isPattern = failure.isPattern := rfl

/-- An outcome that is a failure because of a pattern. -/
def FailsByPattern {α : Type} : Outcome α → Prop
  | .ok _ => False
  | .error failure => failure.isPattern = true

instance {α : Type} : (outcome : Outcome α) → Decidable (FailsByPattern outcome)
  | .ok _ => inferInstanceAs (Decidable False)
  | .error failure => inferInstanceAs (Decidable (failure.isPattern = true))

@[simp] theorem failsByPattern_ok {α : Type} (value : α) :
    FailsByPattern (.ok value : Outcome α) ↔ False := .rfl

@[simp] theorem failsByPattern_error {α : Type} (failure : Failure) :
    FailsByPattern (.error failure : Outcome α) ↔ failure.isPattern = true := .rfl

/-- Trouble with a file is no failure because of a pattern. -/
theorem not_failsByPattern_fileFault {α : Type} (context : String) (result : Except FileFault α) :
    ¬ FailsByPattern (FileFault.within context result) := by
  cases result with
  | error fault => exact Bool.false_ne_true
  | ok value => exact id

/-- A text that is a pattern. -/
def IsPattern (text : String) : Prop := ∃ pattern, Pattern.parse text = .ok pattern

/-- Texts that are patterns are compiled, and others are refused because one of them is none. -/
theorem compilePatterns_cases (texts : List String) :
    ((∃ patterns, compilePatterns texts = .ok patterns) ∧ ∀ text ∈ texts, IsPattern text) ∨
      FailsByPattern (compilePatterns texts) ∧ ∃ text ∈ texts, ¬ IsPattern text := by
  -- By induction on the texts; the first one that is no pattern stops the compiling.
  induction texts with
  | nil => exact .inl ⟨⟨[], rfl⟩, nofun⟩
  | cons text texts ih =>
    cases parsed : Pattern.parse text with
    | error fault =>
      refine .inr ⟨?_, text, .head _, ?_⟩
      · rw [compilePatterns, parsed]
        rfl
      · rintro ⟨pattern, known⟩
        rw [parsed] at known
        cases known
    | ok pattern =>
      have opened : compilePatterns (text :: texts) =
          (do return pattern :: (← compilePatterns texts)) := by
        rw [compilePatterns, parsed]
        rfl
      rw [opened]
      rcases ih with ⟨⟨patterns, compiled⟩, all⟩ | ⟨failed, other, member, none⟩
      · rw [compiled]
        exact .inl ⟨⟨_, rfl⟩, List.forall_mem_cons.2 ⟨⟨pattern, parsed⟩, all⟩⟩
      · -- The first pattern is compiled, and the failure is that of a later one.
        refine .inr ⟨?_, other, .tail _ member, none⟩
        cases compiled : compilePatterns texts with
        | ok patterns => simp [compiled] at failed
        | error failure =>
          rw [compiled] at failed
          exact failed

/-- Texts are refused because of a pattern when one of them is none. -/
theorem failsByPattern_compilePatterns (texts : List String) :
    FailsByPattern (compilePatterns texts) ↔ ∃ text ∈ texts, ¬ IsPattern text := by
  rcases compilePatterns_cases texts with ⟨⟨patterns, compiled⟩, all⟩ | ⟨failed, none⟩
  · simpa [compiled] using all
  · exact iff_of_true failed none

/-- Texts that were compiled are patterns. -/
theorem isPattern_of_compiled {texts : List String} {patterns : List Pattern}
    (compiled : compilePatterns texts = .ok patterns) : ∀ text ∈ texts, IsPattern text := by
  rcases compilePatterns_cases texts with ⟨-, all⟩ | ⟨failed, -⟩
  · exact all
  · simp [compiled] at failed

/-- Files that fail because of a pattern in a search only, and there just when one of the searched
patterns is not usable. -/
structure TellsPatterns (σ : Type) [FileSystem (StateM σ)] (usable : String → Prop) : Prop where
  read : ∀ (path : Path) (world : σ),
    ¬ FailsByPattern ((FileSystem.read path : StateM σ (Outcome String)).run world).1
  write : ∀ (path : Path) (text : String) (world : σ),
    ¬ FailsByPattern ((FileSystem.write path text : StateM σ (Outcome Unit)).run world).1
  makeDir : ∀ (path : Path) (world : σ),
    ¬ FailsByPattern ((FileSystem.makeDir path : StateM σ (Outcome Unit)).run world).1
  removeDir : ∀ (path : Path) (world : σ),
    ¬ FailsByPattern ((FileSystem.removeDir path : StateM σ (Outcome Unit)).run world).1
  glob : ∀ (patterns : List String) {ignore : List String} (world : σ),
    (∀ text ∈ ignore, IsPattern text) →
      (FailsByPattern
        ((FileSystem.glob patterns ignore : StateM σ (Outcome (SortedSet Path))).run world).1 ↔
          ∃ text ∈ patterns, ¬ usable text)

/-- What follows on an outcome that is no failure because of a pattern. -/
theorem not_failsByPattern_bind {α β : Type} {outcome : Outcome α} {next : α → Outcome β}
    (first : ¬ FailsByPattern outcome) (second : ∀ value, ¬ FailsByPattern (next value)) :
    ¬ FailsByPattern (outcome >>= next) := by
  cases outcome with
  | error failure => exact first
  | ok value => exact second value

/-- A step that fails for a list fails for one of its items. -/
theorem exists_of_mapM_error {α β : Type} {step : α → Outcome β} {items : List α} {failure : Failure}
    (refused : items.mapM step = .error failure) : ∃ item ∈ items, step item = .error failure := by
  -- By induction on the items: the first one is refused, or one of the others.
  induction items with
  | nil => cases refused
  | cons item items ih =>
    rw [List.mapM_cons, bind_eq_error] at refused
    rcases refused with first | ⟨value, -, refused⟩
    · exact ⟨item, .head _, first⟩
    · rcases bind_eq_error.1 refused with rest | ⟨values, -, done⟩
      · obtain ⟨later, member, told⟩ := ih rest
        exact ⟨later, .tail _ member, told⟩
      · cases done

namespace MemoryDisk

/-- A hindered action meets trouble with a file. -/
theorem not_failsByPattern_attempt (disk : MemoryDisk) (action : DiskAction) (path : Path) :
    ¬ FailsByPattern (disk.attempt action path) := by
  unfold attempt
  split
  · exact Bool.false_ne_true
  · exact id

/-- An action on files in memory that changes them. -/
theorem not_failsByPattern_settle {outcome : Outcome MemoryDisk} (world : World MemoryDisk)
    (first : ¬ FailsByPattern outcome) : ¬ FailsByPattern (world.settle outcome).1 := by
  cases outcome with
  | error failure => exact first
  | ok disk => exact id

/-- Files in memory take every pattern. -/
theorem tellsPatterns : TellsPatterns (World MemoryDisk) IsPattern where
  read path world := by
    refine not_failsByPattern_bind (world.disk.not_failsByPattern_attempt .read path) fun _ => ?_
    split
    · exact id
    · exact Bool.false_ne_true
  write path text world := not_failsByPattern_settle world
    (not_failsByPattern_bind (world.disk.not_failsByPattern_attempt .write path) fun _ => id)
  makeDir path world := not_failsByPattern_settle world
    (not_failsByPattern_bind (world.disk.not_failsByPattern_attempt .makeDir path) fun _ => id)
  removeDir path world := not_failsByPattern_settle world
    (not_failsByPattern_bind (world.disk.not_failsByPattern_attempt .removeDir path) fun _ => id)
  glob patterns ignore world left := by
    -- What is ignored compiles by assumption, and so the patterns decide.
    show FailsByPattern (Disk.glob world.disk patterns ignore) ↔ _
    rw [← failsByPattern_compilePatterns]
    simp only [Disk.glob]
    rcases compilePatterns_cases ignore with ⟨⟨ignored, compiled⟩, -⟩ | ⟨-, text, member, none⟩
    · rw [compiled]
      cases compilePatterns patterns <;> rfl
    · exact absurd (left text member) none

end MemoryDisk

/-- A pattern with which the directories of a machine can be walked through: its components are patterns
as well. -/
def IsWalkable (text : String) : Prop :=
  IsPattern text ∧ ∃ components, Glob.componentPatterns text.toList = .ok components

namespace Glob

/-- Pieces of a pattern are refused because one of them is none. -/
theorem isPattern_of_componentPatterns {text : List Char} {failure : Failure}
    (refused : componentPatterns text = .error failure) : failure.isPattern = true := by
  obtain ⟨piece, -, refused⟩ := exists_of_mapM_error refused
  -- Only a piece that does not parse is refused.
  cases parsed : Pattern.parse (String.ofList piece) with
  | error fault =>
    rw [parsed] at refused
    cases refused
    rfl
  | ok pattern =>
    rw [parsed] at refused
    cases refused

variable {σ : Type} [Host (StateM σ)]

/-- A walk along a pattern that is walkable leads to paths, and any other is refused because of a
pattern. -/
theorem walk_cases (text : String) (world : σ) :
    IsWalkable text ∧ (∃ results later,
        (walk text : StateM σ (Outcome (List (Except (Path × FileFault) Path)))).run world =
          (.ok results, later)) ∨
      ¬ IsWalkable text ∧ ∃ failure, failure.isPattern = true ∧
        (walk text : StateM σ (Outcome (List (Except (Path × FileFault) Path)))).run world =
          (.error failure, world) := by
  unfold walk
  -- A walk parses its pattern first and then splits it; only these two steps refuse it.
  cases parsed : Pattern.parse text with
  | error fault =>
    refine .inr ⟨?_, _, ?_, rfl⟩
    · rintro ⟨⟨pattern, known⟩, -⟩
      rw [parsed] at known
      cases known
    · rfl
  | ok pattern =>
    cases pieces : componentPatterns text.toList with
    | error failure =>
      refine .inr ⟨?_, _, ?_, rfl⟩
      · rintro ⟨-, components, known⟩
        rw [pieces] at known
        cases known
      · exact (Failure.isPattern_within ..).trans (isPattern_of_componentPatterns pieces)
    | ok components => exact .inl ⟨⟨⟨pattern, parsed⟩, components, pieces⟩, _, _, rfl⟩

variable [Console (StateM σ)]

/-- Walks are refused because of a pattern when the pattern of one of them is not walkable. -/
theorem failsByPattern_walkAll (ignore : List Pattern) (texts : List String) (found : SortedSet Path)
    (world : σ) :
    FailsByPattern
        ((walkAll ignore texts found : StateM σ (Outcome (SortedSet Path))).run world).1 ↔
      ∃ text ∈ texts, ¬ IsWalkable text := by
  -- By induction on the patterns; the first one that is not walkable stops the walks.
  induction texts generalizing found world with
  | nil => exact iff_of_false id nofun
  | cons text texts ih =>
    rw [walkAll, StateT.run_bind]
    rcases walk_cases text world with ⟨walkable, results, later, ran⟩ | ⟨none, failure, told, ran⟩
    · simp only [ran, List.mem_cons, exists_eq_or_imp, not_not_intro walkable, false_or]
      exact ih _ _
    · rw [ran]
      exact iff_of_true told ⟨text, .head _, none⟩

end Glob

/-- The files of a machine take patterns with which its directories can be walked through. -/
theorem tellsPatterns_host {σ : Type} [Host (StateM σ)] [Console (StateM σ)] :
    TellsPatterns σ IsWalkable where
  read path world := not_failsByPattern_fileFault _ _
  write path text world := by
    show ¬ FailsByPattern (Except.mapError _ ((Host.replaceText path.directory path text :
      StateM σ (Except (ReplaceStep × FileFault) Unit)).run world).1)
    cases ((Host.replaceText path.directory path text :
        StateM σ (Except (ReplaceStep × FileFault) Unit)).run world).1 with
    | error fault => exact Bool.false_ne_true
    | ok => exact id
  makeDir path world := not_failsByPattern_fileFault _ _
  removeDir path world := not_failsByPattern_fileFault _ _
  glob patterns ignore world left := by
    -- What is ignored compiles, and so a walk decides.
    rcases compilePatterns_cases ignore with ⟨⟨ignored, compiled⟩, -⟩ | ⟨-, text, member, none⟩
    · rw [← Glob.failsByPattern_walkAll ignored patterns ∅ world]
      simp only [FileSystem.glob, compiled]
    · exact absurd (left text member) none

end MessageCatalog
