import MessageCatalog.Proofs.Session.Translations
import MessageCatalog.Proofs.Session.UpToDate

/-! Whatever a session went through, it knows messages by their keys, and its references lead to lines of
texts that it has read. -/

namespace MessageCatalog

/-- Sources that references of a format can name: their lines can be counted, and in blocks of lines the
names of their files hold no line feed. -/
def Format.Names : Format → SortedMap Path String → Prop
  | po, sources => ∀ source ∈ sources.toList,
      '\n' ∉ source.1.text.toList ∧ source.2.length < maxCount
  | json, sources => ∀ source ∈ sources.toList, source.2.length < maxCount
  | json5, sources => ∀ source ∈ sources.toList, source.2.length < 2 ^ 53

/-- Catalogs can hold references to such sources. -/
theorem Reference.RefersTo.held {format : Format} {sources : SortedMap Path String}
    (names : format.Names sources) {reference : Reference} (refers : reference.RefersTo sources) :
    format.Holds reference := by
  obtain ⟨source, member, named, line⟩ := refers
  -- Only the format with references on lines asks for more than a small number.
  cases format with
  | po =>
    obtain ⟨plain, small⟩ := names source member
    refine ⟨?_, Nat.le_trans line small⟩
    rw [named]
    exact Index.not_mem_displayName plain
  | json => exact Nat.le_trans line (names source member)
  | json5 => exact Nat.le_trans line (names source member)

namespace Session

/-- The messages in use stay as they were. -/
def KeepsLive (before after : Session) : Prop := after.index.live = before.index.live

theorem KeepsLive.trans {a b c : Session} (first : KeepsLive a b) (second : KeepsLive b c) :
    KeepsLive a c := Eq.trans second first

/-- Files have the keys that they had, or lost them. -/
def FewerKeys (before after : Session) : Prop :=
  ∀ file keys, after.index.keysByFile.get? file = some keys →
    before.index.keysByFile.get? file = some keys

theorem FewerKeys.trans {a b c : Session} (first : FewerKeys a b) (second : FewerKeys b c) :
    FewerKeys a c := fun file keys known => first file keys (second file keys known)

section

variable {σ : Type} {R : Session → Session → Prop} (same : ∀ session, R session session)
  (trans : ∀ {a b c}, R a b → R b c → R a c)

include same trans

variable [Console (StateM σ)] [FileSystem (StateM σ)]

/-- Reading texts, before the index is made anew, leads to what dropping files and keeping texts leads
to. -/
theorem keeps_readChanges
    (drop : ∀ (session : Session) (path : Path), R session { session with
      sources := session.sources.erase path
      index := session.index.dropFile path })
    (load : ∀ (session : Session) (path : Path) (text : String), R session { session with
      sources := session.sources.insert path text })
    (changed : Option (List Path)) (first : Bool) :
    Keeps R (readChanges changed first : SessionM (StateM σ) Bool) := by
  -- Texts are only changed by the two single steps, and a reading is a sequence of them.
  have dropSource (path : Path) : Keeps R (dropSource path : SessionM (StateM σ) Bool) := by
    intro session world
    rw [runOn_dropSource]
    split
    · exact drop session path
    · exact same session
  have loadSource (path : Path) : Keeps R (loadSource path : SessionM (StateM σ) Bool) := by
    intro session world
    rw [runOn_loadSource]
    split
    · split
      · exact dropSource path _ _
      · exact same session
    · split
      · exact same session
      · exact load session path _
  -- The law of steps carries both through lists of paths, and through a reading of every source.
  have law := stepLaw_keeps (σ := σ) R same trans
  unfold readChanges
  split
  · exact law.readAll dropSource loadSource (fun _ _ session _ => same session)
      (fun _ session _ => same session)
  · exact law.readSome dropSource loadSource (fun _ session _ => same session) _

end

section

variable {σ : Type} [Console (StateM σ)] [FileSystem (StateM σ)]

/-- Reading texts keeps the messages in use until the index is made anew. -/
theorem keepsLive_readChanges (changed : Option (List Path)) (first : Bool) :
    Keeps KeepsLive (readChanges changed first : SessionM (StateM σ) Bool) :=
  keeps_readChanges (R := KeepsLive) (fun _ => rfl) KeepsLive.trans (fun _ _ => rfl)
    (fun _ _ _ => rfl) changed first

/-- Reading texts gives no file other keys until the index is made anew. -/
theorem fewerKeys_readChanges (changed : Option (List Path)) (first : Bool) :
    Keeps FewerKeys (readChanges changed first : SessionM (StateM σ) Bool) := by
  -- Only dropping a source changes the keys by file, and it removes those of one file.
  refine keeps_readChanges (fun _ _ _ => id) .trans (fun session path file keys known => ?_)
    (fun _ _ _ _ _ => id) changed first
  have known : (session.index.keysByFile.erase path).get? file = some keys := known
  rw [SortedMap.get?_erase] at known
  split at known
  · cases known
  · exact known

/-- A session that comes of another one by readings, writings and ends, with any outcome, whatever the
world has become before each of them. The texts that it has after each reading pass a test. -/
inductive Reached (σ : Type) [FileSystem (StateM σ)] [Console (StateM σ)]
    (fits : SortedMap Path String → Prop) (start : Session) : Session → Prop
  | start : Reached σ fits start start
  | read {before after : Session} {world later : σ} {changed : Option (List Path)}
    {outcome : Outcome Bool} (earlier : Reached σ fits start before)
    (ran : runOn (read changed) before world = (outcome, after, later))
    (fitting : fits after.sources) : Reached σ fits start after
  | write {before after : Session} {world later : σ} {outcome : Outcome Bool}
    (earlier : Reached σ fits start before)
    (ran : runOn write before world = (outcome, after, later)) : Reached σ fits start after
  | update {before after : Session} {world later : σ} {changed : Option (List Path)}
    {outcome : Outcome Bool} (earlier : Reached σ fits start before)
    (ran : runOn (update changed) before world = (outcome, after, later))
    (fitting : fits after.sources) : Reached σ fits start after
  | close {before after : Session} {world later : σ} {outcome : Outcome Unit}
    (earlier : Reached σ fits start before)
    (ran : runOn close before world = (outcome, after, later)) : Reached σ fits start after

/-- What stays over all that a session goes through: its settings, and what the messages in use are known
to be. -/
structure Kept (test : Reference → Prop) (start session : Session) : Prop where
  same : SameSettings start session
  sound : session.index.live.Sound test

theorem Kept.of_keepsReading {test : Reference → Prop} {start session after : Session}
    (kept : Kept test start session) (reading : KeepsReading session after) :
    Kept test start after where
  same := kept.same.trans reading.sameSettings
  sound := by
    rw [reading]
    exact kept.sound

/-- A reading makes the index anew from the texts that it leaves, or keeps the messages in use. -/
theorem Kept.read {test : Reference → Prop} {start session after : Session}
    (named : Source.Named start.functions) (kept : Kept test start session)
    {changed : Option (List Path)} {world later : σ} {outcome : Outcome Bool}
    (ran : runOn (read changed) session world = (outcome, after, later))
    (passes : ∀ reference : Reference, reference.RefersTo after.sources → test reference) :
    Kept test start after := by
  have same : SameSettings session after :=
    SameSettings.trans ⟨rfl, rfl, rfl⟩ (keepsRest_of_read ran).sameSettings
  refine ⟨kept.same.trans same, ?_⟩
  rcases read_cases ran with ⟨failure, rfl, went⟩ | ⟨-, rfl, -, -⟩ | ⟨_, _, _, rfl, -, -, -⟩
  · -- The reading failed before the index was made.
    have live := (keepsLive_readChanges changed !session.hasRead).of_ran went
    rw [show after.index.live = session.index.live from live]
    exact kept.sound
  · exact kept.sound
  · -- Every usage in the new index is a reference to a text that is held.
    have named' : Source.Named after.functions := by
      rw [same.2.1, kept.same.2.1]
      exact named
    rw [isFresh_of_read_true ran]
    exact (Index.sound_ofSources named' after.sources).imp passes

/-- An update reads, and it writes after a reading that reports a change. -/
theorem Kept.update {test : Reference → Prop} {start session after : Session}
    (named : Source.Named start.functions) (kept : Kept test start session)
    {changed : Option (List Path)} {world later : σ} {outcome : Outcome Bool}
    (ran : runOn (update changed) session world = (outcome, after, later))
    (passes : ∀ reference : Reference, reference.RefersTo after.sources → test reference) :
    Kept test start after := by
  -- A writing behind the reading changes neither the sources nor the index.
  rcases update_cases ran with ⟨_, -, opened⟩ | ⟨_, -, -, opened⟩ |
    ⟨between, _, _, -, opened, written⟩
  · exact kept.read named opened passes
  · exact kept.read named opened passes
  · have wrote : KeepsReading between after := keepsReading_write.of_ran written
    have texts : after.sources = between.sources := by rw [wrote]
    rw [texts] at passes
    exact (kept.read named opened passes).of_keepsReading wrote

/-- Whatever a session went through, its settings stay, and the messages in use are known by their keys,
with references to texts that passed. -/
theorem Reached.kept {test : Reference → Prop} {fits : SortedMap Path String → Prop}
    {start session : Session} (reached : Reached σ fits start session)
    (named : Source.Named start.functions) (begun : Kept test start start)
    (passes : ∀ sources, fits sources →
      ∀ reference : Reference, reference.RefersTo sources → test reference) :
    Kept test start session := by
  -- By induction on what the session went through; writing and ending keep what was read.
  induction reached with
  | start => exact begun
  | read _ ran fitting ih => exact ih.read named ran (passes _ fitting)
  | write _ ran ih => exact ih.of_keepsReading (keepsReading_write.of_ran ran)
  | update _ ran fitting ih => exact ih.update named ran (passes _ fitting)
  | close _ ran ih => exact ih.of_keepsReading (keepsReading_close.of_ran ran)

/-- A session that was made and has read sources that references can name is steady. -/
theorem Reached.steady {config : Config} {start session : Session} {dawn dusk : σ}
    (made : (new config : StateM σ (Outcome Session)).run dawn = (.ok start, dusk))
    (counted : ∀ locale, config.pluralFormsFor locale ≤ maxCount)
    (reached : Reached σ config.format.Names start session) :
    SameSettings start session ∧ session.Steady := by
  have named := named_new made
  obtain ⟨-, included, ignored, dir, scratch, -, -, rfl⟩ := new_eq_ok made
  -- A new session begins with nothing in use, which is sound.
  have kept := reached.kept named ⟨⟨rfl, rfl, rfl⟩, LiveMessages.sound_empty⟩
    fun _ names _ refers => refers.held names
  have format : session.config = config := kept.same.1
  refine ⟨kept.same, ?_, ?_⟩
  · rw [format]
    exact kept.sound
  · rw [format]
    exact counted

end

end Session

end MessageCatalog
