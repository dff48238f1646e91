import MessageCatalog.Proofs.Session.Reached
import MessageCatalog.Proofs.Session.Writes

/-! What a session and the files around it go through, while other programs change files, too. -/

namespace MessageCatalog

namespace Session

variable {δ : Type} [Disk δ]

section

variable (view : DiskView δ) (spared : Session → Path → Prop)

/-- What may happen next to a session and the world: the session reads, writes or ends, with any outcome,
or other programs change files, except those that they spare. -/
inductive Happens : Session × World δ → Session × World δ → Prop
  | others {session : Session} {world later : World δ}
    (honest : view.Honest world.disk → view.Honest later.disk)
    (alone : ∀ path, spared session path → view.text? later.disk path = view.text? world.disk path) :
    Happens (session, world) (session, later)
  | read {session after : Session} {world later : World δ} {changed : Option (List Path)}
    {outcome : Outcome Bool} (ran : runOn (read changed) session world = (outcome, after, later)) :
    Happens (session, world) (after, later)
  | write {session after : Session} {world later : World δ} {outcome : Outcome Bool}
    (ran : runOn write session world = (outcome, after, later)) :
    Happens (session, world) (after, later)
  /-- The directory that goes with the session holds none of the files that are spared. -/
  | close {session after : Session} {world later : World δ} {outcome : Outcome Unit}
    (ran : runOn close session world = (outcome, after, later))
    (honest : view.Honest world.disk → view.Honest later.disk)
    (alone : ∀ path, spared session path → view.text? later.disk path = view.text? world.disk path) :
    Happens (session, world) (after, later)

/-- The moments of a session and the world since some start, the last one first. -/
inductive History (start : Session × World δ) : List (Session × World δ) → Prop
  | start : History start [start]
  | next {now moment : Session × World δ} {past : List (Session × World δ)}
    (earlier : History start (moment :: past)) (happens : Happens view spared moment now) :
    History start (now :: moment :: past)

end

section

variable {view : DiskView δ} {spared : Session → Path → Prop} {start now : Session × World δ}
  {moment : Session × World δ} {past : List (Session × World δ)}

/-- The end of a session makes it forget its directory, and nothing else. -/
theorem eq_of_close {session after : Session} {world later : World δ} {outcome : Outcome Unit}
    (ran : runOn close session world = (outcome, after, later)) :
    after = { session with scratchDir := none } := by
  rw [close, runOn_bind, runOn_get] at ran
  dsimp only at ran
  rw [runOn_bind, runOn_set] at ran
  dsimp only at ran
  -- A directory is removed if there is one, and the outcome of that is only told.
  split at ran
  · rw [runOn_bind, runOn_monadLift] at ran
    dsimp only at ran
    split at ran
    · rw [runOn_perform] at ran
      cases ran
      rfl
    · cases ran
      rfl
  · cases ran
    rfl

/-- An update is a reading, and a writing behind it when something changed. -/
theorem History.update {session after : Session} {world later : World δ}
    (history : History view spared start ((session, world) :: past)) {changed : Option (List Path)}
    {outcome : Outcome Bool}
    (ran : runOn (update changed) session world = (outcome, after, later)) :
    ∃ between, History view spared start ((after, later) :: between) := by
  rcases update_cases ran with ⟨_, -, opened⟩ | ⟨_, -, rfl, opened⟩ | ⟨_, _, _, -, opened, written⟩
  · exact ⟨_, history.next (.read opened)⟩
  · -- That there was nothing to do is logged, which changes no file.
    refine ⟨_, (history.next (.read opened)).next (.others ?_ fun path _ => ?_)⟩
    · rw [disk_logged]
      exact id
    · rw [disk_logged]
  · exact ⟨_, (history.next (.read opened)).next (.write written)⟩

/-- Whatever happens keeps the settings. -/
theorem Happens.sameSettings (happens : Happens view spared moment now) :
    SameSettings moment.1 now.1 := by
  -- Neither other programs nor the steps of a session change its settings.
  cases happens with
  | others => exact ⟨rfl, rfl, rfl⟩
  | read ran => exact SameSettings.trans ⟨rfl, rfl, rfl⟩ (keepsRest_of_read ran).sameSettings
  | write ran => exact (keepsReading_write.of_ran ran).sameSettings
  | close ran =>
    rw [eq_of_close ran]
    exact ⟨rfl, rfl, rfl⟩

/-- The settings stay over a history. -/
theorem History.sameSettings (history : History view spared start (now :: past)) :
    SameSettings start.1 now.1 := by
  generalize told : now :: past = moments at history
  -- By induction on the history, each step of which keeps them.
  induction history generalizing now past with
  | start =>
    cases told
    exact ⟨rfl, rfl, rfl⟩
  | next _ happens ih =>
    cases told
    exact (ih rfl).trans happens.sameSettings

/-- What a session goes through in a history, it goes through without the world being told. -/
theorem History.reached (history : History view spared start (now :: past)) :
    Reached (World δ) (fun _ => True) start.1 now.1 := by
  generalize told : now :: past = moments at history
  -- By induction on the moments; what other programs do leaves the session as it is.
  induction history generalizing now past with
  | start =>
    cases told
    exact .start
  | next _ happens ih =>
    cases told
    have earlier := ih rfl
    cases happens with
    | others => exact earlier
    | read ran => exact earlier.read ran trivial
    | write ran => exact earlier.write ran
    | close ran => exact earlier.close ran

/-- Catalogs that lie in different files do so as long as the settings stay, and files that are there
are found as long as nobody makes them look lost. -/
theorem Lined.happens (lined : Lined view moment.1 moment.2.disk moment.1.config.locales)
    (happens : Happens view spared moment now) :
    Lined view now.1 now.2.disk now.1.config.locales := by
  refine ⟨?_, lined.apart.of_same happens.sameSettings, fun _ => id⟩
  cases happens with
  | others honest => exact honest lined.honest
  | @read _ _ _ _ changed _ ran => exact (keepsDisk_read changed).of_ran ran ▸ lined.honest
  | write ran => exact ((Writes.of_ran lined ran).touchesOnly lined).2.honest lined.honest
  | close _ honest => exact honest lined.honest

/-- Catalogs lie in different files at the end of a history if they did so at its start. -/
theorem History.lined (history : History view spared start (now :: past))
    (begun : Lined view start.1 start.2.disk start.1.config.locales) :
    Lined view now.1 now.2.disk now.1.config.locales := by
  generalize told : now :: past = moments at history
  -- By induction on the moments, whatever happens between two of them.
  induction history generalizing now past with
  | start =>
    cases told
    exact begun
  | next _ happens ih =>
    cases told
    exact (ih rfl).happens happens

/-- A session never forgets a bundle. -/
theorem Happens.knowsMore (happens : Happens view spared moment now)
    (lined : Lined view moment.1 moment.2.disk moment.1.config.locales) :
    KnowsMore moment.1 now.1 := by
  have same {after : Session} (kept : after.bundleCaches = moment.1.bundleCaches) :
      KnowsMore moment.1 after := by
    intro path known
    unfold KnowsBundle
    rw [kept]
    exact known
  -- Only a writing adds bundles, and it forgets none.
  cases happens with
  | others => exact same rfl
  | read ran => exact same (by rw [keepsRest_of_read ran])
  | write ran => exact (Writes.of_ran lined ran).knowsMore lined
  | close ran => exact same (by rw [eq_of_close ran])

end

end Session

end MessageCatalog
