import Mathlib
import MessageCatalog.Proofs.Session.Read

/-! The index stays fresh over readings that succeed, but a failed one can leave it behind the texts for
good. -/

namespace MessageCatalog

namespace Session

section

variable {σ : Type} [FileSystem (StateM σ)] [Console (StateM σ)]

/-- A session begins with a fresh index. -/
theorem isFresh_new {config : Config} {session : Session} {world later : σ}
    (made : (new config : StateM σ (Outcome Session)).run world = (.ok session, later)) :
    session.IsFresh := by
  -- Without texts the index is empty.
  obtain ⟨-, included, ignored, dir, scratch, -, -, rfl⟩ := new_eq_ok made
  rfl

/-- A session after some readings, whatever the world had become before each of them, and whether a
failed one has changed texts or index since the index was made last. -/
inductive ReadRun (σ : Type) [FileSystem (StateM σ)] [Console (StateM σ)] (start : Session) :
    Session → Bool → Prop
  | start : ReadRun σ start start false
  | succeeded {before after : Session} {behind changes : Bool} {changed : Option (List Path)}
      {world later : σ} (earlier : ReadRun σ start before behind)
      (ran : runOn (read changed) before world = (.ok changes, after, later)) :
      ReadRun σ start after (behind && !changes)
  | harmless {before after : Session} {behind : Bool} {changed : Option (List Path)}
      {world later : σ} {failure : Failure} (earlier : ReadRun σ start before behind)
      (ran : runOn (read changed) before world = (.error failure, after, later))
      (sources : after.sources = before.sources) (index : after.index = before.index) :
      ReadRun σ start after behind
  | failed {before after : Session} {behind : Bool} {changed : Option (List Path)}
      {world later : σ} {failure : Failure} (earlier : ReadRun σ start before behind)
      (ran : runOn (read changed) before world = (.error failure, after, later)) :
      ReadRun σ start after true

/-- Without a failed reading that changed something, the index is fresh. -/
theorem ReadRun.isFresh {start session : Session} {behind : Bool} (fresh : start.IsFresh)
    (run : ReadRun σ start session behind) (abreast : behind = false) : session.IsFresh := by
  -- By induction on the run: a success makes the index fresh or keeps it, and harmless failures keep it.
  induction run with
  | start => exact fresh
  | @succeeded before after behind changes _ _ _ _ ran ih =>
    cases changes with
    | true => exact isFresh_of_read_true ran
    | false =>
      rw [(eq_of_read_false ran).2]
      exact ih (by simpa using abreast)
  | @harmless before after behind changed world _ _ _ ran sources index ih =>
    rw [IsFresh, sources, index, (keepsRest_of_read ran).functions]
    exact ih abreast
  | failed => cases abreast

/-- After a reading that succeeds, the index is the one of the texts exactly when the reading reports
a change or the index was that before; so it is unless a failed reading changed something since. -/
theorem isFresh_after_read_iff {config : Config} {start before after : Session}
    {behind changes : Bool} {changed : Option (List Path)} {dawn dusk world later : σ}
    (made : (new config : StateM σ (Outcome Session)).run dawn = (.ok start, dusk))
    (earlier : ReadRun σ start before behind)
    (ran : runOn (read changed) before world = (.ok changes, after, later)) :
    (after.IsFresh ↔ changes = true ∨ before.IsFresh) ∧ (behind = false → after.IsFresh) := by
  have fresh := earlier.isFresh (isFresh_new made)
  -- After a change the index is made anew, and otherwise the session is the same.
  cases changes with
  | true =>
    have now := isFresh_of_read_true ran
    exact ⟨⟨fun _ => .inl rfl, fun _ => now⟩, fun _ => now⟩
  | false =>
    obtain ⟨-, rfl⟩ := eq_of_read_false ran
    exact ⟨⟨.inr, fun either => either.resolve_left nofun⟩, fresh⟩

end

/-- A script that can be read, and one that cannot. -/
private def barredScript : World MemoryDisk :=
  .forbid (.ofFiles [(⟨"a.js"⟩, "__('A')"), (⟨"b.js"⟩, "__('B')")] []) .read ⟨"b.js"⟩

/-- Why that one cannot be read. -/
private def barredFailure : Failure where
  contexts := ["Failed to read source b.js"]
  cause := .file ⟨.permissionDenied, "injected read fault: b.js"⟩

/-- The session after it has read the one script. -/
private def readSession : Session := (runOn (read none) englishSession World.oneScript).2.1

/-- A reading that fails before it changes anything leaves a fresh index to the next one. -/
theorem isFresh_after_harmless_failure :
    (runOn (read none) (runOn (read none) readSession barredScript).2.1 World.oneScript).2.1.IsFresh := by
  have made := run_new_englishSession World.oneScript
  have first : (runOn (read none) englishSession World.oneScript).1 = .ok true := by cbv
  have second : (runOn (read none) readSession barredScript).1 = .error barredFailure := by cbv
  have third : (runOn (read none) (runOn (read none) readSession barredScript).2.1 World.oneScript).1 =
      .ok false := by cbv
  -- The failure in between is one that spares what is held.
  have run := ReadRun.harmless (.succeeded .start (runOn_eq first)) (runOn_eq second)
    (by cbv) (by cbv)
  exact (isFresh_after_read_iff made run (runOn_eq third)).2 rfl

/-- The session after it has read one script and failed at the other one. -/
private def barredSession : Session := (runOn (read none) englishSession barredScript).2.1

/-- The index can be stale after a reading that succeeds: a file could not be read, and was gone the
next time. -/
theorem not_isFresh_after_read :
    ¬ ∀ (config : Config) (start before after : Session) (behind changes : Bool)
      (changed : Option (List Path)) (dawn dusk world later : World MemoryDisk),
      (new config : StateM (World MemoryDisk) (Outcome Session)).run dawn = (.ok start, dusk) →
        ReadRun (World MemoryDisk) start before behind →
          runOn (read changed) before world = (.ok changes, after, later) → after.IsFresh := by
  intro claimed
  have made := run_new_englishSession barredScript
  have first : (runOn (read none) englishSession barredScript).1 = .error barredFailure := by cbv
  have second : (runOn (read none) barredSession World.oneScript).1 = .ok false := by cbv
  -- The second reading finds the text that the first one kept, and so no change.
  have fresh := claimed _ _ barredSession _ _ _ _ _ _ _ _ made
    (.failed .start (runOn_eq first)) (runOn_eq second)
  rw [(eq_of_read_false (runOn_eq second)).2] at fresh
  have stale : decide barredSession.IsFresh = false := by cbv
  exact of_decide_eq_false stale fresh

end Session

end MessageCatalog
