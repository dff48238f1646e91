import MessageCatalog.Session.Basic

/-! A step of a session is a function of the session and the world; a failed step keeps what it did. -/

namespace MessageCatalog

namespace Session

variable {σ α β : Type}

/-- The outcome of a step, with the session and the world that it leaves. -/
def runOn (step : SessionM (StateM σ) α) (session : Session) (world : σ) :
    Outcome α × Session × σ :=
  let ((outcome, session), world) := (step.run.run session).run world
  (outcome, session, world)

@[simp] theorem runOn_pure (value : α) (session : Session) (world : σ) :
    runOn (pure value) session world = (.ok value, session, world) := rfl

@[simp] theorem runOn_throw (failure : Failure) (session : Session) (world : σ) :
    runOn (throw failure : SessionM (StateM σ) α) session world =
      (.error failure, session, world) := rfl

@[simp] theorem runOn_get (session : Session) (world : σ) :
    runOn (get : SessionM (StateM σ) Session) session world = (.ok session, session, world) := rfl

@[simp] theorem runOn_set (next session : Session) (world : σ) :
    runOn (set next : SessionM (StateM σ) PUnit) session world = (.ok ⟨⟩, next, world) := rfl

@[simp] theorem runOn_modify (change : Session → Session) (session : Session) (world : σ) :
    runOn (modify change : SessionM (StateM σ) PUnit) session world =
      (.ok ⟨⟩, change session, world) := rfl

@[simp] theorem runOn_monadLift (step : StateM σ α) (session : Session) (world : σ) :
    runOn (monadLift step : SessionM (StateM σ) α) session world =
      (.ok (step.run world).1, session, (step.run world).2) := rfl

@[simp] theorem runOn_perform (step : StateM σ (Outcome α)) (session : Session) (world : σ) :
    runOn (perform step : SessionM (StateM σ) α) session world =
      ((step.run world).1, session, (step.run world).2) := rfl

/-- A step after another one starts from what that one leaves, unless it failed. -/
theorem runOn_bind (step : SessionM (StateM σ) α) (next : α → SessionM (StateM σ) β)
    (session : Session) (world : σ) :
    runOn (step >>= next) session world =
      match runOn step session world with
      | (.ok value, session, world) => runOn (next value) session world
      | (.error failure, session, world) => (.error failure, session, world) := by
  simp only [runOn, ExceptT.run_bind, StateT.run_bind]
  rcases (step.run.run session).run world with ⟨⟨outcome, after⟩, later⟩
  cases outcome <;> rfl

/-- A step after one that succeeded. -/
theorem runOn_bind_ok {step : SessionM (StateM σ) α} {value : α} {session between : Session}
    {world later : σ} (succeeded : runOn step session world = (.ok value, between, later))
    (next : α → SessionM (StateM σ) β) :
    runOn (step >>= next) session world = runOn (next value) between later := by
  rw [runOn_bind, succeeded]

/-- A sequence that succeeded has a first step that succeeded, and a second one that goes on from
there. -/
theorem runOn_bind_eq_ok {step : SessionM (StateM σ) α} {next : α → SessionM (StateM σ) β}
    {value : β} {session after : Session} {world later : σ}
    (succeeded : runOn (step >>= next) session world = (.ok value, after, later)) :
    ∃ first between middle, runOn step session world = (.ok first, between, middle) ∧
      runOn (next first) between middle = (.ok value, after, later) := by
  rw [runOn_bind] at succeeded
  rcases ran : runOn step session world with ⟨first | first, between, middle⟩
  · simp [ran] at succeeded
  · exact ⟨first, between, middle, rfl, by simpa only [ran] using succeeded⟩

/-- A run by its outcome. -/
theorem ran_eq {ρ : Type} {run : ρ × Session × σ} {outcome : ρ} (told : run.1 = outcome) :
    run = (outcome, run.2.1, run.2.2) := by
  rw [← told]

/-- A run with its outcome told. -/
theorem runOn_eq {step : SessionM (StateM σ) α} {session : Session} {world : σ}
    {outcome : Outcome α} (told : (runOn step session world).1 = outcome) :
    runOn step session world =
      (outcome, (runOn step session world).2.1, (runOn step session world).2.2) := ran_eq told

/-- The session after a step, whatever its outcome, is related to the one before it. -/
def Keeps (R : Session → Session → Prop) (step : SessionM (StateM σ) α) : Prop :=
  ∀ session world, R session (runOn step session world).2.1

/-- A run of a step that keeps a relation relates the sessions around it. -/
theorem Keeps.of_ran {R : Session → Session → Prop} {step : SessionM (StateM σ) α}
    (keeps : Keeps R step) {session after : Session} {world later : σ} {outcome : Outcome α}
    (ran : runOn step session world = (outcome, after, later)) : R session after := by
  simpa only [ran] using keeps session world

/-- A transitive relation that both steps of a sequence keep is kept by the sequence. -/
theorem Keeps.bind {R : Session → Session → Prop} {step : SessionM (StateM σ) α}
    {next : α → SessionM (StateM σ) β} (first : Keeps R step)
    (second : ∀ value, Keeps R (next value))
    (trans : ∀ {a b c : Session}, R a b → R b c → R a c) : Keeps R (step >>= next) := by
  intro session world
  rw [runOn_bind]
  rcases ran : runOn step session world with ⟨failure | value, between, middle⟩
  · exact first.of_ran ran
  · exact trans (first.of_ran ran) (second value between middle)

/-- A step after a look at the session keeps what it keeps for every session. -/
theorem Keeps.after_get {R : Session → Session → Prop} {next : Session → SessionM (StateM σ) β}
    (each : ∀ session, Keeps R (next session)) : Keeps R (get >>= next) :=
  fun session world => each session session world

/-- A loop over steps that touch the world only. -/
theorem runOn_forIn {body : α → PUnit → SessionM (StateM σ) (ForInStep PUnit)}
    (effect : σ → α → σ)
    (each : ∀ item session world,
      runOn (body item ⟨⟩) session world = (.ok (.yield ⟨⟩), session, effect world item))
    (items : List α) (session : Session) (world : σ) :
    runOn (forIn items ⟨⟩ body) session world = (.ok ⟨⟩, session, items.foldl effect world) := by
  -- By induction on the items; the session goes through the loop as it is.
  induction items generalizing world with
  | nil => simp only [List.forIn_nil, runOn_pure, List.foldl_nil]
  | cons item items ih =>
    rw [List.forIn_cons, runOn_bind_ok (each item session world)]
    exact ih (effect world item)

end Session

end MessageCatalog
