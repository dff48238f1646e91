import MessageCatalog.Proofs.Format.Renewal
import MessageCatalog.Proofs.Session.WriteCache

/-! Writing catalogs and bundles leaves what each catalog tells as it is. -/

namespace MessageCatalog

namespace Session

/-- A catalog fault stops a step, and leaves session and world as they are. -/
theorem runOn_inCatalog {σ α : Type} (doing : String) (path : Path) (result : Except CatalogFault α)
    (session : Session) (world : σ) :
    runOn (inCatalog doing path result) session world =
      (result.mapError fun fault =>
        (Failure.of (.catalog fault)).within (doing ++ " " ++ path.text), session, world) := by
  cases result <;> rfl

section

variable {δ : Type} [Disk δ] {view : DiskView δ}

variable (view) in
/-- What writing by way of a cache can do, told of what ran. -/
theorem gives_of_writeCached {cache : Session → WriteCache}
    {setCache : Session → WriteCache → Session} {path : Path} {text : String}
    {session after : Session} {world later : World δ} {outcome : Outcome Bool}
    (ran : runOn (writeCached cache setCache path text) session world = (outcome, after, later)) :
    ∃ updated, after = setCache session updated ∧
      WriteCache.Gives view (cache session) path text world outcome updated later := by
  rcases gives : (WriteCache.writeIfChanged (cache session) path text :
    StateM (World δ) (Outcome Bool × WriteCache)).run world with ⟨⟨written, updated⟩, latest⟩
  cases ran.symm.trans (runOn_writeCached gives)
  exact ⟨updated, rfl, .of_ran view gives⟩

/-- A catalog is read as its file says, and one that is not there is blank. -/
theorem runOn_readCatalog (path : Path) (session : Session) (world : World δ) :
    runOn (readCatalog path) session world =
      (match Disk.read world.disk path with
        | .ok text => .ok text
        | .error failure => if failure.isNotFound then .ok "" else .error failure,
        session, world) := by
  rw [readCatalog, runOn_bind, runOn_monadLift, World.run_read]
  dsimp only
  -- Only a file that is not there passes for an empty text.
  cases Disk.read world.disk path with
  | ok text => rfl
  | error failure =>
    dsimp only
    split <;> rfl

/-- What a stored text becomes when the catalog of a locale is brought up to date. -/
def renew (session : Session) (locale stored : String) :
    Except CatalogFault (List Entry × String) :=
  session.config.format.renew session.style session.index.live
    (session.config.pluralFormsFor locale) stored

/-- A file can be read, or it is not there. -/
def Readable (disk : δ) (path : Path) : Prop :=
  ∀ failure, Disk.read disk path = .error failure → failure.isNotFound = true

/-- A catalog that can be read is read as its text, which is empty where it is not there. -/
theorem runOn_readCatalog_of_readable {path : Path} {session : Session} {world : World δ}
    (honest : view.Honest world.disk) (readable : Readable world.disk path) :
    runOn (readCatalog path) session world =
      (.ok ((view.text? world.disk path).getD ""), session, world) := by
  rw [runOn_readCatalog]
  -- A file that cannot be read is not there, and then the view has no text for it either.
  cases read : Disk.read world.disk path with
  | error failure =>
    rw [view.text?_of_notFound honest read (readable failure read)]
    simp only [readable failure read, if_true]
    rfl
  | ok stored =>
    rw [view.text?_of_read honest read]
    rfl

/-- What comes of writing the catalog of a locale. -/
inductive Renews (view : DiskView δ) (session : Session) (locale : String) (world : World δ) :
    Outcome (List Entry) → Session → World δ → Prop
  /-- The catalog cannot be read. -/
  | unread {failure : Failure}
    (read : Disk.read world.disk (session.catalogPath locale) = .error failure)
    (unlike : failure.isNotFound = false) :
    Renews view session locale world (.error failure) session world
  /-- What it holds cannot be brought up to date. -/
  | refused {fault : CatalogFault} {failure : Failure}
    (refused : session.renew locale
      ((view.text? world.disk (session.catalogPath locale)).getD "") = .error fault)
    (told : failure.isFileFault = false) :
    Renews view session locale world (.error failure) session world
  /-- Its new text cannot be written. -/
  | unwritten {merged : List Entry} {text : String} {cache : WriteCache} {failure : Failure}
    {later : World δ} (readable : Readable world.disk (session.catalogPath locale))
    (renewed : session.renew locale
      ((view.text? world.disk (session.catalogPath locale)).getD "") = .ok (merged, text))
    (gives : WriteCache.Gives view session.catalogCache (session.catalogPath locale) text world
      (.error failure) cache later) :
    Renews view session locale world (.error failure) { session with catalogCache := cache } later
  /-- It has its new text. -/
  | renewed {merged : List Entry} {text : String} {cache : WriteCache} {written : Bool}
    {later : World δ} (readable : Readable world.disk (session.catalogPath locale))
    (renewed : session.renew locale
      ((view.text? world.disk (session.catalogPath locale)).getD "") = .ok (merged, text))
    (gives : WriteCache.Gives view session.catalogCache (session.catalogPath locale) text world
      (.ok written) cache later) :
    Renews view session locale world (.ok merged) { session with
      catalogCache := cache
      summary := { session.summary with
        catalogWrites := session.summary.catalogWrites + written.toNat
        newEntries := session.summary.newEntries + countStatus merged .new
        unusedEntries := session.summary.unusedEntries + countStatus merged .unused } } later

/-- Where a catalog can be read, writing it stops before anything is done, or it is writing the text that it
becomes by way of the cache. -/
theorem runOn_writeCatalog_of_readable {session : Session} {world : World δ} {locale : String}
    (honest : view.Honest world.disk) (readable : Readable world.disk (session.catalogPath locale)) :
    (∃ fault failure, session.renew locale
        ((view.text? world.disk (session.catalogPath locale)).getD "") = .error fault ∧
      failure.isFileFault = false ∧
      runOn (writeCatalog locale) session world = (.error failure, session, world)) ∨
    ∃ merged text, session.renew locale
        ((view.text? world.disk (session.catalogPath locale)).getD "") = .ok (merged, text) ∧
      runOn (writeCatalog locale) session world =
        match runOn (writeCached catalogCache (fun session cache =>
          { session with catalogCache := cache }) (session.catalogPath locale) text) session world with
        | (.error failure, between, later) => (.error failure, between, later)
        | (.ok written, between, later) =>
          (.ok merged, { between with summary := { between.summary with
            catalogWrites := between.summary.catalogWrites + written.toNat
            newEntries := between.summary.newEntries + countStatus merged .new
            unusedEntries := between.summary.unusedEntries + countStatus merged .unused } }, later) := by
  -- Along the step: what was read is parsed, merged into a text, and written by the cache.
  rw [writeCatalog, runOn_bind, runOn_get]
  dsimp only
  rw [runOn_bind, runOn_readCatalog_of_readable honest readable]
  dsimp only
  generalize (view.text? world.disk (session.catalogPath locale)).getD "" = stored
  rw [runOn_bind, runOn_inCatalog, renew, Format.renew]
  -- A stored text that cannot be read, or a merged catalog that cannot be written, stops the step.
  cases session.config.format.parse stored with
  | error fault => exact .inl ⟨fault, _, rfl, rfl, rfl⟩
  | ok entries =>
    dsimp only [Except.mapError]
    rw [runOn_bind, runOn_inCatalog]
    cases stringified : session.config.format.stringify { session.style with
        crlf := Json.usesCrlf stored.toList }
        (merge entries session.index.live (session.config.pluralFormsFor locale)) with
    | error fault =>
      refine .inl ⟨fault, _, ?_, rfl, rfl⟩
      simp only [stringified, bind, Except.bind]
    | ok text =>
      refine .inr ⟨merge entries session.index.live (session.config.pluralFormsFor locale), text, ?_,
        ?_⟩
      · simp only [stringified, bind, Except.bind]
        rfl
      · -- The last step writes by way of the cache, and nothing comes after it.
        dsimp only [Except.mapError]
        rw [runOn_bind]
        rcases runOn (writeCached catalogCache (fun session cache =>
          { session with catalogCache := cache }) (session.catalogPath locale) text) session world with
          ⟨failure | wrote, between, later⟩ <;> rfl

/-- Writing the catalog of a locale brings its text up to date, unless a step on the way fails. -/
theorem Renews.of_ran {session after : Session} {locale : String} {world later : World δ}
    {outcome : Outcome (List Entry)} (honest : view.Honest world.disk)
    (ran : runOn (writeCatalog locale) session world = (outcome, after, later)) :
    Renews view session locale world outcome after later := by
  -- What is read decides: a text to bring up to date, or nothing that can be read.
  by_cases readable : Readable world.disk (session.catalogPath locale)
  · rcases runOn_writeCatalog_of_readable honest readable with
      ⟨fault, failure, refused, told, stops⟩ | ⟨merged, text, renewed, opened⟩
    · cases ran.symm.trans stops
      exact .refused refused told
    · -- The writing by way of the cache ends with a text or with a failure.
      rw [opened] at ran
      rcases wrote : runOn (writeCached catalogCache (fun session cache =>
        { session with catalogCache := cache }) (session.catalogPath locale) text) session world with
        ⟨failure | written, between, middle⟩
      all_goals
        obtain ⟨cache, rfl, gives⟩ := gives_of_writeCached view wrote
        rw [wrote] at ran
        cases ran
      · exact .unwritten readable renewed gives
      · exact .renewed readable renewed gives
  · -- The file is there and is not read, so nothing comes after the reading.
    obtain ⟨failure, unread, present⟩ : ∃ failure,
        Disk.read world.disk (session.catalogPath locale) = .error failure ∧
          ¬ failure.isNotFound = true := by
      by_contra all
      exact readable fun failure read => by_contra fun present => all ⟨failure, read, present⟩
    have read : runOn (readCatalog (session.catalogPath locale)) session world =
        (.error failure, session, world) := by
      rw [runOn_readCatalog, unread]
      simp only [present]
      rfl
    rw [writeCatalog, runOn_bind, runOn_get] at ran
    dsimp only at ran
    rw [runOn_bind, read] at ran
    cases ran
    exact .unread unread (Bool.eq_false_iff.2 present)

/-- What is done to the files by writing the catalog of a locale. -/
inductive Rewrites (view : DiskView δ) (session : Session) (locale : String) (before after : δ) :
    Prop
  | untouched (untouched : view.Untouched before after)
  | put {entries : List Entry} {style : Json.Style} {text : String} (indented : style.Blank)
    (parsed : session.config.format.parse
      ((view.text? before (session.catalogPath locale)).getD "") = .ok entries)
    (written : session.config.format.stringify style
      (merge entries session.index.live (session.config.pluralFormsFor locale)) = .ok text)
    (put : view.Put (session.catalogPath locale) text before after)

/-- Documents are indented by spaces. -/
theorem blank_style (session : Session) (crlf : Bool) :
    Json.Style.Blank { session.style with crlf } := by
  intro c member
  rw [Json.Style.spaces_ofWidth member]
  rfl

/-- Writing a catalog does nothing, or gives it the text that it becomes by way of the cache. -/
theorem Renews.gives {session after : Session} {locale : String} {world later : World δ}
    {outcome : Outcome (List Entry)}
    (renews : Renews view session locale world outcome after later) :
    (after = session ∧ later = world) ∨ ∃ merged text written cache,
      session.renew locale ((view.text? world.disk (session.catalogPath locale)).getD "") =
        .ok (merged, text) ∧
      WriteCache.Gives view session.catalogCache (session.catalogPath locale) text world written cache
        later ∧
      after.catalogCache = cache := by
  cases renews with
  | unread => exact .inl ⟨rfl, rfl⟩
  | refused => exact .inl ⟨rfl, rfl⟩
  | unwritten _ renewed gives => exact .inr ⟨_, _, _, _, renewed, gives, rfl⟩
  | renewed _ renewed gives => exact .inr ⟨_, _, _, _, renewed, gives, rfl⟩

/-- Nothing is done to the files by writing the catalog of a locale, or the catalog is given the text that it
becomes when it is brought up to date. -/
theorem put_or_untouched_writeCatalog (locale : String) (session : Session) {world : World δ}
    (honest : view.Honest world.disk) :
    view.Untouched world.disk (runOn (writeCatalog locale) session world).2.2.disk ∨
      ∃ merged text, session.renew locale
          ((view.text? world.disk (session.catalogPath locale)).getD "") = .ok (merged, text) ∧
        view.Put (session.catalogPath locale) text world.disk
          (runOn (writeCatalog locale) session world).2.2.disk := by
  rcases ran : runOn (writeCatalog locale) session world with ⟨outcome, after, later⟩
  -- Only once the text is known is anything done, and then by the cache.
  rcases (Renews.of_ran honest ran).gives with
    ⟨-, rfl⟩ | ⟨merged, text, written, cache, renewed, gives, -⟩
  · exact .inl (.refl _)
  · cases gives.leaves with
    | unknown untouched => exact .inl untouched
    | known untouched => exact .inl untouched
    | put put => exact .inr ⟨merged, text, renewed, put⟩

/-- The catalog of a locale is merged and written, or nothing is done to the files. -/
theorem rewrites_writeCatalog (locale : String) (session : Session) {world : World δ}
    (honest : view.Honest world.disk) :
    Rewrites view session locale world.disk
      (runOn (writeCatalog locale) session world).2.2.disk := by
  rcases put_or_untouched_writeCatalog locale session honest with
    untouched | ⟨merged, text, renewed, put⟩
  · exact .untouched untouched
  · obtain ⟨entries, parsed, rfl, written⟩ := Format.renew_eq_ok.1 renewed
    exact .put (blank_style session _) parsed written put

/-- Settings under which the catalog of a locale is written with what it tells, and no other catalog is
written to its file. -/
structure Guards (view : DiskView δ) (locale : String) (session : Session) : Prop where
  plain : session.config.format ≠ .json5
  counted : ∀ other, session.config.pluralFormsFor other ≤ maxCount
  apart : ∀ other ∈ session.config.locales, other ≠ locale →
    view.Apart (session.catalogPath other) (session.catalogPath locale)

/-- A disk on which the catalog of a locale tells some translations. -/
structure Holds (view : DiskView δ) (locale : String) (told : SortedMap Key Translation)
    (session : Session) (disk : δ) : Prop where
  honest : view.Honest disk
  tells : ∃ text, view.text? disk (session.catalogPath locale) = some text ∧
    session.config.format.Tells text told

/-- Two sessions with the same settings and the same directory of catalogs. -/
def SameSettings (a b : Session) : Prop :=
  b.config = a.config ∧ b.functions = a.functions ∧ b.templateDir = a.templateDir

theorem SameSettings.trans {a b c : Session} (first : SameSettings a b)
    (second : SameSettings b c) : SameSettings a c :=
  ⟨second.1.trans first.1, second.2.1.trans first.2.1, second.2.2.trans first.2.2⟩

theorem KeepsReading.sameSettings {a b : Session} (kept : KeepsReading a b) : SameSettings a b := by
  unfold SameSettings
  rw [kept]
  exact ⟨rfl, rfl, rfl⟩

theorem KeepsRest.sameSettings {a b : Session} (kept : KeepsRest a b) : SameSettings a b := by
  unfold SameSettings
  rw [kept]
  exact ⟨rfl, rfl, rfl⟩

section

variable {locale : String} {told : SortedMap Key Translation} {session other : Session}

/-- The same settings name the same files. -/
theorem SameSettings.catalogPath_eq (same : SameSettings session other) (locale : String) :
    other.catalogPath locale = session.catalogPath locale := by
  rw [catalogPath, catalogPath, same.1, same.2.2]

theorem Guards.of_same (guards : Guards view locale session)
    (same : SameSettings session other) : Guards view locale other where
  plain := by
    rw [same.1]
    exact guards.plain
  counted := by
    rw [same.1]
    exact guards.counted
  apart := by
    -- With the same settings each catalog has the path that it had.
    intro name listed differs
    rw [same.1] at listed
    rw [same.catalogPath_eq, same.catalogPath_eq]
    exact guards.apart name listed differs

theorem Holds.of_same {disk : δ} (holds : Holds view locale told session disk)
    (same : SameSettings session other) : Holds view locale told other disk := by
  refine ⟨holds.honest, ?_⟩
  rw [same.1, same.catalogPath_eq]
  exact holds.tells

/-- Where nothing is done to the files, the catalog tells what it told. -/
theorem Holds.of_untouched {before after : δ} (holds : Holds view locale told session before)
    (untouched : view.Untouched before after) : Holds view locale told session after := by
  refine ⟨untouched.honest holds.honest, ?_⟩
  rw [untouched.text?]
  exact holds.tells

/-- Where another file is given a text, the catalog tells what it told. -/
theorem Holds.of_put_apart {before after : δ} (holds : Holds view locale told session before)
    {path : Path} {text : String} (put : view.Put path text before after)
    (apart : view.Apart path (session.catalogPath locale)) :
    Holds view locale told session after := by
  refine ⟨put.honest holds.honest, ?_⟩
  rw [put.others _ apart]
  exact holds.tells

/-- Where the catalog of some locale is merged and written, the catalog tells what it told. -/
theorem Holds.of_rewrites {before after : δ} (holds : Holds view locale told session before)
    (guards : Guards view locale session) (sound : session.index.live.Sound Reference.Legible)
    {name : String} (listed : name ∈ session.config.locales)
    (rewrites : Rewrites view session name before after) :
    Holds view locale told session after := by
  cases rewrites with
  | untouched untouched => exact holds.of_untouched untouched
  | put indented parsed written put =>
    by_cases same : name = locale
    · subst same
      obtain ⟨stored, held, tells⟩ := holds.tells
      rw [held, Option.getD_some] at parsed
      -- The catalog itself is written: what it held is merged into the new text.
      have merged := tells.merge guards.plain parsed sound (guards.counted name) indented written
      exact ⟨put.honest holds.honest, _, put.written, merged⟩
    · exact holds.of_put_apart put (guards.apart name listed same)

/-- Writing the catalogs of some locales, also when it fails on the way, leaves what the catalog of a
locale tells. -/
theorem holds_writeCatalogs (guards : Guards view locale session)
    (sound : session.index.live.Sound Reference.Legible) {locales : List String}
    (listed : ∀ name ∈ locales, name ∈ session.config.locales)
    (merged : SortedMap String (List Entry)) {world : World δ}
    (holds : Holds view locale told session world.disk) :
    Holds view locale told session
      (runOn (writeCatalogs locales merged) session world).2.2.disk := by
  -- By induction on the locales; each catalog that is written leaves the settings as they are.
  induction locales generalizing session merged world with
  | nil => exact holds
  | cons name locales ih =>
    have written := holds.of_rewrites guards sound (listed name (.head _))
      (rewrites_writeCatalog name session holds.honest)
    rw [writeCatalogs, runOn_bind]
    rcases ran : runOn (writeCatalog name) session world with
      ⟨failure | entries, between, later⟩
    all_goals rw [ran] at written
    · exact written
    · -- What comes next runs in a session with the same settings, and so it keeps the same.
      have kept := ((keepsBundles_writeCatalog name).of_ran ran).keepsReading
      have same := kept.sameSettings
      have back : SameSettings between session := ⟨same.1.symm, same.2.1.symm, same.2.2.symm⟩
      have sound' : between.index.live.Sound Reference.Legible := by
        rw [kept]
        exact sound
      have listed' : ∀ name ∈ locales, name ∈ between.config.locales := by
        rw [same.1]
        exact fun name member => listed name (.tail _ member)
      exact (ih (guards.of_same same) sound' listed' _ (written.of_same same)).of_same back

end

end

end Session

end MessageCatalog
