import MessageCatalog.Proofs.Session.CatalogTexts

/-! What a session knows of catalogs does not matter to how it writes them, as long as what it knows is
there. -/

namespace MessageCatalog

/-- A file that is there can be read with its text. -/
theorem Session.Readable.read {δ : Type} [Disk δ] {view : DiskView δ} {disk : δ} {path : Path}
    {text : String} (readable : Session.Readable disk path) (honest : view.Honest disk)
    (there : view.text? disk path = some text) : Disk.read disk path = .ok text := by
  -- A readable file that fails to be read would not be there.
  cases read : Disk.read disk path with
  | error failure =>
    rw [view.text?_of_notFound honest read (readable failure read)] at there
    cases there
  | ok existing =>
    rw [view.text?_of_read honest read] at there
    rw [Option.some.inj there]

namespace WriteCache

variable {δ : Type} [Disk δ]

/-- What comes of placing a text, and the disk that this leaves. -/
def placed (disk : δ) (path : Path) (text : String) : Outcome Unit × δ :=
  match prepared disk path with
  | .error failure => (.error failure, disk)
  | .ok ready =>
    match Disk.write ready path text with
    | .error failure => (.error (failure.within ("Failed to write " ++ path.text)), ready)
    | .ok after => (.ok (), after)

/-- What comes of giving a file a text when nothing is known of it, and the disk that this leaves. -/
def given (disk : δ) (path : Path) (text : String) : Outcome Bool × δ :=
  if Disk.read disk path = .ok text then (.ok false, disk)
  else match Disk.read disk path with
    | .ok _ => ((placed disk path text).1.map fun _ => true, (placed disk path text).2)
    | .error failure =>
      if failure.isNotFound then ((placed disk path text).1.map fun _ => true, (placed disk path text).2)
      else (.error failure, disk)

/-- A text is placed on the disk of a world, and nothing else of the world matters to that. -/
theorem run_placeIn (cache : WriteCache) (path : Path) (text : String) (world : World δ) :
    ((placeIn cache path text).run world).1.1 = (placed world.disk path text).1.map (fun _ => true) ∧
      ((placeIn cache path text).run world).2.disk = (placed world.disk path text).2 := by
  rw [placeIn, Session.run_worldBind, run_place, placed]
  -- The directory is made first, and the file is written if that succeeds.
  cases prepared world.disk path with
  | error failure => exact ⟨rfl, rfl⟩
  | ok disk =>
    dsimp only
    rw [run_putText, show (world.setDisk disk).disk = disk from rfl]
    cases Disk.write disk path text with
    | error failure => exact ⟨rfl, rfl⟩
    | ok after => exact ⟨rfl, Session.disk_logged _ _ _⟩

/-- A file is given a text by way of a cache as if nothing was known of it, when that text is known only
where it is there. -/
theorem run_writeIfChanged_of_settled (cache : WriteCache) (path : Path) (text : String)
    (world : World δ)
    (settled : cache.get? path = some text → Disk.read world.disk path = .ok text) :
    ((writeIfChanged cache path text : StateM (World δ) (Outcome Bool × WriteCache)).run world).1.1 =
        (given world.disk path text).1 ∧
      ((writeIfChanged cache path text :
        StateM (World δ) (Outcome Bool × WriteCache)).run world).2.disk =
          (given world.disk path text).2 := by
  rw [run_writeIfChanged, given]
  -- The cases are those of the cache: the text is known, or found in the file, or placed.
  by_cases known : cache.get? path = some text
  · rw [if_pos known, if_pos (settled known)]
    exact ⟨rfl, rfl⟩
  · rw [if_neg known]
    by_cases equal : Disk.read world.disk path = .ok text
    · rw [if_pos equal, if_pos equal]
      exact ⟨rfl, rfl⟩
    · rw [if_neg equal, if_neg equal]
      -- A text that is placed does not depend on the cache, and neither does a failed look at the file.
      cases Disk.read world.disk path with
      | ok existing => exact run_placeIn cache path text world
      | error failure =>
        dsimp only
        by_cases absent : failure.isNotFound = true
        · rw [if_pos absent, if_pos absent]
          exact run_placeIn cache path text world
        · rw [if_neg absent, if_neg absent]
          exact ⟨rfl, rfl⟩

end WriteCache

namespace Session

section

variable {δ : Type} [Disk δ]

/-- Writing by way of a cache is giving the file its text, when that is known only where it is there. -/
theorem given_of_writeCached {cache : Session → WriteCache}
    {setCache : Session → WriteCache → Session} {path : Path} {text : String}
    {session after : Session} {world later : World δ} {outcome : Outcome Bool}
    (settled : (cache session).get? path = some text → Disk.read world.disk path = .ok text)
    (ran : runOn (writeCached cache setCache path text) session world = (outcome, after, later)) :
    outcome = (WriteCache.given world.disk path text).1 ∧
      later.disk = (WriteCache.given world.disk path text).2 := by
  obtain ⟨told, disk⟩ := WriteCache.run_writeIfChanged_of_settled (cache session) path text world
    settled
  cases ran.symm.trans (runOn_writeCached rfl)
  exact ⟨told, disk⟩

end

/-- Two sessions with the same settings that have read the same. -/
structure ReadAlike (session other : Session) : Prop where
  same : SameSettings session other
  sources : other.sources = session.sources
  index : other.index = session.index

section

variable {δ : Type} [Disk δ] {view : DiskView δ} {session other between after : Session}
  {world world' middle later : World δ}

/-- What is kept while catalogs and bundles are written is what was read. -/
theorem KeepsReading.readAlike (kept : KeepsReading session after) : ReadAlike session after :=
  ⟨kept.sameSettings, by rw [kept], by rw [kept]⟩

theorem ReadAlike.trans {a b c : Session} (first : ReadAlike a b) (second : ReadAlike b c) :
    ReadAlike a c :=
  ⟨first.same.trans second.same, second.sources.trans first.sources, second.index.trans first.index⟩

theorem ReadAlike.symm (alike : ReadAlike session other) : ReadAlike other session :=
  ⟨⟨alike.same.1.symm, alike.same.2.1.symm, alike.same.2.2.symm⟩, alike.sources.symm,
    alike.index.symm⟩

/-- Catalogs become the same by the readings of both. -/
theorem ReadAlike.renew_eq (alike : ReadAlike session other) (locale stored : String) :
    other.renew locale stored = session.renew locale stored := by
  rw [renew, renew, style, style, alike.same.1, alike.index]

/-- Where a catalog is to have the text that the session knows of it, it has that text. -/
def Abreast (view : DiskView δ) (session : Session) (disk : δ) : Prop :=
  ∀ locale ∈ session.config.locales, ∀ merged text,
    session.renew locale ((view.text? disk (session.catalogPath locale)).getD "") =
      .ok (merged, text) →
    session.catalogCache.get? (session.catalogPath locale) = some text →
    view.text? disk (session.catalogPath locale) = some text

/-- A session that knows of no catalog is abreast of all. -/
theorem abreast_of_uncached {disk : δ} (uncached : session.catalogCache = ∅) :
    Abreast view session disk := by
  intro locale _ merged text _ known
  rw [uncached] at known
  cases known

/-- Sessions stay abreast while catalogs are written. -/
theorem Abreast.renews {name : String} {locales : List String} {entries : List Entry}
    (lined : Lined view session world.disk (name :: locales))
    (abreast : Abreast view session world.disk)
    (renews : Renews view session name world (.ok entries) between middle) :
    Abreast view between middle.disk := by
  have alike := renews.keepsBundles.keepsReading.readAlike
  intro locale listed merged text renewed known
  rw [alike.same.1] at listed
  rw [alike.renew_eq, alike.same.catalogPath_eq] at renewed
  rw [alike.same.catalogPath_eq] at known ⊢
  -- The catalog that is written is the one in question, or it is apart from it.
  by_cases same : name = locale
  · -- What is known of it now is its new text, and that is there.
    subst same
    obtain ⟨text', updates⟩ := renews.updates lined.honest
    cases updates.known.symm.trans known
    rcases updates.there with there | ⟨known, left⟩
    · exact there
    · rw [left]
      exact abreast name listed entries text updates.renewed known
  · obtain ⟨distinct, apart⟩ := lined.apart locale listed name (lined.listed name (.head _)) same
    obtain ⟨cache, file⟩ := renews.others distinct apart
    rw [file] at renewed ⊢
    rw [cache] at known
    exact abreast locale listed merged text renewed known

/-- Writing a catalog that can be read, and whose new text is known only where it is there, is giving it
that text. -/
theorem given_of_writeCatalog {name : String} {merged : List Entry} {text : String}
    {outcome : Outcome (List Entry)} (honest : view.Honest world.disk)
    (readable : Readable world.disk (session.catalogPath name))
    (renewed : session.renew name ((view.text? world.disk (session.catalogPath name)).getD "") =
      .ok (merged, text))
    (there : session.catalogCache.get? (session.catalogPath name) = some text →
      view.text? world.disk (session.catalogPath name) = some text)
    (ran : runOn (Session.writeCatalog name) session world = (outcome, after, later)) :
    outcome = (WriteCache.given world.disk (session.catalogPath name) text).1.map (fun _ => merged) ∧
      later.disk = (WriteCache.given world.disk (session.catalogPath name) text).2 := by
  -- The text can be brought up to date, and so the writing goes on to the cache.
  rcases runOn_writeCatalog_of_readable honest readable with
    ⟨_, _, refused, -⟩ | ⟨_, _, renewed', opened⟩
  · cases refused.symm.trans renewed
  · cases renewed.symm.trans renewed'
    rw [opened] at ran
    rcases wrote : runOn (writeCached catalogCache (fun session cache =>
      { session with catalogCache := cache }) (session.catalogPath name) text) session world with
      ⟨failure | written, between, middle⟩
    all_goals
      obtain ⟨told, disk⟩ :=
        given_of_writeCached (fun known => readable.read honest (there known)) wrote
      rw [wrote] at ran
      cases ran
      rw [← told]
      exact ⟨rfl, disk⟩

/-- Two sessions that have read the same, and know of a catalog only what is there, write it alike. -/
theorem ReadAlike.writeCatalog (alike : ReadAlike session other)
    (honest : view.Honest world.disk) (same : world'.disk = world.disk)
    (abreast : Abreast view session world.disk) (abreast' : Abreast view other world.disk)
    {name : String} (listed : name ∈ session.config.locales) {entries : List Entry}
    (ran : runOn (writeCatalog name) session world = (.ok entries, between, middle)) :
    ∃ between' middle', runOn (Session.writeCatalog name) other world' =
      (.ok entries, between', middle') ∧ middle'.disk = middle.disk := by
  have renews := Renews.of_ran honest ran
  generalize told : Except.ok entries = outcome at renews
  -- It succeeded, so it was brought up to date and written.
  cases renews with
  | unread => cases told
  | refused => cases told
  | unwritten => cases told
  | @renewed merged text _ _ _ readable renewed gives =>
    cases told
    -- The other session brings the catalog up to the same text, since it has read the same.
    have renewed' : other.renew name
        ((view.text? world'.disk (other.catalogPath name)).getD "") = .ok (entries, text) := by
      rw [alike.renew_eq, alike.same.catalogPath_eq, same]
      exact renewed
    have readable' : Readable world'.disk (other.catalogPath name) := by
      rw [alike.same.catalogPath_eq, same]
      exact readable
    -- What the catalog is given depends on the files only.
    obtain ⟨told, disk⟩ := given_of_writeCatalog honest readable renewed
      (abreast name listed entries text renewed) ran
    rcases ran' : runOn (Session.writeCatalog name) other world' with ⟨outcome', between', middle'⟩
    rw [← same] at abreast'
    obtain ⟨told', disk'⟩ := given_of_writeCatalog (same ▸ honest) readable' renewed'
      (abreast' name (alike.same.1 ▸ listed) entries text renewed') ran'
    rw [same, alike.same.catalogPath_eq] at told' disk'
    refine ⟨between', middle', ?_, disk'.trans disk.symm⟩
    rw [told', ← told]

/-- Two sessions that have read the same, and know of catalogs only what is there, write all of them
alike. -/
theorem ReadAlike.writeCatalogs {locales : List String} {found all : SortedMap String (List Entry)}
    (alike : ReadAlike session other) (lined : Lined view session world.disk locales)
    (same : world'.disk = world.disk) (abreast : Abreast view session world.disk)
    (abreast' : Abreast view other world.disk)
    (ran : runOn (writeCatalogs locales found) session world = (.ok all, between, middle)) :
    ∃ between' middle', runOn (Session.writeCatalogs locales found) other world' =
      (.ok all, between', middle') ∧ middle'.disk = middle.disk := by
  -- By induction on the locales; after each catalog the sessions have still read the same.
  induction locales generalizing session other world world' found with
  | nil =>
    cases ran
    exact ⟨_, _, rfl, same⟩
  | cons name locales ih =>
    rw [Session.writeCatalogs, runOn_bind] at ran
    rcases first : runOn (Session.writeCatalog name) session world with
      ⟨failure | entries, next, mid⟩
    -- A first session that fails at a catalog is none that succeeds.
    all_goals rw [first] at ran
    · cases ran
    · obtain ⟨next', mid', second, disk⟩ := alike.writeCatalog lined.honest same abreast abreast'
        (lined.listed name (.head _)) first
      have lined' : Lined view other world'.disk (name :: locales) := by
        refine ⟨same ▸ lined.honest, lined.apart.of_same alike.same, ?_⟩
        rw [alike.same.1]
        exact lined.listed
      have renews := Renews.of_ran lined.honest first
      have renews' := Renews.of_ran lined'.honest second
      -- What both sessions have read is the same before the next catalog as it was before this one.
      have reading : KeepsReading session next := renews.keepsBundles.keepsReading
      have reading' : KeepsReading other next' := renews'.keepsBundles.keepsReading
      rw [← same] at abreast'
      have later' := abreast'.renews lined' renews'
      rw [disk] at later'
      obtain ⟨last, latest, rest, ended⟩ := ih
        ((reading.readAlike.symm.trans alike).trans reading'.readAlike)
        (lined.tail (renews.advances lined)) disk (abreast.renews lined renews) later' ran
      refine ⟨last, latest, ?_, ended⟩
      rw [Session.writeCatalogs, runOn_bind, second]
      exact rest

end

end Session

end MessageCatalog
