import MessageCatalog.Proofs.Session.CatalogTexts

/-! A writing that fails at the catalog of some locale has brought those before it up to date, and changed
nothing else. -/

namespace MessageCatalog

namespace Session

section

variable {σ : Type} [FileSystem (StateM σ)] [Console (StateM σ)]

/-- The catalogs of some locales are written with success, and then that of another one is not. -/
def FailsAt (earlier : List String) (locale : String) (session : Session) (world : σ)
    (failure : Failure) (after : Session) (later : σ) : Prop :=
  ∃ all between middle,
    runOn (writeCatalogs earlier ∅) session.counted world = (.ok all, between, middle) ∧
    runOn (writeCatalog locale) between middle = (.error failure, after, later)

variable {session after : Session} {world later : σ} {merged : SortedMap String (List Entry)}
  {failure : Failure}

/-- Writing the catalogs of some locales, and then those of others. -/
theorem runOn_writeCatalogs_append (earlier locales : List String) :
    runOn (writeCatalogs (earlier ++ locales) merged) session world =
      match runOn (writeCatalogs earlier merged) session world with
      | (.ok all, between, middle) => runOn (writeCatalogs locales all) between middle
      | (.error failure, after, later) => (.error failure, after, later) := by
  -- By induction on the earlier locales; a failure at one of them stops both sides.
  induction earlier generalizing session world merged with
  | nil => rfl
  | cons name earlier ih =>
    rw [List.cons_append, writeCatalogs, writeCatalogs, runOn_bind, runOn_bind]
    rcases runOn (writeCatalog name) session world with ⟨failure | entries, between, middle⟩
    · rfl
    · exact ih

/-- A writing fails where it does so at a catalog. -/
theorem FailsAt.runOn_write {earlier rest : List String} {locale : String}
    (split : session.config.locales = earlier ++ locale :: rest)
    (fails : FailsAt earlier locale session world failure after later) :
    runOn write session world = (.error failure, after, later) := by
  obtain ⟨all, between, middle, wrote, failed⟩ := fails
  have stopped : runOn (writeCatalogs session.config.locales ∅) session.counted world =
      (.error failure, after, later) := by
    rw [split, runOn_writeCatalogs_append, wrote]
    dsimp only
    rw [writeCatalogs, runOn_bind, failed]
  rw [Session.runOn_write, stopped]

end

section

variable {δ : Type} [Disk δ] {view : DiskView δ} {session after : Session} {world later : World δ}

/-- A catalog that cannot be written is left as it was, as all other files. -/
theorem Renews.untouched {locale : String} {failure : Failure}
    (renews : Renews view session locale world (.error failure) after later) :
    view.Untouched world.disk later.disk := by
  cases renews with
  | unread => exact .refl _
  | refused => exact .refl _
  | unwritten _ _ gives =>
    cases gives with
    | failed _ _ untouched => exact untouched

/-- Writing catalogs changes no file but theirs. -/
theorem RenewsAll.touchesOnly {locales : List String} {found : SortedMap String (List Entry)}
    {outcome : Outcome (SortedMap String (List Entry))}
    (lined : Lined view session world.disk locales)
    (renews : RenewsAll view locales found session world outcome after later) :
    view.TouchesOnly (fun path => ∃ name ∈ locales, path = session.catalogPath name) world.disk
      later.disk := by
  -- By induction on the run; the catalogs have the same paths all along.
  induction renews with
  | nil => exact (DiskView.Untouched.refl _).touchesOnly
  | failed renews => exact renews.touchesOnly ⟨_, .head _, rfl⟩
  | @cons name locales _ _ session _ _ _ _ _ _ renews _ ih =>
    have advances := renews.advances lined
    refine (renews.touchesOnly ⟨_, .head _, rfl⟩).trans ((ih (lined.tail advances)).mono ?_)
    rintro path ⟨other, member, rfl⟩
    exact ⟨other, .tail _ member, advances.kept.keepsReading.sameSettings.catalogPath_eq other⟩

end

end Session

end MessageCatalog
