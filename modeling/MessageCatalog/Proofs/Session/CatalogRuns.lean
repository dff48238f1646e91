import MessageCatalog.Proofs.Session.UpToDate

/-! Writing all catalogs brings each of them up to date, and finds nothing to write where each is so. -/

namespace MessageCatalog

namespace Session

/-- The session keeps the catalog of some locale at a path. -/
def IsCatalog (session : Session) (path : Path) : Prop :=
  ∃ locale ∈ session.config.locales, path = session.catalogPath locale

theorem KeepsReading.isCatalog_eq {session after : Session} (kept : KeepsReading session after) :
    after.IsCatalog = session.IsCatalog := by
  rw [kept]
  rfl

section

variable {δ : Type} [Disk δ] (view : DiskView δ)

/-- What comes of writing the catalogs of some locales, one after the other until one fails. -/
inductive RenewsAll : List String → SortedMap String (List Entry) → Session → World δ →
    Outcome (SortedMap String (List Entry)) → Session → World δ → Prop
  | nil {merged : SortedMap String (List Entry)} {session : Session} {world : World δ} :
    RenewsAll [] merged session world (.ok merged) session world
  | failed {name : String} {locales : List String} {merged : SortedMap String (List Entry)}
    {session after : Session} {world later : World δ} {failure : Failure}
    (renews : Renews view session name world (.error failure) after later) :
    RenewsAll (name :: locales) merged session world (.error failure) after later
  | cons {name : String} {locales : List String} {merged : SortedMap String (List Entry)}
    {entries : List Entry} {session between after : Session} {world middle later : World δ}
    {outcome : Outcome (SortedMap String (List Entry))}
    (renews : Renews view session name world (.ok entries) between middle)
    (rest : RenewsAll locales (merged.insert name entries) between middle outcome after later) :
    RenewsAll (name :: locales) merged session world outcome after later

/-- The catalogs of a session lie in files of their own, and those of some locales are to be written. -/
structure Lined (session : Session) (disk : δ) (locales : List String) : Prop where
  honest : view.Honest disk
  apart : CatalogsApart view session
  listed : ∀ name ∈ locales, name ∈ session.config.locales

/-- The texts that catalogs are known to have are there. -/
def Coherent (session : Session) (disk : δ) : Prop :=
  ∀ locale ∈ session.config.locales, ∀ text,
    session.catalogCache.get? (session.catalogPath locale) = some text →
      view.text? disk (session.catalogPath locale) = some text

/-- Catalogs are written, and nothing else is; those that are up to date stay so. -/
structure Advances (session after : Session) (before later : δ) : Prop where
  kept : KeepsBundles session after
  files : view.TouchesOnly session.IsCatalog before later
  upToDate : ∀ locale ∈ session.config.locales, ∀ entries,
    UpToDate view session before locale entries → UpToDate view after later locale entries
  coherent : Coherent view session before → Coherent view after later

/-- Bringing catalogs up to date would write nothing: each of them is up to date, as far as they can be
brought up to date at all. -/
inductive Quiet (session : Session) (disk : δ) : List String → Prop
  | nil : Quiet session disk []
  | stopped {name : String} {locales : List String} {fault : CatalogFault}
    (refused : session.renew name ((view.text? disk (session.catalogPath name)).getD "") =
      .error fault) : Quiet session disk (name :: locales)
  | cons {name : String} {locales : List String} {entries : List Entry}
    (upToDate : UpToDate view session disk name entries) (rest : Quiet session disk locales) :
    Quiet session disk (name :: locales)

end

section

variable {δ : Type} [Disk δ] {view : DiskView δ} {session after : Session} {world later : World δ}
  {name : String} {locales : List String} {merged : SortedMap String (List Entry)}

/-- Nothing is written. -/
theorem Advances.refl (session : Session) (disk : δ) : Advances view session session disk disk where
  kept := rfl
  files := (DiskView.Untouched.refl _).touchesOnly
  upToDate _ _ _ := id
  coherent := id

theorem Advances.trans {a b c : Session} {early middle late : δ}
    (first : Advances view a b early middle) (second : Advances view b c middle late) :
    Advances view a c early late where
  kept := first.kept.trans second.kept
  files := by
    have files := second.files
    rw [first.kept.keepsReading.isCatalog_eq] at files
    exact first.files.trans files
  upToDate locale listed entries upToDate := by
    refine second.upToDate locale ?_ entries (first.upToDate locale listed entries upToDate)
    rw [first.kept.keepsReading.sameSettings.1]
    exact listed
  coherent := second.coherent ∘ first.coherent

/-- Writing the catalog of one locale advances the catalogs. -/
theorem Renews.advances {outcome : Outcome (List Entry)}
    (lined : Lined view session world.disk (name :: locales))
    (renews : Renews view session name world outcome after later) :
    Advances view session after world.disk later.disk where
  kept := renews.keepsBundles
  files := renews.touchesOnly ⟨name, lined.listed name (.head _), rfl⟩
  upToDate locale listed entries upToDate :=
    upToDate.renews lined.honest
      (fun differs => lined.apart locale listed name (lined.listed name (.head _)) differs) renews
  coherent := by
    intro coherent locale listed text known
    have same := renews.keepsBundles.keepsReading.sameSettings
    rw [same.1] at listed
    rw [same.catalogPath_eq] at known ⊢
    -- A catalog that is another one than that which is written keeps its text and its cache.
    by_cases differs : name = locale
    · subst differs
      exact renews.there_of_known lined.honest (coherent name listed) known
    · obtain ⟨distinct, different⟩ :=
        lined.apart locale listed name (lined.listed name (.head _)) differs
      obtain ⟨cache, file⟩ := renews.others distinct different
      rw [cache] at known
      rw [file]
      exact coherent locale listed text known

/-- After the catalog of the first locale, those of the others are to be written. -/
theorem Lined.tail (lined : Lined view session world.disk (name :: locales))
    (advances : Advances view session after world.disk later.disk) :
    Lined view after later.disk locales where
  honest := advances.files.honest lined.honest
  apart := lined.apart.of_same advances.kept.keepsReading.sameSettings
  listed := by
    rw [advances.kept.keepsReading.sameSettings.1]
    exact fun other member => lined.listed other (.tail _ member)

/-- Writing catalogs brings them up to date one after the other, until a step on the way fails. -/
theorem RenewsAll.of_ran {outcome : Outcome (SortedMap String (List Entry))}
    (lined : Lined view session world.disk locales)
    (ran : runOn (writeCatalogs locales merged) session world = (outcome, after, later)) :
    RenewsAll view locales merged session world outcome after later := by
  -- By induction on the locales; each catalog lies apart from those behind it.
  induction locales generalizing session world merged with
  | nil =>
    cases ran
    exact .nil
  | cons name locales ih =>
    rw [writeCatalogs, runOn_bind] at ran
    rcases first : runOn (writeCatalog name) session world with ⟨failure | entries, between, middle⟩
    all_goals
      rw [first] at ran
      have renews := Renews.of_ran lined.honest first
    · cases ran
      exact .failed renews
    · exact .cons renews (ih (lined.tail (renews.advances lined)) ran)

section

variable {outcome : Outcome (SortedMap String (List Entry))} {all : SortedMap String (List Entry)}

/-- Writing catalogs, also when it fails on the way, advances them. -/
theorem RenewsAll.advances (lined : Lined view session world.disk locales)
    (renews : RenewsAll view locales merged session world outcome after later) :
    Advances view session after world.disk later.disk := by
  induction renews with
  | nil => exact .refl _ _
  | failed renews => exact renews.advances lined
  | cons renews _ ih =>
    have first := renews.advances lined
    exact first.trans (ih (lined.tail first))

/-- Where writing catalogs succeeds, other locales have the entries that they had. -/
theorem RenewsAll.get?_of_not_mem {locale : String}
    (renews : RenewsAll view locales merged session world (.ok all) after later)
    (other : locale ∉ locales) : all.get? locale = merged.get? locale := by
  generalize told : Except.ok all = outcome at renews
  -- By induction on the run, which only adds entries for its locales.
  induction renews with
  | nil =>
    cases told
    rfl
  | failed => cases told
  | cons _ _ ih =>
    rw [List.mem_cons, not_or] at other
    rw [ih other.2 told, SortedMap.get?_insert, if_neg ?_]
    exact fun same => other.1 (Std.LawfulEqOrd.eq_of_compare same)

/-- Writing catalogs that succeeds brings each of them up to date, with the entries that it tells. -/
theorem RenewsAll.upToDate (steady : session.Steady) (lined : Lined view session world.disk locales)
    (renews : RenewsAll view locales merged session world (.ok all) after later) :
    ∀ locale ∈ locales, ∃ entries, all.get? locale = some entries ∧
      UpToDate view after later.disk locale entries := by
  -- By induction on the run; a locale that is listed again is told by its last writing.
  generalize told : Except.ok all = outcome at renews
  induction renews with
  | nil => exact nofun
  | failed => cases told
  | @cons name locales merged entries session between after world middle later outcome renews rest
    ih =>
    cases told
    have first := renews.advances lined
    have others := ih (steady.of_kept first.kept.keepsReading) (lined.tail first) rfl
    intro locale member
    by_cases again : locale ∈ locales
    · exact others locale again
    · -- It is the first one, and what follows leaves it up to date.
      obtain rfl : locale = name := (List.mem_cons.1 member).resolve_right again
      have listed : locale ∈ between.config.locales := by
        rw [first.kept.keepsReading.sameSettings.1]
        exact lined.listed locale (.head _)
      refine ⟨entries, ?_, (rest.advances (lined.tail first)).upToDate locale listed entries
        (renews.upToDate steady lined.honest)⟩
      rw [rest.get?_of_not_mem again, SortedMap.get?_insert, if_pos Std.ReflCmp.compare_self]

/-- Catalogs that are all up to date are quiet. -/
theorem Quiet.of_upToDate {disk : δ}
    (upToDate : ∀ locale ∈ locales, ∃ entries, UpToDate view session disk locale entries) :
    Quiet view session disk locales := by
  induction locales with
  | nil => exact .nil
  | cons locale locales ih =>
    obtain ⟨entries, first⟩ := upToDate locale (.head _)
    exact .cons first (ih fun other member => upToDate other (.tail _ member))

/-- Writing catalogs leaves them quiet, unless it fails by trouble with a file. -/
theorem RenewsAll.quiet (steady : session.Steady) (lined : Lined view session world.disk locales)
    (renews : RenewsAll view locales merged session world outcome after later)
    (untroubled : Disk.Untroubled δ outcome) :
    Quiet view after later.disk locales := by
  -- By induction on the run: a failure can only be one of the text, which the next writing meets
  -- again.
  induction renews with
  | nil => exact .nil
  | @failed _ _ _ _ _ _ _ failure renews =>
    -- The catalog could not be brought up to date, and nothing is done to it.
    obtain ⟨tells, harmless⟩ := untroubled failure rfl
    cases renews with
    | unread read =>
      rw [tells.read read] at harmless
      cases harmless
    | refused refused => exact .stopped refused
    | unwritten _ _ gives =>
      cases gives with
      | failed _ _ _ told =>
        rw [told tells] at harmless
        cases harmless
  | @cons name locales merged entries session between after world middle later outcome renews rest
    ih =>
    have first := renews.advances lined
    have listed : name ∈ between.config.locales := by
      rw [first.kept.keepsReading.sameSettings.1]
      exact lined.listed name (.head _)
    exact .cons ((rest.advances (lined.tail first)).upToDate name listed entries
        (renews.upToDate steady lined.honest))
      (ih (steady.of_kept first.kept.keepsReading) (lined.tail first) untroubled)

/-- Catalogs that hold the same texts are quiet for a session for which they stay up to date. -/
theorem Quiet.imp {before disk : δ} (quiet : Quiet view session before locales)
    (kept : KeepsReading session after)
    (file : ∀ name ∈ locales, view.text? disk (session.catalogPath name) =
      view.text? before (session.catalogPath name))
    (imp : ∀ name ∈ locales, ∀ entries, UpToDate view session before name entries →
      UpToDate view after disk name entries) : Quiet view after disk locales := by
  -- By induction on the catalogs: the one that stops is found with the same text.
  induction quiet with
  | nil => exact .nil
  | @stopped name locales fault refused =>
    have refused' : after.renew name
        ((view.text? disk (after.catalogPath name)).getD "") = .error fault := by
      rw [kept.sameSettings.catalogPath_eq, file name (.head _), kept]
      exact refused
    exact .stopped refused'
  | @cons name locales entries upToDate _ ih =>
    exact .cons (imp name (.head _) entries upToDate)
      (ih (fun other member => file other (.tail _ member))
        fun other member => imp other (.tail _ member))

/-- Where catalogs are quiet, writing them leaves the world as it is, and counts no write. -/
theorem RenewsAll.eq_of_quiet (lined : Lined view session world.disk locales)
    (renews : RenewsAll view locales merged session world outcome after later)
    (quiet : Quiet view session world.disk locales) :
    later = world ∧ after.summary.catalogWrites = session.summary.catalogWrites := by
  -- By induction on the run: each catalog is up to date, or the first that is not stops it unread.
  induction renews with
  | nil => exact ⟨rfl, rfl⟩
  | failed renews =>
    cases quiet with
    | stopped refused =>
      obtain ⟨rfl, rfl, -⟩ := renews.eq_of_refused refused
      exact ⟨rfl, rfl⟩
    | cons upToDate =>
      obtain ⟨rfl, counted, -⟩ := renews.eq_of_upToDate lined.honest upToDate
      exact ⟨rfl, counted⟩
  -- Later catalogs are still up to date after an earlier one was met, for nothing was written.
  | cons renews rest ih =>
    cases quiet with
    | stopped refused =>
      obtain ⟨-, -, -, ⟨⟩⟩ := renews.eq_of_refused refused
    | cons upToDate quiet =>
      have first := renews.advances lined
      obtain ⟨rfl, counted, -⟩ := renews.eq_of_upToDate lined.honest upToDate
      obtain ⟨rfl, counted'⟩ := ih (lined.tail first)
        (quiet.imp first.kept.keepsReading (fun _ _ => rfl) fun other member =>
          first.upToDate other (lined.listed other (.tail _ member)))
      exact ⟨rfl, counted'.trans counted⟩

/-- Where catalogs are up to date, writing them leads to the entries that they have, but for empty
comments. -/
theorem RenewsAll.get?_of_upToDate {told : SortedMap String (List Entry)}
    (lined : Lined view session world.disk locales)
    (renews : RenewsAll view locales merged session world (.ok all) after later)
    (upToDate : ∀ name ∈ locales, ∃ entries, told.get? name = some entries ∧
      UpToDate view session world.disk name entries) :
    ∀ name ∈ locales, (all.get? name).map (List.map Entry.withoutEmptyComments) =
      (told.get? name).map (List.map Entry.withoutEmptyComments) := by
  generalize ended : Except.ok all = outcome at renews
  -- By induction on the run; a locale that is listed again is told by its last writing.
  induction renews with
  | nil => exact nofun
  | failed => cases ended
  | @cons name locales merged entries session between after world middle later outcome renews rest
    ih =>
    cases ended
    obtain ⟨old, known, first⟩ := upToDate name (.head _)
    have advances := renews.advances lined
    obtain ⟨rfl, -, -, same⟩ := renews.eq_of_upToDate lined.honest first
    have others := ih (lined.tail advances) (fun other member => ?_) rfl
    · intro locale member
      by_cases again : locale ∈ locales
      · exact others locale again
      · obtain rfl : locale = name := (List.mem_cons.1 member).resolve_right again
        rw [rest.get?_of_not_mem again, SortedMap.get?_insert, if_pos Std.ReflCmp.compare_self,
          known, Option.map_some, Option.map_some, same entries rfl]
    · obtain ⟨entries, found, upToDate⟩ := upToDate other (.tail _ member)
      exact ⟨entries, found,
        advances.upToDate other (lined.listed other (.tail _ member)) entries upToDate⟩

/-- Writing catalogs that are up to date fails only where one of them cannot be read. -/
theorem RenewsAll.ok_of_upToDate (lined : Lined view session world.disk locales)
    (renews : RenewsAll view locales merged session world outcome after later)
    (upToDate : ∀ name ∈ locales, ∃ entries, UpToDate view session world.disk name entries)
    (rereads : session.Rereads)
    (readable : ∀ name ∈ locales, Readable world.disk (session.catalogPath name)) :
    ∃ all, outcome = .ok all := by
  -- By induction on the run: no catalog of it fails, and the writing of one keeps the others.
  induction renews with
  | nil => exact ⟨_, rfl⟩
  -- The step that would fail is one on a catalog that is up to date and can be read.
  | @failed name _ _ _ _ _ _ _ renews =>
    obtain ⟨entries, first⟩ := upToDate name (.head _)
    obtain ⟨_, ⟨⟩⟩ := renews.ok_of_upToDate lined.honest first rereads (readable name (.head _))
  | @cons name locales merged entries session between after world middle later outcome renews rest
    ih =>
    obtain ⟨old, first⟩ := upToDate name (.head _)
    have advances := renews.advances lined
    have same := advances.kept.keepsReading.sameSettings
    obtain ⟨rfl, -⟩ := renews.eq_of_upToDate lined.honest first
    -- The rest starts from the same disk, with caches that leave the others up to date.
    refine ih (lined.tail advances) (fun other member => ?_) ?_ fun other member => ?_
    · obtain ⟨entries, upToDate⟩ := upToDate other (.tail _ member)
      exact ⟨entries,
        advances.upToDate other (lined.listed other (.tail _ member)) entries upToDate⟩
    · rw [Rereads, advances.kept.keepsReading]
      exact rereads
    · rw [same.catalogPath_eq]
      exact readable other (.tail _ member)

end

end

end Session

end MessageCatalog
