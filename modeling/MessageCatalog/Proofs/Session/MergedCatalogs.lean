import MessageCatalog.Proofs.Session.CatalogTexts
import MessageCatalog.Proofs.Session.FirstRead

/-! A writing that succeeds leaves each catalog merged with what was found in it, or as it was when it had
that text at some earlier moment. -/

namespace MessageCatalog

namespace Session

section

variable {δ : Type} [Disk δ] {view : DiskView δ} {session after : Session}
  {world later : World δ} {locale name : String} {recalled : String → Prop}

/-- What the session knows of the catalog of a locale was known in some way before, or it is there. -/
def Recalls (view : DiskView δ) (recalled : String → Prop) (session : Session) (disk : δ)
    (locale : String) : Prop :=
  ∀ text, session.catalogCache.get? (session.catalogPath locale) = some text →
    recalled text ∨ view.text? disk (session.catalogPath locale) = some text

/-- Writing some catalog, also when it fails on the way, leads to no other knowledge. -/
theorem Renews.recalls {outcome : Outcome (List Entry)} (honest : view.Honest world.disk)
    (differs : name ≠ locale →
      compare (session.catalogPath locale) (session.catalogPath name) ≠ .eq ∧
        view.Apart (session.catalogPath name) (session.catalogPath locale))
    (recalls : Recalls view recalled session world.disk locale)
    (renews : Renews view session name world outcome after later) :
    Recalls view recalled after later.disk locale := by
  intro text known
  rw [renews.keepsBundles.keepsReading.sameSettings.catalogPath_eq] at known ⊢
  -- Another catalog is neither known nor written by this one.
  by_cases same : name = locale
  · subst same
    rcases renews.gives with ⟨rfl, rfl⟩ | ⟨merged, new, written, cache, -, gives, learned⟩
    · exact recalls text known
    · rw [learned] at known
      exact gives.recalls honest recalls text known
  · obtain ⟨distinct, apart⟩ := differs same
    obtain ⟨cache, file⟩ := renews.others distinct apart
    rw [cache] at known
    rw [file]
    exact recalls text known

/-- Writing catalogs leads to no other knowledge. -/
theorem RenewsAll.recalls {locales : List String} {merged : SortedMap String (List Entry)}
    {outcome : Outcome (SortedMap String (List Entry))}
    (lined : Lined view session world.disk locales) (listed : locale ∈ session.config.locales)
    (recalls : Recalls view recalled session world.disk locale)
    (renews : RenewsAll view locales merged session world outcome after later) :
    Recalls view recalled after later.disk locale := by
  -- By induction on the run, each catalog of which leads to no other knowledge.
  induction renews with
  | nil => exact recalls
  | failed renews =>
    exact renews.recalls lined.honest
      (lined.apart locale listed _ (lined.listed _ (.head _))) recalls
  | cons renews _ ih =>
    have advances := renews.advances lined
    refine ih (lined.tail advances) ?_ ?_
    · rw [advances.kept.keepsReading.sameSettings.1]
      exact listed
    · exact renews.recalls lined.honest
        (lined.apart locale listed _ (lined.listed _ (.head _))) recalls

/-- A writing leads to no other knowledge of catalogs. -/
theorem Writes.recalls {outcome : Outcome Bool}
    (lined : Lined view session world.disk session.config.locales)
    (listed : locale ∈ session.config.locales)
    (recalls : Recalls view recalled session world.disk locale)
    (writes : Writes view session world outcome after later) (apart : BundlesApart view after) :
    Recalls view recalled after later.disk locale := by
  have recalls' : Recalls view recalled session.counted world.disk locale := recalls
  -- A writing that stops at a catalog writes no bundles.
  cases writes with
  | stopped catalogs => exact catalogs.recalls lined.counted listed recalls'
  | @written all between after middle later result catalogs bundles =>
    have kept := (catalogs.advances lined.counted).kept.keepsReading
    have advanced := catalogs.recalls lined.counted listed recalls'
    have adds : AddsBundles view between after middle.disk later.disk := .of_writeBundles view bundles
    have same := adds.kept.keepsReading.sameSettings
    have listed' : locale ∈ between.config.locales := by
      rw [kept.sameSettings.1]
      exact listed
    -- The bundles lie apart from the catalog, and leave its text and its cache.
    intro text known
    rw [same.catalogPath_eq] at known ⊢
    rw [adds.text?_catalog apart listed']
    refine advanced text ?_
    rw [adds.kept] at known
    exact known

/-- Whatever happens, the session knows of a catalog what it recalled before, what the catalog had then, or
what it has now. -/
theorem Happens.recalls {spared : Session → Path → Prop} {moment now : Session × World δ}
    (lined : Lined view moment.1 moment.2.disk moment.1.config.locales)
    (listed : locale ∈ moment.1.config.locales) (apart : BundlesApart view now.1)
    (recalls : Recalls view recalled moment.1 moment.2.disk locale)
    (noted : ∀ text, view.text? moment.2.disk (moment.1.catalogPath locale) = some text →
      recalled text)
    (happens : Happens view spared moment now) :
    Recalls view recalled now.1 now.2.disk locale := by
  have path := happens.sameSettings.catalogPath_eq locale
  have past (kept : now.1.catalogCache = moment.1.catalogCache) :
      Recalls view recalled now.1 now.2.disk locale := by
    intro text known
    rw [kept, path] at known
    exact .inl ((recalls text known).elim id (noted text))
  -- Only a writing changes what is known of catalogs, and it knows what it has written or found.
  cases happens with
  | others => exact past rfl
  | read ran => exact past (by rw [keepsRest_of_read ran])
  | write ran => exact Writes.recalls lined listed recalls (.of_ran lined ran) apart
  | close ran => exact past (by rw [eq_of_close ran])

/-- A session knows of its catalogs what they had at some moment. -/
theorem History.recalls {spared : Session → Path → Prop} {start now : Session × World δ}
    {past : List (Session × World δ)} (history : History view spared start (now :: past))
    (begun : Lined view start.1 start.2.disk start.1.config.locales)
    (uncached : start.1.catalogCache = ∅) (apart : BundlesApart view now.1)
    (listed : locale ∈ start.1.config.locales) {text : String}
    (known : now.1.catalogCache.get? (now.1.catalogPath locale) = some text) :
    ∃ moment ∈ now :: past, view.text? moment.2.disk (now.1.catalogPath locale) = some text := by
  -- By induction on the history, from its latest step back.
  generalize told : now :: past = moments at history
  induction history generalizing now past text with
  | start =>
    cases told
    rw [uncached] at known
    cases known
  | @next last moment past earlier happens ih =>
    cases told
    have lined := earlier.lined begun
    have same := happens.sameSettings
    have path := same.catalogPath_eq locale
    have apart' : BundlesApart view moment.1 := apart.of_knowsMore same (happens.knowsMore lined)
    -- All that was known before is a text of some earlier moment.
    have recalls : Recalls view (fun text => ∃ witness ∈ moment :: past,
        view.text? witness.2.disk (moment.1.catalogPath locale) = some text) moment.1 moment.2.disk
        locale := fun text known => .inl (ih apart' known rfl)
    have listed' : locale ∈ moment.1.config.locales := by
      rw [earlier.sameSettings.1]
      exact listed
    rcases happens.recalls lined listed' apart recalls (fun text held => ⟨_, .head _, held⟩) text
      known with ⟨witness, member, held⟩ | held
    · -- What is known is of an earlier moment, or it was found on disk just before this step.
      rw [path]
      exact ⟨witness, .tail _ member, held⟩
    · exact ⟨_, .head _, held⟩

end

end Session

end MessageCatalog
