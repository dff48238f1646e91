import MessageCatalog.Proofs.Session.Finished
import MessageCatalog.Proofs.Session.History

/-! Which text each catalog has after a writing, and what a writing leaves when it fails at a catalog. -/

namespace MessageCatalog

namespace WriteCache

variable {δ : Type} [Disk δ] {view : DiskView δ} {cache updated : WriteCache} {path : Path}
  {text : String} {world later : World δ} {outcome : Outcome Bool}

/-- What is known of a file after it was given a text was known in some way before, or it is there. -/
theorem Gives.recalls {recalled : String → Prop} (honest : view.Honest world.disk)
    (gives : Gives view cache path text world outcome updated later)
    (before : ∀ known, cache.get? path = some known →
      recalled known ∨ view.text? world.disk path = some known) :
    ∀ known, updated.get? path = some known →
      recalled known ∨ view.text? later.disk path = some known := by
  intro known held
  have inserted (held : (cache.insert path text).get? path = some known) : text = known := by
    rw [SortedMap.get?_insert, if_pos Std.ReflCmp.compare_self] at held
    exact Option.some.inj held
  -- What is known afterwards was known before, was read, or has been written.
  cases gives with
  | cached => exact before known held
  | found read => exact .inr (inserted held ▸ view.text?_of_read honest read)
  | put _ _ put => exact .inr (inserted held ▸ put.written)
  | failed _ _ untouched =>
    rw [untouched.text?]
    exact before known held

end WriteCache

namespace Session

section

variable {δ : Type} [Disk δ] (view : DiskView δ)

/-- The catalog of a locale was brought up to date from what was found: it has its new text, unless that
text was known of it before. Then the file is left as it was found. -/
structure Updates (session after : Session) (before later : δ) (locale : String)
    (merged : List Entry) (text : String) : Prop where
  renewed : session.renew locale ((view.text? before (session.catalogPath locale)).getD "") =
    .ok (merged, text)
  known : after.catalogCache.get? (session.catalogPath locale) = some text
  there : view.text? later (session.catalogPath locale) = some text ∨
    session.catalogCache.get? (session.catalogPath locale) = some text ∧
      view.text? later (session.catalogPath locale) = view.text? before (session.catalogPath locale)

end

section

variable {δ : Type} [Disk δ] {view : DiskView δ} {session between after : Session}
  {world middle later : World δ} {locale name : String} {merged : List Entry} {text : String}

/-- Writing the catalog of a locale with success brings it up to date. -/
theorem Renews.updates (honest : view.Honest world.disk)
    (renews : Renews view session locale world (.ok merged) after later) :
    ∃ text, Updates view session after world.disk later.disk locale merged text := by
  cases renews with
  | @renewed merged text _ _ _ _ renewed gives =>
    refine ⟨text, renewed, gives.known, ?_⟩
    -- The text is in the file, unless it was known and so not looked for.
    cases gives with
    | cached known => exact .inr ⟨known, rfl⟩
    | found read => exact .inl (view.text?_of_read honest read)
    | put _ _ put => exact .inl put.written

/-- A catalog that is brought up to date after another one was written is so from what was found before
that. -/
theorem Updates.behind {outcome : Outcome (List Entry)}
    (renews : Renews view session name world outcome between middle)
    (differs : compare (session.catalogPath locale) (session.catalogPath name) ≠ .eq)
    (apart : view.Apart (session.catalogPath name) (session.catalogPath locale))
    (updates : Updates view between after middle.disk later.disk locale merged text) :
    Updates view session after world.disk later.disk locale merged text := by
  -- Writing another catalog changes neither the file nor what is known of it.
  obtain ⟨cache, file⟩ := renews.others differs apart
  have kept := renews.keepsBundles.keepsReading
  obtain ⟨renewed, known, there⟩ := updates
  rw [kept.sameSettings.catalogPath_eq] at renewed known there
  rw [file] at renewed there
  rw [cache] at there
  rw [kept] at renewed
  exact ⟨renewed, known, there⟩

/-- A catalog that was brought up to date is brought up to the same text again, with the same entries, but
for empty comments. -/
theorem Updates.stays (steady : session.Steady) (kept : KeepsReading session between)
    (updates : Updates view session between world.disk middle.disk locale merged text)
    {again : List Entry} {text' : String}
    (renewed : between.renew locale
      ((view.text? middle.disk (between.catalogPath locale)).getD "") = .ok (again, text')) :
    text' = text ∧ again.map Entry.withoutEmptyComments = merged.map Entry.withoutEmptyComments := by
  rw [kept.sameSettings.catalogPath_eq, kept] at renewed
  -- The stored text is the one that was written, or the one from which it was made.
  rcases updates.there with written | ⟨-, left⟩
  · rw [written] at renewed
    rcases steady.renew_renew updates.renewed with ⟨_, stays, same⟩ | ⟨-, _, refused⟩
    · cases renewed.symm.trans stays
      exact ⟨rfl, same⟩
    · cases renewed.symm.trans refused
  · rw [left] at renewed
    cases renewed.symm.trans updates.renewed
    exact ⟨rfl, rfl⟩

/-- A catalog stays up to date while one is written, also when that fails, and also when it is the same
one again. -/
theorem Updates.renews {outcome : Outcome (List Entry)} (honest : view.Honest middle.disk)
    (updates : Updates view session between world.disk middle.disk locale merged text)
    (kept : KeepsReading session between)
    (again : name = locale → session.Steady)
    (differs : name ≠ locale →
      compare (session.catalogPath locale) (session.catalogPath name) ≠ .eq ∧
        view.Apart (session.catalogPath name) (session.catalogPath locale))
    (renews : Renews view between name middle outcome after later) :
    Updates view session after world.disk later.disk locale merged text := by
  have path (other : String) : between.catalogPath other = session.catalogPath other :=
    kept.sameSettings.catalogPath_eq other
  -- The catalog that is written is this one once more, or that of another locale.
  by_cases same : name = locale
  · subst same
    rcases renews.gives with ⟨rfl, rfl⟩ | ⟨entries, text', wrote, cache, renewed, gives, learned⟩
    · exact updates
    · -- What it is brought up to is the text that is known by now.
      obtain ⟨rfl, -⟩ := updates.stays (again rfl) kept renewed
      rw [path] at gives
      obtain ⟨-, rfl, unchanged⟩ := gives.of_there (.inl updates.known)
      refine ⟨updates.renewed, ?_, updates.there⟩
      rw [learned]
      rcases unchanged with rfl | rfl
      · exact updates.known
      · rw [SortedMap.get?_insert, if_pos Std.ReflCmp.compare_self]
  · -- Another locale's writing touches neither the known text nor the file.
    obtain ⟨distinct, apart⟩ := differs same
    rw [← path name] at distinct apart
    obtain ⟨cache, file⟩ := renews.others distinct apart
    refine ⟨updates.renewed, cache.trans updates.known, ?_⟩
    rw [file]
    exact updates.there

section

variable {locales : List String} {found all : SortedMap String (List Entry)}
  {outcome : Outcome (SortedMap String (List Entry))}

/-- A catalog stays up to date while catalogs are written. -/
theorem Updates.renewsAll (lined : Lined view session world.disk session.config.locales)
    (listed : locale ∈ session.config.locales)
    (updates : Updates view session between world.disk middle.disk locale merged text)
    (kept : KeepsReading session between) (lined' : Lined view between middle.disk locales)
    (again : locale ∈ locales → session.Steady)
    (renews : RenewsAll view locales found between middle outcome after later) :
    Updates view session after world.disk later.disk locale merged text := by
  -- By induction on the catalogs that follow; each of them leaves this one as it is.
  have differs {between : Session} (kept : KeepsReading session between) {name : String}
      (member : name ∈ between.config.locales) (other : name ≠ locale) :
      compare (session.catalogPath locale) (session.catalogPath name) ≠ .eq ∧
        view.Apart (session.catalogPath name) (session.catalogPath locale) := by
    rw [kept.sameSettings.1] at member
    exact lined.apart locale listed name member other
  induction renews with
  | nil => exact updates
  -- The locale that fails may be the same one again, of which a steady session knows the text.
  | @failed name _ _ _ _ _ _ _ renews =>
    refine updates.renews lined'.honest kept (fun same => again (same ▸ .head _)) ?_ renews
    exact differs kept (lined'.listed name (.head _))
  | @cons name _ _ _ _ _ _ _ _ _ _ renews _ ih =>
    have advances := renews.advances lined'
    refine ih ?_ (kept.trans advances.kept.keepsReading) (lined'.tail advances)
      fun member => again (.tail _ member)
    refine updates.renews lined'.honest kept (fun same => again (same ▸ .head _)) ?_ renews
    exact differs kept (lined'.listed name (.head _))

/-- Writing catalogs with success brings each of them up to date from what was found, with the entries that
it tells, but for empty comments. -/
theorem RenewsAll.updates (lined : Lined view session world.disk locales)
    (lined' : Lined view session world.disk session.config.locales)
    (once : locales.Nodup ∨ session.Steady)
    (renews : RenewsAll view locales found session world (.ok all) after later) :
    ∀ locale ∈ locales, ∃ merged text entries,
      Updates view session after world.disk later.disk locale merged text ∧
      all.get? locale = some entries ∧
      entries.map Entry.withoutEmptyComments = merged.map Entry.withoutEmptyComments := by
  -- By induction on the run, from its last catalog to its first.
  generalize told : Except.ok all = outcome at renews
  induction renews with
  | nil => exact nofun
  | failed => cases told
  | @cons name locales found entries session between after world middle later outcome renews rest
    ih =>
    cases told
    have advances := renews.advances lined
    have kept := advances.kept.keepsReading
    have same := kept.sameSettings.1
    have tail := lined.tail advances
    have tail' : Lined view between middle.disk between.config.locales :=
      ⟨tail.honest, tail.apart, fun _ => id⟩
    have others := ih tail tail' (once.imp (List.Nodup.of_cons) fun steady => steady.of_kept kept) rfl
    obtain ⟨text, first⟩ := renews.updates lined.honest
    intro locale member
    -- The locale is the one that is written first, or one that the rest brings up to date.
    by_cases other : locale = name
    · subst other
      have again : locale ∈ locales → session.Steady :=
        fun again => once.resolve_left fun once => (List.nodup_cons.1 once).1 again
      refine ⟨entries, text, ?_⟩
      have updates := first.renewsAll lined' (lined.listed locale (.head _)) kept tail again rest
      by_cases repeated : locale ∈ locales
      · -- It comes again, and is brought up to what it was brought up to first.
        obtain ⟨merged, _, last, second, told, equal⟩ := others locale repeated
        exact ⟨last, updates, told,
          equal.trans (first.stays (again repeated) kept second.renewed).2⟩
      · refine ⟨entries, updates, ?_, rfl⟩
        rw [rest.get?_of_not_mem repeated, SortedMap.get?_insert, if_pos Std.ReflCmp.compare_self]
    · -- Writing the first one found nothing that this catalog is made from changed.
      have inside : locale ∈ locales := (List.mem_cons.1 member).resolve_left other
      obtain ⟨merged, text, last, second, told⟩ := others locale inside
      obtain ⟨distinct, apart⟩ := lined.apart locale (lined.listed locale member) name
        (lined.listed name (.head _)) (Ne.symm other)
      exact ⟨merged, text, last, second.behind renews distinct apart, told⟩

end

end

end Session

end MessageCatalog
