import MessageCatalog.Proofs.Session.Bundle

/-! Catalogs that have been brought up to date stay as they are while the messages in use do. -/

namespace MessageCatalog

namespace Session

/-- A session all of whose catalogs keep their texts once they have been brought up to date: messages
are named by their keys, catalogs can hold the references, and forms are counted. -/
structure Steady (session : Session) : Prop where
  sound : session.index.live.Sound session.config.format.Holds
  counted : ∀ locale, session.config.pluralFormsFor locale ≤ maxCount

/-- Catalogs stay steady where what was read stays. -/
theorem Steady.of_kept {session after : Session} (steady : session.Steady)
    (kept : KeepsReading session after) : after.Steady := by
  rw [kept]
  exact ⟨steady.sound, steady.counted⟩

/-- The catalogs of the session can be read back whatever they translate. -/
def Rereads (session : Session) : Prop := session.config.format.Rereads session.index.live

/-- What a catalog was brought up to is what it is brought up to again, where it can be read. -/
theorem Steady.renew_renew {session : Session} (steady : session.Steady) {locale stored text : String}
    {merged : List Entry} (renewed : session.renew locale stored = .ok (merged, text)) :
    (∃ again, session.renew locale text = .ok (again, text) ∧
      again.map Entry.withoutEmptyComments = merged.map Entry.withoutEmptyComments) ∨
    ¬ session.Rereads ∧ ∃ fault, session.renew locale text = .error fault :=
  Format.renew_renew steady.sound (steady.counted locale) renewed

section

variable {δ : Type} [Disk δ] (view : DiskView δ)

/-- Catalogs of different locales lie in different files. -/
def CatalogsApart (session : Session) : Prop :=
  ∀ locale ∈ session.config.locales, ∀ other ∈ session.config.locales, other ≠ locale →
    compare (session.catalogPath locale) (session.catalogPath other) ≠ .eq ∧
      view.Apart (session.catalogPath other) (session.catalogPath locale)

variable {view} in
/-- The same settings keep catalogs apart. -/
theorem CatalogsApart.of_same {session other : Session} (apart : CatalogsApart view session)
    (same : SameSettings session other) : CatalogsApart view other := by
  intro locale listed name listed' differs
  rw [same.1] at listed listed'
  rw [same.catalogPath_eq, same.catalogPath_eq]
  exact apart locale listed name listed' differs

/-- A catalog that is the only one is apart. -/
theorem catalogsApart_of_single {session : Session} {locale : String}
    (single : session.config.locales = [locale]) : CatalogsApart view session := by
  intro name listed other listed' differs
  rw [single, List.mem_singleton] at listed listed'
  exact absurd (listed'.trans listed.symm) differs

/-- Bringing the catalog of a locale up to date leads to some entries, but for empty comments, and to a
text that is known to be there or is there; it may be that it cannot be read. -/
structure UpToDate (session : Session) (disk : δ) (locale : String) (entries : List Entry) : Prop where
  stays : ∀ merged text,
    session.renew locale ((view.text? disk (session.catalogPath locale)).getD "") =
      .ok (merged, text) →
    (session.catalogCache.get? (session.catalogPath locale) = some text ∨
      view.text? disk (session.catalogPath locale) = some text) ∧
    merged.map Entry.withoutEmptyComments = entries.map Entry.withoutEmptyComments
  readable : session.Rereads → ∃ renewed,
    session.renew locale ((view.text? disk (session.catalogPath locale)).getD "") = .ok renewed

variable {view} {session after : Session} {locale : String} {world later : World δ}
  {outcome : Outcome (List Entry)}

/-- A catalog is up to date when the text that it is brought up to is known to be there or is there. -/
theorem UpToDate.of_renewed {disk : δ} {merged entries : List Entry} {text : String}
    (renewed : session.renew locale ((view.text? disk (session.catalogPath locale)).getD "") =
      .ok (merged, text))
    (there : session.catalogCache.get? (session.catalogPath locale) = some text ∨
      view.text? disk (session.catalogPath locale) = some text)
    (same : merged.map Entry.withoutEmptyComments = entries.map Entry.withoutEmptyComments) :
    UpToDate view session disk locale entries where
  stays again text' renewed' := by
    cases renewed.symm.trans renewed'
    exact ⟨there, same⟩
  readable _ := ⟨_, renewed⟩

/-- A catalog is up to date when the text that it was brought up to is there. -/
theorem UpToDate.of_written {disk : δ} {stored text : String} {merged : List Entry}
    (steady : session.Steady) (renewed : session.renew locale stored = .ok (merged, text))
    (written : view.text? disk (session.catalogPath locale) = some text) :
    UpToDate view session disk locale merged := by
  -- What was written comes back to itself, unless it cannot be read again.
  rcases steady.renew_renew renewed with ⟨again, stays, same⟩ | ⟨unread, fault, refused⟩
  · have stays' : session.renew locale ((view.text? disk (session.catalogPath locale)).getD "") =
        .ok (again, text) := by
      rw [written]
      exact stays
    exact .of_renewed stays' (.inr written) same
  · have refused' : session.renew locale ((view.text? disk (session.catalogPath locale)).getD "") =
        .error fault := by
      rw [written]
      exact refused
    exact ⟨fun _ _ stays => (nomatch refused'.symm.trans stays), fun rereads => absurd rereads unread⟩

/-- Session and disk may differ in what the catalog of a locale does not depend on. -/
theorem UpToDate.congr {other : Session} {before disk : δ} {entries : List Entry}
    (upToDate : UpToDate view session before locale entries) (kept : KeepsReading session other)
    (cache : other.catalogCache.get? (session.catalogPath locale) =
      session.catalogCache.get? (session.catalogPath locale))
    (file : view.text? disk (session.catalogPath locale) =
      view.text? before (session.catalogPath locale)) :
    UpToDate view other disk locale entries := by
  have path : other.catalogPath locale = session.catalogPath locale := by
    rw [kept.sameSettings.catalogPath_eq]
  -- Bringing a text up to date goes by settings and index, which are the same.
  have renew (stored : String) : other.renew locale stored = session.renew locale stored := by
    rw [kept]
    rfl
  constructor
  · intro merged text renewed
    rw [path, file, renew] at renewed
    rw [path, cache, file]
    exact upToDate.stays merged text renewed
  · intro rereads
    rw [Rereads, kept] at rereads
    rw [path, file]
    obtain ⟨renewed, ended⟩ := upToDate.readable rereads
    exact ⟨renewed, (renew _).trans ended⟩

/-- A catalog that was brought up to date and written is up to date. -/
theorem Renews.upToDate (steady : session.Steady) (honest : view.Honest world.disk)
    {merged : List Entry} (renews : Renews view session locale world (.ok merged) after later) :
    UpToDate view after later.disk locale merged := by
  -- The text is in the cache, or it was on the disk before or is put there now.
  cases renews with
  | renewed readable renewed gives =>
    cases gives with
    | cached known => exact .of_renewed renewed (.inl known) rfl
    | found read => exact .of_renewed renewed (.inr (view.text?_of_read honest read)) rfl
    | put _ _ put => exact .of_written ⟨steady.sound, steady.counted⟩ renewed put.written

/-- Where a catalog that is up to date can be read, the text that it is brought up to is known or read. -/
theorem UpToDate.known_or_read {entries merged : List Entry} {text : String}
    (honest : view.Honest world.disk) (upToDate : UpToDate view session world.disk locale entries)
    (readable : Readable world.disk (session.catalogPath locale))
    (renewed : session.renew locale
      ((view.text? world.disk (session.catalogPath locale)).getD "") = .ok (merged, text)) :
    session.catalogCache.get? (session.catalogPath locale) = some text ∨
      Disk.read world.disk (session.catalogPath locale) = .ok text := by
  refine (upToDate.stays merged text renewed).1.imp_right fun held => ?_
  -- The text is there, so a file that can be read holds it, and it cannot be missing.
  cases read : Disk.read world.disk (session.catalogPath locale) with
  | ok stored =>
    have same := view.text?_of_read honest read
    rw [held] at same
    cases same
    rfl
  | error failure =>
    have absent := view.text?_of_notFound honest read (readable failure read)
    rw [held] at absent
    cases absent

/-- A catalog that is up to date is not written, and its entries are the ones that it had. -/
theorem Renews.eq_of_upToDate (honest : view.Honest world.disk) {entries : List Entry}
    (upToDate : UpToDate view session world.disk locale entries)
    (renews : Renews view session locale world outcome after later) :
    later = world ∧ after.summary.catalogWrites = session.summary.catalogWrites ∧
      (after.catalogCache = session.catalogCache ∨ ∃ merged text,
        session.renew locale ((view.text? world.disk (session.catalogPath locale)).getD "") =
          .ok (merged, text) ∧
        after.catalogCache = session.catalogCache.insert (session.catalogPath locale) text) ∧
      ∀ merged, outcome = .ok merged →
        merged.map Entry.withoutEmptyComments = entries.map Entry.withoutEmptyComments := by
  -- The text that it becomes is known or there, so that the cache leaves the file.
  cases renews with
  | unread => exact ⟨rfl, rfl, .inl rfl, nofun⟩
  | refused => exact ⟨rfl, rfl, .inl rfl, nofun⟩
  | unwritten readable renewed gives =>
    obtain ⟨failed, -⟩ := gives.of_there (upToDate.known_or_read honest readable renewed)
    cases failed
  | @renewed merged text _ _ _ readable renewed gives =>
    obtain ⟨unwritten, rfl, cache⟩ :=
      gives.of_there (upToDate.known_or_read honest readable renewed)
    cases unwritten
    refine ⟨rfl, rfl, cache.imp_right fun inserted => ⟨merged, text, renewed, inserted⟩, ?_⟩
    rintro _ ⟨⟩
    exact (upToDate.stays merged text renewed).2

/-- Writing a catalog that is up to date fails only where it cannot be read. -/
theorem Renews.ok_of_upToDate (honest : view.Honest world.disk) {entries : List Entry}
    (upToDate : UpToDate view session world.disk locale entries)
    (rereads : session.Rereads)
    (readable : Readable world.disk (session.catalogPath locale))
    (renews : Renews view session locale world outcome after later) :
    ∃ merged, outcome = .ok merged := by
  -- Each way to fail is ruled out: the file can be read, and its text needs no writing.
  cases renews with
  | unread read unlike =>
    rw [readable _ read] at unlike
    cases unlike
  | refused refused =>
    obtain ⟨_, renewed⟩ := upToDate.readable rereads
    cases refused.symm.trans renewed
  | unwritten readable renewed gives =>
    obtain ⟨failed, -⟩ := gives.of_there (upToDate.known_or_read honest readable renewed)
    cases failed
  | renewed => exact ⟨_, rfl⟩

/-- A catalog that cannot be brought up to date is left as it is. -/
theorem Renews.eq_of_refused {fault : CatalogFault}
    (renews : Renews view session locale world outcome after later)
    (refused : session.renew locale
      ((view.text? world.disk (session.catalogPath locale)).getD "") = .error fault) :
    later = world ∧ after = session ∧ ∃ failure, outcome = .error failure := by
  cases renews with
  | unread => exact ⟨rfl, rfl, _, rfl⟩
  | refused => exact ⟨rfl, rfl, _, rfl⟩
  | unwritten _ renewed => cases refused.symm.trans renewed
  | renewed _ renewed => cases refused.symm.trans renewed

/-- Writing the catalog of another locale changes neither file nor cache of a catalog. -/
theorem Renews.others {path : Path} (renews : Renews view session locale world outcome after later)
    (differs : compare path (session.catalogPath locale) ≠ .eq)
    (apart : view.Apart (session.catalogPath locale) path) :
    after.catalogCache.get? path = session.catalogCache.get? path ∧
      view.text? later.disk path = view.text? world.disk path := by
  rcases renews.gives with ⟨rfl, rfl⟩ | ⟨merged, text, written, cache, -, gives, same⟩
  · exact ⟨rfl, rfl⟩
  · rw [same]
    -- At most one entry of the cache and one file are changed, those of this catalog.
    cases gives with
    | cached => exact ⟨rfl, rfl⟩
    | found => exact ⟨by rw [SortedMap.get?_insert, if_neg differs], rfl⟩
    | put _ _ put => exact ⟨by rw [SortedMap.get?_insert, if_neg differs], put.others _ apart⟩
    | failed _ _ untouched => exact ⟨rfl, untouched.text? path⟩

/-- Writing the catalog of some locale touches no file but that. -/
theorem Renews.touchesOnly (renews : Renews view session locale world outcome after later)
    {touched : Path → Prop} (inside : touched (session.catalogPath locale)) :
    view.TouchesOnly touched world.disk later.disk := by
  rcases renews.gives with ⟨-, rfl⟩ | ⟨merged, text, written, cache, -, gives, -⟩
  · exact (DiskView.Untouched.refl _).touchesOnly
  · cases gives.leaves with
    | unknown untouched => exact untouched.touchesOnly
    | known untouched => exact untouched.touchesOnly
    | put put => exact put.touchesOnly inside

/-- What the cache knows of a catalog is there after it was written, if it was there before. -/
theorem Renews.there_of_known (honest : view.Honest world.disk)
    (renews : Renews view session locale world outcome after later)
    (coherent : ∀ known, session.catalogCache.get? (session.catalogPath locale) = some known →
      view.text? world.disk (session.catalogPath locale) = some known)
    {known : String}
    (held : after.catalogCache.get? (session.catalogPath locale) = some known) :
    view.text? later.disk (session.catalogPath locale) = some known := by
  rcases renews.gives with ⟨rfl, rfl⟩ | ⟨merged, text, written, cache, -, gives, same⟩
  · exact coherent known held
  · rw [same] at held
    exact gives.there_of_known honest coherent held

/-- Writing the catalog of some locale keeps the bundles. -/
theorem Renews.keepsBundles (renews : Renews view session locale world outcome after later) :
    KeepsBundles session after := by
  cases renews <;> rfl

/-- Writing the catalog of some locale leaves a catalog up to date that was so before. -/
theorem UpToDate.renews {name : String} {entries : List Entry} (honest : view.Honest world.disk)
    (upToDate : UpToDate view session world.disk locale entries)
    (differs : name ≠ locale →
      compare (session.catalogPath locale) (session.catalogPath name) ≠ .eq ∧
        view.Apart (session.catalogPath name) (session.catalogPath locale))
    (renews : Renews view session name world outcome after later) :
    UpToDate view after later.disk locale entries := by
  have kept := renews.keepsBundles.keepsReading
  by_cases same : name = locale
  · -- Its own catalog is left as it is, but it may be known then.
    subst same
    obtain ⟨rfl, -, cache, -⟩ := renews.eq_of_upToDate honest upToDate
    rcases cache with cache | ⟨merged, text, renewed, cache⟩
    · exact upToDate.congr kept (by rw [cache]) rfl
    · have path : after.catalogPath name = session.catalogPath name :=
        kept.sameSettings.catalogPath_eq name
      have renewed' : after.renew name
          ((view.text? later.disk (after.catalogPath name)).getD "") = .ok (merged, text) := by
        rw [path, kept]
        exact renewed
      refine .of_renewed renewed' (.inl ?_) (upToDate.stays merged text renewed).2
      rw [path, cache, SortedMap.get?_insert, if_pos Std.ReflCmp.compare_self]
  · -- The catalog of another locale is apart, in the cache and on disk.
    obtain ⟨cache, file⟩ := renews.others (differs same).1 (differs same).2
    exact upToDate.congr kept cache file

end

end Session

end MessageCatalog
