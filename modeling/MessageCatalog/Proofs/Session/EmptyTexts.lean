import MessageCatalog.Proofs.Entry.MergeDefects
import MessageCatalog.Proofs.Session.Catalog
import MessageCatalog.Proofs.Session.IndexedCalls
import MessageCatalog.Proofs.Source.Parts

/-! A call whose text is nothing but line continuations keeps all catalogs from being written, and no
other call does. -/

namespace MessageCatalog

open Source (scan Call Function)

namespace Session

/-- A message without a text is in use when some call asks for one. -/
theorem exists_empty_live_iff {session : Session} (fresh : session.IsFresh) :
    (∃ key message, session.index.live.messages.get? key = some message ∧ message.text = "") ↔
      ∃ call ∈ Index.allCalls session.functions session.sources, call.2.message.text = "" := by
  constructor
  · -- A message in use is told by a call.
    rintro ⟨key, message, inUse, empty⟩
    rw [fresh.describes.get?_messages] at inUse
    obtain ⟨call, found, rfl⟩ := Option.map_eq_some_iff.1 inUse
    exact ⟨call, List.mem_of_find?_eq_some found, empty⟩
  · -- The first call with the key has the same text, for the key tells it.
    rintro ⟨call, member, empty⟩
    have some : ((Index.allCalls session.functions session.sources).find? fun other =>
        other.2.key = call.2.key).isSome :=
      List.find?_isSome.2 ⟨call, member, decide_eq_true rfl⟩
    obtain ⟨first, found⟩ := Option.isSome_iff_exists.1 some
    refine ⟨call.2.key, first.2.message, ?_, ?_⟩
    · rw [fresh.describes.get?_messages, found]
      rfl
    · have same : first.2.key = call.2.key := by simpa using List.find?_some found
      exact (text_eq_of_key_eq same).trans empty

section

variable {session : Session} {locale stored : String}

/-- A catalog cannot be brought up to date when it cannot be read or some call has no text. -/
theorem renew_eq_error_iff (fresh : session.IsFresh) {fault : CatalogFault} :
    session.renew locale stored = .error fault ↔
      session.config.format.parse stored = .error fault ∨
        (∃ entries, session.config.format.parse stored = .ok entries) ∧
        fault = .entry "" .emptyText ∧
        ∃ call ∈ Index.allCalls session.functions session.sources, call.2.message.text = "" := by
  -- What was parsed passes, so that only a message in use can be without a text.
  rw [renew, Format.renew_eq_error, ← exists_empty_live_iff fresh, exists_and_right.symm]
  refine or_congr_right (exists_congr fun entries => and_congr_right fun parsed => ?_)
  exact validateAll_merge_eq_error fresh.describes.key_of_messages (Format.valid_of_parse parsed)

/-- A catalog that cannot be brought up to date is not written. -/
theorem runOn_writeCatalog_of_error {σ : Type} [FileSystem (StateM σ)] [Console (StateM σ)]
    {world later : σ} {entries : List Entry} {fault : CatalogFault}
    (read : runOn (readCatalog (session.catalogPath locale)) session world =
      (.ok stored, session, later))
    (parsed : session.config.format.parse stored = .ok entries)
    (refused : session.renew locale stored = .error fault) :
    runOn (writeCatalog locale) session world =
      (.error ((Failure.of (.catalog fault)).within
        ("Failed to serialize catalog " ++ (session.catalogPath locale).text)), session, later) := by
  -- What was read is parsed, and the check of the merged entries fails.
  have failed : session.config.format.stringify { session.style with
      crlf := Json.usesCrlf stored.toList }
      (merge entries session.index.live (session.config.pluralFormsFor locale)) = .error fault := by
    obtain unread | ⟨_, parsed', failed⟩ := Format.renew_eq_error.1 refused
    · rw [parsed] at unread
      cases unread
    · rw [parsed] at parsed'
      cases parsed'
      exact Format.stringify_eq_error.2 failed
  -- Up to the check the step only reads.
  rw [writeCatalog, runOn_bind, runOn_get]
  dsimp only
  rw [runOn_bind, read]
  dsimp only
  rw [runOn_bind, runOn_inCatalog, parsed]
  dsimp only [Except.mapError]
  rw [runOn_bind, runOn_inCatalog, failed]
  rfl

/-- A new entry has the message of some call. -/
theorem exists_call_of_new (fresh : session.IsFresh) {stored : List Entry} {pluralForms : Nat}
    {entry : Entry} (member : entry ∈ merge stored session.index.live pluralForms)
    (isNew : entry.status = some .new) :
    ∃ call ∈ Index.allCalls session.functions session.sources, call.2.message = entry.message := by
  -- Its message is in use, and the index has that from the first call with the key.
  have made := (mem_merge (LiveMessages.sound_of_named fresh.describes.key_of_messages)).1 member
  have inUse := (mergeKey_eq_some_iff.1 made).inUse_of_new isNew
  rw [fresh.describes.get?_messages] at inUse
  obtain ⟨call, found, same⟩ := Option.map_eq_some_iff.1 inUse
  exact ⟨call, List.mem_of_find?_eq_some found, same⟩

/-- Each part of a call is what some literal of it denotes, and empty when only line continuations stand
there. New entries have the messages of calls; and one call with an empty text, but nothing else in the
sources, keeps each catalog from being written. -/
theorem catalogs_fail_iff_empty_text {σ : Type} [FileSystem (StateM σ)] [Console (StateM σ)]
    {session : Session} (fresh : session.IsFresh) :
    (∀ functions text calls, (scan functions text).result = .ok calls →
      ∀ call ∈ calls, ∀ part ∈ call.message.parts,
        ∃ quote content, Source.Denotes call.raw quote content part) ∧
    (∀ stored pluralForms, ∀ entry ∈ merge stored session.index.live pluralForms,
      entry.status = some .new →
        ∃ call ∈ Index.allCalls session.functions session.sources,
          call.2.message = entry.message) ∧
    (∀ locale stored fault, session.renew locale stored = .error fault ↔
      session.config.format.parse stored = .error fault ∨
        (∃ entries, session.config.format.parse stored = .ok entries) ∧
        fault = .entry "" .emptyText ∧
        ∃ call ∈ Index.allCalls session.functions session.sources, call.2.message.text = "") ∧
    ∀ call ∈ Index.allCalls session.functions session.sources, call.2.message.text = "" →
      ∀ locale stored entries (world later : σ),
        runOn (readCatalog (session.catalogPath locale)) session world =
          (.ok stored, session, later) →
        session.config.format.parse stored = .ok entries →
        runOn (writeCatalog locale) session world =
          (.error ((Failure.of (.catalog (.entry "" .emptyText))).within
            ("Failed to serialize catalog " ++ (session.catalogPath locale).text)),
            session, later) := by
  refine ⟨fun functions text calls scanned => Source.spelled_of_scan scanned,
    fun stored pluralForms entry member => exists_call_of_new fresh member,
    fun locale stored fault => renew_eq_error_iff fresh, ?_⟩
  -- A catalog that was parsed is refused for the call, and so its writing stops.
  intro call member empty locale stored entries world later read parsed
  have refused : session.renew locale stored = .error (.entry "" .emptyText) :=
    (renew_eq_error_iff fresh).2 (.inr ⟨⟨entries, parsed⟩, rfl, call, member, empty⟩)
  exact runOn_writeCatalog_of_error read parsed refused

end

/-- A page with a call whose text goes on over the end of a line, where it ends. -/
private def continuedPage : String := "__('\\\n')"

/-- The files when the page is the only one. -/
private def continuedWorld : World MemoryDisk := .ofFiles [(⟨"a.js"⟩, continuedPage)] []

/-- The session after it has read the page. -/
private def readContinued : Session := (runOn (read none) englishSession continuedWorld).2.1

/-- The reading succeeds. -/
private theorem read_continuedPage : (runOn (read none) englishSession continuedWorld).1 = .ok true := by
  cbv

/-- The page has one call, the only part of which is empty. -/
private theorem parts_continuedPage :
    (scan (Function.ofBases ["__"]) continuedPage.toList).result.map
      (List.map fun call => call.message.parts) = .ok [[""]] := by cbv

/-- With this page no catalog is written, not even where none was before. -/
theorem catalogs_fail_of_continued :
    readContinued.IsFresh ∧
      runOn (writeCatalog "en") readContinued continuedWorld =
        (.error ⟨["Failed to serialize catalog locales/en.po"], .catalog (.entry "" .emptyText)⟩,
          readContinued, continuedWorld) := by
  have fresh : readContinued.IsFresh := isFresh_of_read_true (runOn_eq read_continuedPage)
  have same := (keepsRest_of_read (runOn_eq read_continuedPage)).sameSettings
  have path : readContinued.catalogPath "en" = ⟨"locales/en.po"⟩ :=
    (same.catalogPath_eq "en").trans (by decide)
  -- The one call of the page has an empty text.
  have texts : (Index.allCalls readContinued.functions readContinued.sources).map
      (·.2.message.text) = [""] := by cbv
  have inside := List.mem_singleton_self ""
  rw [← texts] at inside
  obtain ⟨call, member, empty⟩ := List.mem_map.1 inside
  have absent (session : Session) : runOn (readCatalog ⟨"locales/en.po"⟩) session continuedWorld =
      (.ok "", session, continuedWorld) := by
    rw [runOn_readCatalog]
    rfl
  have parsed : readContinued.config.format.parse "" = .ok [] := by
    have config : readContinued.config = englishSession.config := same.1
    rw [config]
    rfl
  -- The catalog would hold the empty text, so no locale's can be written.
  obtain ⟨-, -, -, fails⟩ := @catalogs_fail_iff_empty_text (World MemoryDisk) _ _ readContinued fresh
  have failed := fails call member empty "en" "" [] continuedWorld continuedWorld
  rw [path] at failed
  exact ⟨fresh, failed (absent _) parsed⟩

/-- Calls can have an empty part. -/
theorem not_parts_nonempty :
    ¬ ∀ functions text calls, (scan functions text).result = .ok calls →
      ∀ call ∈ calls, ∀ part ∈ call.message.parts, part ≠ "" := by
  -- The line continuation is all that stands in the literal, and nothing is left of it.
  intro nonempty
  have parts := parts_continuedPage
  cases result : (scan (Function.ofBases ["__"]) continuedPage.toList).result with
  | error fault =>
    rw [result] at parts
    cases parts
  | ok calls =>
    rw [result] at parts
    have inside := List.mem_singleton_self [""]
    rw [← Except.ok.inj parts] at inside
    obtain ⟨call, member, same⟩ := List.mem_map.1 inside
    have part : "" ∈ call.message.parts := by
      rw [same]
      exact List.mem_singleton_self ""
    exact nonempty _ _ calls result call member "" part rfl

end Session

end MessageCatalog
