import MessageCatalog.Proofs.Json.CarriageReturns
import MessageCatalog.Proofs.Session.Catalog

/-! The ends of the lines of a catalog change nothing else in it, and stay as they are however often it is
written again. -/

namespace MessageCatalog

open Json (Style usesCrlf withReturns)

/-- Lines are not indented by the characters with which they end. -/
structure Json.Style.Unbroken (style : Style) : Prop where
  returns : '\r' ∉ style.indent
  feeds : '\n' ∉ style.indent

namespace Format

section

variable {format : Format} {style : Style}

/-- A text that is written in place of another one: some entries, in lines that end as those of the other
one. -/
def Rewritten (format : Format) (style : Style) (before after : String) : Prop :=
  ∃ entries, format.stringify { style with crlf := usesCrlf before.toList } entries = .ok after

/-- A catalog as a document gets its carriage returns. -/
theorem write_returning (documents : format ≠ .po) (unbroken : style.Unbroken) (entries : List Entry) :
    format.write (style.returning true) entries =
      withReturns (format.write (style.returning false) entries) := by
  cases format with
  | po => exact absurd rfl documents
  | json => exact Json.write_returning unbroken.feeds (Entry.numbered_documents entries)
  | json5 => exact Json5.write_returning unbroken.feeds (Entry.numbered_sortedDocuments entries)

/-- The ends of the lines of a catalog are found in its text. -/
theorem usesCrlf_write (documents : format ≠ .po) (unbroken : style.Unbroken)
    (ended : style.trailingNewline = true) (entries : List Entry) :
    usesCrlf (format.write style entries) = style.crlf := by
  cases format with
  | po => exact absurd rfl documents
  | json => exact Json.usesCrlf_write ended unbroken.returns (Entry.numbered_documents entries)
  | json5 => exact Json5.usesCrlf_write ended unbroken.returns (Entry.numbered_sortedDocuments entries)

/-- A text that is written in place of another one has lines that end as those of the other one. -/
theorem Rewritten.usesCrlf_eq (documents : format ≠ .po) (unbroken : style.Unbroken)
    (ended : style.trailingNewline = true) {before after : String}
    (rewritten : format.Rewritten style before after) :
    usesCrlf after.toList = usesCrlf before.toList := by
  obtain ⟨entries, written⟩ := rewritten
  obtain ⟨⟨⟩, -, ⟨⟩⟩ := bind_eq_ok.1 written
  rw [String.toList_ofList]
  have same : Json.Style.Unbroken { style with crlf := usesCrlf before.toList } :=
    ⟨unbroken.returns, unbroken.feeds⟩
  exact usesCrlf_write documents same ended entries

/-- However often a text is written again, its lines end as they did. -/
theorem usesCrlf_of_rewritten (documents : format ≠ .po) (unbroken : style.Unbroken)
    (ended : style.trailingNewline = true) {before after : String}
    (run : Relation.ReflTransGen (format.Rewritten style) before after) :
    usesCrlf after.toList = usesCrlf before.toList := by
  -- By induction on the run, from its start.
  induction run with
  | refl => rfl
  | tail _ rewritten ih => exact (rewritten.usesCrlf_eq documents unbroken ended).trans ih

end

end Format

namespace Session

/-- Documents are not indented by the characters with which lines end. -/
theorem unbroken_style (session : Session) : session.style.Unbroken :=
  ⟨Style.not_mem_indent_ofWidth _, fun member => absurd (Style.spaces_ofWidth member) (by decide)⟩

section

variable {δ : Type} [Disk δ]

/-- The catalog at a path is brought up to date by some session that writes documents, whatever comes of
it. -/
def Recatalogued (path : Path) (before after : World δ) : Prop :=
  ∃ session locale, session.config.format ≠ .po ∧ session.catalogPath locale = path ∧
    after = (runOn (writeCatalog locale) session before).2.2

variable {view : DiskView δ} {session : Session} {locale : String} {world : World δ}

/-- A catalog that is brought up to date has the text that it had, or one that is written in place of it. -/
theorem rewritten_writeCatalog (honest : view.Honest world.disk) {stored : String}
    (held : view.text? world.disk (session.catalogPath locale) = some stored) :
    ∃ text, view.text? (runOn (writeCatalog locale) session world).2.2.disk
        (session.catalogPath locale) = some text ∧
      (text = stored ∨ session.config.format.Rewritten session.style stored text) := by
  rcases put_or_untouched_writeCatalog locale session honest with
    untouched | ⟨merged, text, renewed, put⟩
  · exact ⟨stored, (untouched.text? _).trans held, .inl rfl⟩
  · -- The new text has been written in the style that was found in the stored one.
    obtain ⟨entries, -, -, written⟩ := Format.renew_eq_ok.1 renewed
    rw [held, Option.getD_some] at written
    exact ⟨text, put.written, .inr ⟨merged, written⟩⟩

/-- A disk that is honest is so after a catalog was written. -/
theorem honest_writeCatalog (honest : view.Honest world.disk) :
    view.Honest (runOn (writeCatalog locale) session world).2.2.disk := by
  rcases put_or_untouched_writeCatalog locale session honest with untouched | ⟨_, _, -, put⟩
  · exact untouched.honest honest
  · exact put.honest honest

/-- However often a catalog is brought up to date, by whatever sessions, its lines end as they did. -/
theorem usesCrlf_of_recatalogued {path : Path} {before after : World δ}
    (run : Relation.ReflTransGen (Recatalogued path) before after)
    (honest : view.Honest before.disk) {stored : String}
    (held : view.text? before.disk path = some stored) :
    view.Honest after.disk ∧ ∃ text, view.text? after.disk path = some text ∧
      usesCrlf text.toList = usesCrlf stored.toList := by
  -- By induction on the run; after each step there is a text still, on a disk that is honest.
  induction run with
  | refl => exact ⟨honest, stored, held, rfl⟩
  | tail _ step ih =>
    obtain ⟨honest, between, held, same⟩ := ih
    obtain ⟨session, locale, documents, rfl, rfl⟩ := step
    obtain ⟨text, holds, kept | rewritten⟩ := rewritten_writeCatalog honest held
    · exact ⟨honest_writeCatalog honest, text, holds, kept ▸ same⟩
    · have ends := rewritten.usesCrlf_eq documents (unbroken_style session) rfl
      exact ⟨honest_writeCatalog honest, text, holds, ends.trans same⟩

/-- A catalog with carriage returns at the ends of its lines is the one without them, with a carriage return in
front of each line feed. How its lines end is found in its text, and stays so however often the catalog is
written again by what is found, which is how all sessions write it. -/
theorem line_ends_kept {format : Format} (documents : format ≠ .po) {style : Style}
    (unbroken : style.Unbroken) :
    (∀ entries, format.write (style.returning true) entries =
      withReturns (format.write (style.returning false) entries)) ∧
    (style.trailingNewline = true →
      (∀ entries, usesCrlf (format.write style entries) = style.crlf) ∧
      ∀ before after, Relation.ReflTransGen (format.Rewritten style) before after →
        usesCrlf after.toList = usesCrlf before.toList) ∧
    ∀ path (before after : World δ), Relation.ReflTransGen (Recatalogued path) before after →
      view.Honest before.disk → ∀ stored, view.text? before.disk path = some stored →
        ∃ text, view.text? after.disk path = some text ∧
          usesCrlf text.toList = usesCrlf stored.toList :=
  ⟨fun entries => Format.write_returning documents unbroken entries,
    fun ended => ⟨fun entries => Format.usesCrlf_write documents unbroken ended entries,
      fun _ _ run => Format.usesCrlf_of_rewritten documents unbroken ended run⟩,
    fun _ _ _ run honest _ held => (usesCrlf_of_recatalogued run honest held).2⟩

end

/-- A session with a German catalog, and a message whose text has a carriage return and a line feed. -/
private def letterSession (indentation : Nat) : Session :=
  let german := (onScripts ["de"]).withMessage "a.js" "Dear\r\n"
  { german with config := { german.config with format := .json5, indentation } }

/-- A German catalog whose lines end with carriage returns. -/
private def letterWorld : World MemoryDisk := .ofFiles [(⟨"locales/de.json5"⟩, "[\r\n]\r\n")] []

/-- An entry for the message. -/
private def letterEntry : Entry where
  message := ⟨none, "Dear\r\n", none⟩
  translation := .single "\n"

/-- What the writing of a catalog leaves. -/
private def letterWritten (indentation : Nat) (world : World MemoryDisk) : World MemoryDisk :=
  (runOn (writeCatalog "de") (letterSession indentation) world).2.2

/-- Lines end as they did after the catalog was written twice, the second time with another indentation. -/
theorem line_ends_kept_twice :
    Format.json5.write ⟨['\t'], true, false⟩ [letterEntry] =
        withReturns (Format.json5.write ⟨['\t'], false, false⟩ [letterEntry]) ∧
      MemoryDisk.view.text? letterWorld.disk ⟨"locales/de.json5"⟩ = some "[\r\n]\r\n" ∧
      ∃ text, MemoryDisk.view.text? (letterWritten 4 (letterWritten 2 letterWorld)).disk
          ⟨"locales/de.json5"⟩ = some text ∧
        usesCrlf text.toList = true := by
  have held : MemoryDisk.view.text? letterWorld.disk ⟨"locales/de.json5"⟩ = some "[\r\n]\r\n" := by
    decide +kernel
  have path : (letterSession 0).catalogPath "de" = ⟨"locales/de.json5"⟩ := by decide +kernel
  -- Each of the two runs is one session that brings the catalog up to date.
  have step (indentation : Nat) (world : World MemoryDisk) :
      Recatalogued ⟨"locales/de.json5"⟩ world (letterWritten indentation world) :=
    ⟨letterSession indentation, "de", nofun, path, rfl⟩
  have unbroken : Style.Unbroken ⟨['\t'], true, false⟩ := ⟨by decide, by decide⟩
  obtain ⟨returns, -, kept⟩ :=
    @line_ends_kept MemoryDisk _ MemoryDisk.view .json5 nofun _ unbroken
  have ends := kept _ _ _ (.tail (.single (step 2 letterWorld)) (step 4 _)) nofun _ held
  exact ⟨returns [letterEntry], held, ends⟩

end Session

end MessageCatalog
