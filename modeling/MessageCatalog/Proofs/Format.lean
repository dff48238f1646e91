import MessageCatalog.Format
import MessageCatalog.Proofs.Entry.Document
import MessageCatalog.Proofs.Entry.Merge
import MessageCatalog.Proofs.Po.Parsed

/-! A catalog that is merged, written and read again tells the translations that it told before. -/

namespace MessageCatalog

/-- A reference that every format reads back: its file has a name on one line, and its line is a count. -/
structure Reference.Legible (reference : Reference) : Prop where
  plain : '\n' ∉ reference.file.toList
  visible : ∃ c ∈ reference.file.toList, isBlank c = false
  small : reference.line ≤ maxCount

/-- A text is not blank when it begins with another character. -/
theorem trim_ne_nil {text tail : List Char} {c : Char} (begins : text = c :: tail)
    (visible : isBlank c = false) : (trim text).isEmpty = false := by
  rw [begins, trim, trimStart_cons visible, trimEnd_cons visible]
  rfl

/-- Other entries for the same messages with the same translations tell what those tell. -/
theorem translations_map {retell : Entry → Entry} (message : ∀ entry, (retell entry).message = entry.message)
    (translation : ∀ entry, (retell entry).translation = entry.translation) (entries : List Entry) :
    (entries.map retell).map Entry.key = entries.map Entry.key ∧
      translations (entries.map retell) = translations entries := by
  have keys (entry : Entry) : (retell entry).key = entry.key := congrArg Message.key (message entry)
  have done (entry : Entry) : (retell entry).isTranslated = entry.isTranslated :=
    congrArg Translation.isDone (translation entry)
  constructor
  · rw [List.map_map]
    exact List.map_congr_left fun entry _ => keys entry
  · rw [translations, List.filter_map, List.map_map]
    -- Which entries are kept and what they tell goes by message and translation only.
    have sameTest : Entry.isTranslated ∘ retell = Entry.isTranslated := funext done
    rw [sameTest, translations]
    refine congrArg SortedMap.ofList (List.map_congr_left fun entry _ => ?_)
    exact Prod.ext (keys entry) (translation entry)

/-- Entries that all pass are written. -/
theorem Format.stringify_of_valid (format : Format) (style : Json.Style) {entries : List Entry}
    (valid : ∀ entry ∈ entries, entry.defect? = none) :
    format.stringify style entries = .ok (String.ofList (format.write style entries)) := by
  rw [stringify, validateAll_eq_ok.2 valid]
  rfl

/-- Entries cannot be written when their check fails. -/
theorem Format.stringify_eq_error {format : Format} {style : Json.Style} {entries : List Entry}
    {fault : CatalogFault} :
    format.stringify style entries = .error fault ↔ validateAll entries = .error fault := by
  rw [stringify, bind_eq_error]
  exact or_iff_left fun ⟨_, _, failed⟩ => nomatch failed

/-- The documents of entries have numbers in the form of numbers. -/
theorem Entry.numbered_documents (entries : List Entry) :
    (Json.Value.array (entries.map Entry.document)).Numbered := by
  rw [Json.Value.Numbered, Json.Value.numberedItems_iff, List.forall_mem_map]
  exact fun entry _ => entry.numbered_document

/-- Entries that are written in the plain form are read back as they are. -/
theorem Format.parse_write_json {style : Json.Style} (indented : style.Blank) {entries : List Entry}
    (valid : ∀ entry ∈ entries, entry.defect? = none)
    (small : ∀ entry ∈ entries, ∀ reference ∈ entry.references, reference.line ≤ maxCount) :
    json.parse (String.ofList (json.write style entries)) = .ok entries := by
  -- An array begins with a bracket, so that its text is not taken for a blank one.
  have begins : ∃ tail, Json.write style (.array (entries.map Entry.document)) = '[' :: tail := by
    rw [Json.write_eq]
    cases entries <;> exact ⟨_, rfl⟩
  obtain ⟨tail, begins⟩ := begins
  rw [parse, write, String.toList_ofList, trim_ne_nil begins (by decide),
    Json.read?_write indented (Entry.numbered_documents entries)]
  exact Entry.listOfDocument_document valid small .json

/-- What is written in blocks of lines is read as such. -/
theorem Format.parse_blocks (style : Json.Style) (entries : List Entry) :
    po.parse (String.ofList (po.write style entries)) = Po.parse (Po.write entries) := by
  have begins : Po.header = 'm' :: Po.header.tail := by decide
  -- A text that is not blank is not taken for an empty catalog.
  have shown : (trim (Po.write entries)).isEmpty = false :=
    trim_ne_nil (congrArg (· ++ entries.flatMap Po.writeEntry) begins) (by decide)
  rw [parse, write, String.toList_ofList, shown]
  rfl

/-- Entries that are written in blocks of lines are read back, maybe with other comments, flags and
references. -/
theorem Format.parse_write_po (style : Json.Style) {entries : List Entry}
    (writable : ∀ entry ∈ entries, Po.Writable entry) :
    po.parse (String.ofList (po.write style entries)) = .ok (entries.map Po.reread) :=
  (parse_blocks style entries).trans (Po.parse_write writable)

/-- Valid entries with regular notes and legible references can be read back from their blocks. -/
theorem Po.Regular.writable {entry : Entry} (regular : Regular entry) (valid : entry.defect? = none)
    (legible : ∀ reference ∈ entry.references, reference.Legible) : Writable entry :=
  ⟨regular, valid, fun reference inside =>
    have readable := legible reference inside
    readable_of_named readable.plain readable.visible readable.small⟩

/-- Entries that a format writes are read back, maybe with other comments, flags and references. -/
theorem Format.parse_stringify {format : Format} (plain : format ≠ .json5) {style : Json.Style}
    (indented : style.Blank) {entries : List Entry}
    (legible : ∀ entry ∈ entries, ∀ reference ∈ entry.references, reference.Legible)
    (regular : format = .po → ∀ entry ∈ entries, Po.Regular entry) {text : String}
    (written : format.stringify style entries = .ok text) :
    ∃ retell : Entry → Entry, (∀ entry, (retell entry).message = entry.message) ∧
      (∀ entry, (retell entry).translation = entry.translation) ∧
      format.parse text = .ok (entries.map retell) := by
  obtain ⟨⟨⟩, passed, same⟩ := bind_eq_ok.1 written
  have valid := validateAll_eq_ok.1 passed
  cases same
  -- Only the catalogs in PO trim comments and references; the document keeps the entries as they are.
  cases format with
  | json5 => exact absurd rfl plain
  | po =>
    refine ⟨Po.reread, fun _ => rfl, fun _ => rfl, parse_write_po style fun entry member => ?_⟩
    exact (regular rfl entry member).writable (valid entry member) (legible entry member)
  | json =>
    refine ⟨id, fun _ => rfl, fun _ => rfl, ?_⟩
    rw [List.map_id]
    exact parse_write_json indented valid fun entry member reference inside =>
      (legible entry member reference inside).small

/-- A catalog text tells some translations: it has entries for different messages with these
translations, apart from those that have not been made. -/
def Format.Tells (format : Format) (text : String) (told : SortedMap Key Translation) : Prop :=
  ∃ entries, format.parse text = .ok entries ∧ (entries.map Entry.key).Nodup ∧
    translations entries = told

/-- What is read from blocks of lines is settled. -/
theorem Format.settled_of_parse {text : String} {entries : List Entry}
    (parsed : Format.po.parse text = .ok entries) : ∀ entry ∈ entries, Po.Settled entry := by
  rw [parse] at parsed
  split at parsed
  · cases parsed
    exact nofun
  · exact Po.settled_of_parse parsed

/-- The entries of a catalog text pass. -/
theorem Format.valid_of_parse {format : Format} {text : String} {entries : List Entry}
    (parsed : format.parse text = .ok entries) : ∀ entry ∈ entries, entry.defect? = none := by
  -- A catalog in PO validates its drafts, and a document its records.
  cases format with
  | po => exact fun entry member => (settled_of_parse parsed entry member).valid
  | json | json5 =>
    rw [parse] at parsed
    split at parsed
    · cases parsed
      exact nofun
    · exact Entry.valid_of_listOfDocument parsed

/-- Merged entries can be written when the stored ones can. -/
theorem Po.regular_merge {stored : List Entry} (regular : ∀ entry ∈ stored, Regular entry)
    (live : LiveMessages) {pluralForms : Nat} (counted : pluralForms ≤ maxCount) :
    ∀ entry ∈ merge stored live pluralForms, Regular entry := by
  -- A kept entry has its own flags and forms; a new one has a placeholder of counted forms.
  intro entry member
  obtain ⟨key, -, made⟩ := List.mem_filterMap.1 member
  rw [get?_entriesByKey_eq] at made
  have known {old : Entry} (found : lastStored stored key = some old) : Regular old :=
    regular old (lastStored_eq_some found).1
  rcases mergeKey_eq_some made with ⟨old, references, status, found, -, rfl, -⟩ | ⟨message, -, rfl⟩
  · exact ⟨(known found).flags, (known found).forms⟩
  · -- A new entry takes over the flags of an untranslated one that was stored.
    constructor
    · intro flag inside
      cases found : lastStored stored key with
      | none => simp [Entry.new, found] at inside
      | some old =>
        rw [Entry.new, found] at inside
        exact (known found).flags flag inside
    · intro texts forms
      rw [Entry.new, Translation.placeholder] at forms
      dsimp only at forms
      split at forms
      · cases forms
        rw [List.length_replicate]
        omega
      · cases forms

/-- A catalog that is merged and written tells what the stored one told. -/
theorem Format.Tells.merge {format : Format} (plain : format ≠ .json5) {stored : String}
    {told : SortedMap Key Translation} (tells : format.Tells stored told) {entries : List Entry}
    (parsed : format.parse stored = .ok entries) {live : LiveMessages}
    (sound : live.Sound Reference.Legible) {pluralForms : Nat} (counted : pluralForms ≤ maxCount)
    {style : Json.Style} (indented : style.Blank) {text : String}
    (written : format.stringify style (merge entries live pluralForms) = .ok text) :
    format.Tells text told := by
  obtain ⟨_, parsed', distinct, same⟩ := tells
  rw [parsed] at parsed'
  cases parsed'
  have legible : ∀ entry ∈ MessageCatalog.merge entries live pluralForms,
      ∀ reference ∈ entry.references, reference.Legible := fun _ member =>
    references_merge sound member
  have regular : format = .po →
      ∀ entry ∈ MessageCatalog.merge entries live pluralForms, Po.Regular entry := by
    rintro rfl
    have settled := settled_of_parse parsed
    exact Po.regular_merge (fun entry member => (settled entry member).writable.toRegular) live counted
  -- What is written reads back as the merged entries, with other notes at most.
  obtain ⟨retell, message, translation, read⟩ :=
    parse_stringify plain indented legible regular written
  obtain ⟨keys, kept⟩ := translations_map message translation
    (MessageCatalog.merge entries live pluralForms)
  refine ⟨_, read, ?_, ?_⟩
  · rw [keys]
    exact nodup_merge sound _ pluralForms
  · rw [kept, translations_merge sound distinct, same]

end MessageCatalog
