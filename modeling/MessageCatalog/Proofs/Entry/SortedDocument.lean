import MessageCatalog.Json5.Record
import MessageCatalog.Proofs.Entry.Document
import MessageCatalog.Proofs.Json5.Text
import MessageCatalog.Proofs.SortedMap

/-! Records with their members in the order of their names hold the same strings and are read back as
well, and in the wide form each line of at most 53 bits is. -/

namespace MessageCatalog

open Json (Value)

/-- The texts of a translation. -/
def Translation.texts : Translation → List String
  | single text => [text]
  | forms texts => texts

/-- The texts of an entry. -/
def Entry.texts (entry : Entry) : List String :=
  entry.message.context.toList ++ [entry.message.text] ++ entry.message.plural.toList ++
    entry.translation.texts ++ entry.references.map Reference.file ++ entry.developerComments ++
    entry.translatorComments ++ entry.flags

/-- The sorted members of a record are those of its parts. -/
theorem Entry.sortedDocument_eq (entry : Entry) :
    ∃ given, entry.sortedDocument = .object given ∧ given.Perm (Json.members entry.parts) := by
  have nodup : ((Json.members entry.parts).map (·.1)).Nodup :=
    (Json.names_members entry.parts).nodup (by decide : fieldNames.Nodup)
  exact ⟨_, by rw [sortedDocument, document_eq], SortedMap.perm_ofList nodup⟩

/-- The numbers of a sorted record are counts. -/
theorem Entry.numbered_sortedDocument (entry : Entry) : entry.sortedDocument.Numbered := by
  obtain ⟨given, same, perm⟩ := entry.sortedDocument_eq
  have numbered := entry.numbered_document
  rw [document_eq, Value.Numbered, Json.Value.numberedMembers_iff] at numbered
  rw [same, Value.Numbered, Json.Value.numberedMembers_iff]
  exact fun member inside => numbered member (perm.subset inside)

section

variable {p : String → Prop}

/-- The strings of some items are those of each item. -/
theorem Json.Value.forall_textsOfItems {items : List (Value String)} :
    (∀ text ∈ Value.textsOfItems items, p text) ↔ ∀ item ∈ items, ∀ text ∈ item.texts, p text := by
  induction items with
  | nil => simp [Value.textsOfItems]
  | cons item items ih => rw [Value.textsOfItems, List.forall_mem_append, ih, List.forall_mem_cons]

/-- The strings of some members are the names and the strings of each member. -/
theorem Json.Value.forall_textsOfMembers {members : List (String × Value String)} :
    (∀ text ∈ Value.textsOfMembers members, p text) ↔
      ∀ member ∈ members, p member.1 ∧ ∀ text ∈ member.2.texts, p text := by
  induction members with
  | nil => simp [Value.textsOfMembers]
  | cons member members ih =>
    rw [Value.textsOfMembers, List.forall_mem_append, List.forall_mem_singleton,
      List.forall_mem_append, ih, List.forall_mem_cons, and_assoc]

/-- The strings of a list that may be left out are those of its items. -/
theorem Json.forall_listPart {α : Type} {document : α → Value String} {items : List α} :
    (∀ value ∈ Json.listPart (items.map document), ∀ text ∈ value.texts, p text) ↔
      ∀ item ∈ items, ∀ text ∈ (document item).texts, p text := by
  cases items with
  | nil => simp [Json.listPart]
  | cons item items =>
    simp [Json.listPart, Json.Value.texts, Json.Value.forall_textsOfItems]

/-- The words that records have besides the texts of entries: the names of fields and of statuses. -/
def recordWords : List String := Entry.fieldNames ++ ["filename", "line", "new", "unused"]

/-- The strings of a translation's document are its texts. -/
theorem Translation.forall_texts_document (translation : Translation) :
    (∀ text ∈ translation.document.texts, p text) ↔ ∀ text ∈ translation.texts, p text := by
  cases translation with
  | single text => rfl
  | forms texts =>
    rw [document, Json.Value.texts, Json.Value.forall_textsOfItems, List.forall_mem_map]
    simp [Json.Value.texts, Translation.texts]

/-- The strings of a reference's record are its file and fixed words. -/
theorem Reference.forall_texts_document (known : ∀ word ∈ recordWords, p word)
    (reference : Reference) :
    (∀ text ∈ reference.document.texts, p text) ↔ p reference.file := by
  have file := known "filename" (by decide)
  have line := known "line" (by decide)
  simp [document, Json.Value.texts, Json.Value.textsOfMembers, Json.Value.count, file, line]

/-- The strings of an entry's record are its texts and fixed words. -/
theorem Entry.forall_texts_sortedDocument (known : ∀ word ∈ recordWords, p word) (entry : Entry) :
    (∀ text ∈ entry.sortedDocument.texts, p text) ↔ ∀ text ∈ entry.texts, p text := by
  obtain ⟨given, same, perm⟩ := entry.sortedDocument_eq
  -- The order of the members does not matter to what their strings are.
  have members : (∀ member ∈ given, p member.1 ∧ ∀ text ∈ member.2.texts, p text) ↔
      ∀ member ∈ Json.members entry.parts, p member.1 ∧ ∀ text ∈ member.2.texts, p text := by
    simp only [perm.mem_iff]
  have status (status : Status) : p status.name := by
    cases status with
    | new => exact known "new" (by decide)
    | unused => exact known "unused" (by decide)
  have named : ∀ part ∈ entry.parts, p part.1 := fun part member =>
    known part.1 (List.mem_append_left _ (List.mem_map_of_mem member : part.1 ∈ fieldNames))
  -- The names of the fields are fixed words, so that the values of the parts are left.
  have values : (∀ part ∈ entry.parts, ∀ value ∈ part.2, p part.1 ∧ ∀ text ∈ value.texts, p text) ↔
      ∀ part ∈ entry.parts, ∀ value ∈ part.2, ∀ text ∈ value.texts, p text :=
    forall₂_congr fun part member => forall₂_congr fun _ _ => and_iff_right (named part member)
  rw [same, Json.Value.texts, Json.Value.forall_textsOfMembers, members, Json.forall_members, values]
  simp only [parts, List.forall_mem_cons, Json.forall_listPart, Reference.forall_texts_document known]
  simp [Entry.texts, or_imp, forall_and, Json.Value.texts, Translation.forall_texts_document, status]

end

/-- A list of entries has a document in the wide form whose strings are its texts and fixed words. -/
theorem Entry.all_texts_sortedDocuments (entries : List Entry) :
    (Value.array (entries.map sortedDocument)).texts.all Json5.isUnbroken =
      (entries.flatMap texts).all Json5.isUnbroken := by
  have known : ∀ word ∈ recordWords, Json5.isUnbroken word = true := by decide
  rw [Bool.eq_iff_iff, List.all_eq_true, List.all_eq_true, Json.Value.texts,
    Json.Value.forall_textsOfItems, List.forall_mem_map, List.forall_mem_flatMap]
  exact forall₂_congr fun entry _ => entry.forall_texts_sortedDocument known

/-- A list of entries is read back from its document in the wide form. -/
theorem Entry.listOfDocument_sortedDocument {entries : List Entry}
    (valid : ∀ entry ∈ entries, entry.defect? = none)
    (small : ∀ entry ∈ entries, ∀ reference ∈ entry.references, reference.line ≤ 2 ^ 53)
    (malformed : CatalogFault) :
    listOfDocument Json5.convention malformed
      (some ((Value.array (entries.map sortedDocument)).mapStrings some)) = .ok entries := by
  refine listOfDocument_map valid (fun entry member => ?_) malformed
  -- The reader looks each field up by its name, in whatever order the members stand.
  obtain ⟨given, same, perm⟩ := entry.sortedDocument_eq
  rw [same]
  exact ofDocument?_members
    (fun reference inside => Json5.count?_toDigits (small entry member reference inside)) perm

end MessageCatalog
