import Mathlib.Data.List.Nodup
import MessageCatalog.Entry.Document
import MessageCatalog.Proofs.Entry.Fault
import MessageCatalog.Proofs.Json.Text

/-! Entries are read back from their documents, member by member. -/

namespace MessageCatalog

open Json (Value Document Convention)

namespace Json

/-- A member that may be left out. -/
abbrev Part := String × Option (Value String)

/-- The member of a part, if it is there. -/
def Part.member (part : Part) : List (String × Value String) :=
  (part.2.map fun value => (part.1, value)).toList

/-- The members that are there. -/
def members (parts : List Part) : List (String × Value String) := parts.flatMap Part.member

/-- The items of an array are read one by one. -/
theorem Value.mapItems_eq_map {τ υ : Type} (f : τ → υ) (items : List (Value τ)) :
    Value.mapItems f items = items.map (Value.mapStrings f) := by
  induction items with
  | nil => rfl
  | cons item items ih => rw [Value.mapItems, ih, List.map_cons]

/-- The members of an object are read one by one. -/
theorem Value.mapMembers_eq_map {τ υ : Type} (f : τ → υ) (members : List (τ × Value τ)) :
    Value.mapMembers f members = members.map fun member => (f member.1, member.2.mapStrings f) := by
  induction members with
  | nil => rfl
  | cons member members ih => rw [Value.mapMembers, ih, List.map_cons]

/-- The numbers of some items are those of each item. -/
theorem Value.numberedItems_iff {items : List (Value String)} :
    Value.NumberedItems items ↔ ∀ item ∈ items, item.Numbered := by
  induction items with
  | nil => simp [Value.NumberedItems]
  | cons item items ih => rw [Value.NumberedItems, ih, List.forall_mem_cons]

/-- The numbers of some members are those of each member. -/
theorem Value.numberedMembers_iff {members : List (String × Value String)} :
    Value.NumberedMembers members ↔ ∀ member ∈ members, member.2.Numbered := by
  induction members with
  | nil => simp [Value.NumberedMembers]
  | cons member members ih => rw [Value.NumberedMembers, ih, List.forall_mem_cons]

/-- What holds of the members that are there holds of each part with its value. -/
theorem forall_members {p : String × Value String → Prop} {parts : List Part} :
    (∀ member ∈ members parts, p member) ↔ ∀ part ∈ parts, ∀ value ∈ part.2, p (part.1, value) := by
  -- By induction on the parts, of which only those with a value become members.
  induction parts with
  | nil => simp [members]
  | cons part parts ih =>
    rw [members, List.flatMap_cons, List.forall_mem_append, ← members, ih, List.forall_mem_cons]
    rcases part with ⟨name, - | value⟩ <;> simp [Part.member]

/-- The names of the members that are there are some of all names, in order. -/
theorem names_members (parts : List Part) :
    ((members parts).map (·.1)).Sublist (parts.map (·.1)) := by
  -- A part that is left out has its name in the longer list only.
  induction parts with
  | nil => exact .slnil
  | cons part parts ih =>
    rcases part with ⟨name, - | value⟩
    · exact ih.cons name
    · exact ih.cons_cons name

/-- A member is there when its part has a value. -/
theorem mem_members {parts : List Part} (nodup : (parts.map (·.1)).Nodup) {part : Part}
    (member : part ∈ parts) (value : Value String) :
    (part.1, value) ∈ members parts ↔ part.2 = some value := by
  -- A part has one member at most, named like the part.
  have ofPart (other : Part) : (part.1, value) ∈ other.member ↔
      other.1 = part.1 ∧ other.2 = some value := by
    rcases other with ⟨name, - | content⟩
    · simp [Part.member]
    · simp [Part.member, eq_comm]
  rw [members, List.mem_flatMap]
  constructor
  · -- The names differ, so that no other part has this one.
    rintro ⟨other, listed, inside⟩
    obtain ⟨named, found⟩ := (ofPart other).1 inside
    rw [← List.inj_on_of_nodup_map nodup listed member named, found]
  · intro found
    exact ⟨part, member, (ofPart part).2 ⟨rfl, found⟩⟩

/-- Members as they are read. -/
def readMembers (given : List (String × Value String)) : List (Option String × Document) :=
  given.map fun member => (some member.1, member.2.mapStrings some)

/-- A member is found by its name when it is there. -/
theorem find?_readMembers {given : List (String × Value String)} {name : String}
    {value : Option (Value String)}
    (holds : ∀ other, (name, other) ∈ given ↔ value = some other) :
    ((readMembers given).find? fun member => member.1 == some name).map (·.2) =
      value.map (Value.mapStrings some) := by
  cases found : (readMembers given).find? fun member => member.1 == some name with
  | none =>
    -- A value would be that of a member with the name, which would have been found.
    cases value with
    | none => rfl
    | some other =>
      have listed : (some name, other.mapStrings some) ∈ readMembers given :=
        List.mem_map.2 ⟨_, (holds other).2 rfl, rfl⟩
      have other_name := List.find?_eq_none.1 found _ listed
      simp at other_name
  | some member =>
    obtain ⟨⟨other, content⟩, listed, rfl⟩ := List.mem_map.1 (List.mem_of_find?_eq_some found)
    have named : other = name := by simpa using List.find?_some found
    rw [named] at listed
    rw [(holds content).1 listed]
    rfl

/-- The fields of an object are the parts that it was made from, in whatever order they are given. -/
theorem fields?_members (convention : Convention) {parts : List Part}
    (nodup : (parts.map (·.1)).Nodup) {given : List (String × Value String)}
    (same : given.Perm (members parts)) :
    fields? convention false (parts.map (·.1)) ((Value.object given).mapStrings some) =
      some (parts.map fun part => part.2.map (Value.mapStrings some)) := by
  have listed : ∀ member ∈ given, (parts.map (·.1)).contains member.1 = true :=
    fun member inside => List.contains_iff_mem.2
      ((names_members parts).subset (List.mem_map_of_mem (same.subset inside)))
  -- Each name is known and is given once.
  have fit : (readMembers given).all (memberFits convention false (parts.map (·.1))) = true := by
    rw [List.all_eq_true]
    intro member inside
    obtain ⟨other, given, rfl⟩ := List.mem_map.1 inside
    rw [memberFits]
    dsimp only
    rw [listed other given, Bool.true_or]
  have named : (readMembers given).filterMap
      (fun member => member.1.filter (parts.map (·.1)).contains) = given.map (·.1) := by
    have each : ∀ member ∈ given,
        (some member.1).filter (parts.map (·.1)).contains = some member.1 := by
      intro member inside
      rw [Option.filter_some, if_pos (listed member inside)]
    rw [readMembers, List.filterMap_map]
    exact (List.filterMap_congr each).trans (congrFun List.filterMap_eq_map _)
  -- No name is given twice, since the parts have no name twice.
  have distinct : (given.map (·.1)).Nodup :=
    (same.map _).nodup_iff.2 ((names_members parts).nodup nodup)
  rw [Value.mapStrings, Value.mapMembers_eq_map, ← readMembers, fields?, fit, named,
    decide_eq_true distinct, List.map_map]
  refine congrArg some (List.map_congr_left fun part member => ?_)
  exact find?_readMembers fun value => same.mem_iff.trans (mem_members nodup member value)

/-- A text that may be left out is read back. -/
theorem orElse?_text (text : Option String) :
    orElse? none (nullable? text?) ((text.map Value.string).map (Value.mapStrings some)) =
      some text := by
  cases text <;> rfl

/-- A list is read item by item. -/
theorem mapM_map_eq {m : Type → Type} [Monad m] [LawfulMonad m] {α β γ : Type} {write : α → β}
    {read : β → m γ} {result : α → γ} {items : List α}
    (each : ∀ item ∈ items, read (write item) = pure (result item)) :
    (items.map write).mapM read = pure (items.map result) := by
  induction items with
  | nil => rfl
  | cons item items ih =>
    rw [List.map_cons, List.mapM_cons, each item (.head _), pure_bind,
      ih fun item member => each item (.tail _ member), pure_bind, List.map_cons]

/-- The items of an array are read back when each of them is. -/
theorem mapM_document {α : Type} {item? : Document → Option α} {document : α → Value String}
    {items : List α} (each : ∀ item ∈ items, item? ((document item).mapStrings some) = some item) :
    ((items.map document).map (Value.mapStrings some)).mapM item? = some items := by
  have read : (items.map fun item => (document item).mapStrings some).mapM item? =
      some (items.map id) := mapM_map_eq each
  rw [List.map_id] at read
  rw [List.map_map]
  exact read

/-- A list as a part, which is left out when it is empty. -/
def listPart (items : List (Value String)) : Option (Value String) :=
  if items.isEmpty then none else some (.array items)

/-- A list that may be left out is read back when each of its items is. -/
theorem orElse?_list {α : Type} {item? : Document → Option α} {document : α → Value String}
    {items : List α} (each : ∀ item ∈ items, item? ((document item).mapStrings some) = some item) :
    orElse? [] (list? item?) ((listPart (items.map document)).map (Value.mapStrings some)) =
      some items := by
  have read := mapM_document each
  cases items with
  | nil => rfl
  | cons item items =>
    rw [← Value.mapItems_eq_map] at read
    exact read

end Json

/-- A count is read back in the plain form unless it is too large. -/
theorem plainCount?_toDigits {n : Nat} (small : n ≤ maxCount) :
    Json.plainCount? (Nat.toDigits 10 n) = some n := by
  have digits : (Nat.toDigits 10 n).all Char.isDigit = true :=
    List.all_eq_true.2 fun _ => isDigit_of_mem_toDigits
  rw [Json.plainCount?, if_pos digits, count?_toDigits small]

/-- The parts of the document of a reference. -/
def Reference.parts (reference : Reference) : List Json.Part :=
  [("filename", some (.string reference.file)), ("line", some (.count reference.line))]

/-- A reference is read back from its document when its line is read back as a count. -/
theorem Reference.ofDocument?_document {convention : Convention} {reference : Reference}
    (counted : convention.count? (Nat.toDigits 10 reference.line) = some reference.line) :
    Reference.ofDocument? convention (reference.document.mapStrings some) = some reference := by
  have nodup : (reference.parts.map (·.1)).Nodup := by simp [parts]
  -- Both fields are found under their names, and the line is the only one that can be refused.
  have fields : Json.fields? convention false ["filename", "line"]
      (reference.document.mapStrings some) =
        some [some (.string (some reference.file)),
          some (.number (Nat.toDigits 10 reference.line))] :=
    Json.fields?_members convention nodup (.refl _)
  have line : convention.countOf? (.number (Nat.toDigits 10 reference.line)) =
      some reference.line := counted
  rw [ofDocument?, fields]
  simp only [Option.bind_eq_bind, Option.bind_some, line]
  rfl

/-- A translation is read back from its document. -/
theorem Translation.ofDocument?_document (translation : Translation) :
    Translation.ofDocument? (translation.document.mapStrings some) = some translation := by
  cases translation with
  | single text => rfl
  | forms texts =>
    have read : ((texts.map Value.string).map (Value.mapStrings some)).mapM Json.text? =
        some texts := Json.mapM_document fun _ _ => rfl
    rw [document, Value.mapStrings, Json.Value.mapItems_eq_map, ofDocument?, read]
    rfl

/-- The document of a translation has no numbers. -/
theorem Translation.numbered_document (translation : Translation) :
    translation.document.Numbered := by
  cases translation with
  | single text => trivial
  | forms texts =>
    rw [document, Value.Numbered, Json.Value.numberedItems_iff, List.forall_mem_map]
    exact fun _ _ => trivial

/-- A list is a member when it is a part that is there. -/
theorem listMember_eq (name : String) (items : List (Value String)) :
    listMember name items = Json.Part.member (name, Json.listPart items) := by
  cases items <;> rfl

/-- The parts of an entry's record. -/
def Entry.parts (entry : Entry) : List Json.Part :=
  [("msgctxt", entry.message.context.map .string),
    ("msgid", some (.string entry.message.text)),
    ("msgidPlural", entry.message.plural.map .string),
    ("msgstr", some entry.translation.document),
    ("references", Json.listPart (entry.references.map Reference.document)),
    ("developerComments", Json.listPart (entry.developerComments.map .string)),
    ("translatorComments", Json.listPart (entry.translatorComments.map .string)),
    ("flags", Json.listPart (entry.flags.map .string)),
    ("status", (entry.status.map Status.name).map .string)]

/-- An entry's record is made of its parts. -/
theorem Entry.document_eq (entry : Entry) :
    entry.document = .object (Json.members entry.parts) := by
  -- The record leaves out what is not there, as the parts do.
  obtain ⟨⟨context, text, plural⟩, _, _, _, _, _, status⟩ := entry
  refine congrArg Value.object ?_
  simp only [parts, Json.members, List.flatMap_cons, List.flatMap_nil, listMember_eq]
  cases context <;> cases plural <;> cases status <;> simp [Json.Part.member]

/-- The numbers of an entry's record are counts. -/
theorem Entry.numbered_document (entry : Entry) : entry.document.Numbered := by
  -- The line of a reference is the only number of a record.
  have plain {α : Type} (document : α → Value String) (each : ∀ item, (document item).Numbered)
      (items : List α) : ∀ value ∈ Json.listPart (items.map document), value.Numbered := by
    intro value given
    rw [Json.listPart] at given
    split at given
    · cases given
    · cases given
      rw [Value.Numbered, Json.Value.numberedItems_iff, List.forall_mem_map]
      exact fun item _ => each item
  have text (text : Option String) : ∀ value ∈ text.map Value.string, value.Numbered := by
    intro value given
    obtain ⟨_, -, rfl⟩ := Option.map_eq_some_iff.1 given
    trivial
  have strings (texts : List String) := plain Value.string (fun _ => trivial) texts
  have references := plain Reference.document
    (fun reference => ⟨trivial, Json.isNumeral_toDigits reference.line, trivial⟩) entry.references
  rw [document_eq, Value.Numbered, Json.Value.numberedMembers_iff, Json.forall_members]
  simp only [parts, List.forall_mem_cons]
  -- What is left of the parts are texts, and lists of them.
  refine ⟨text _, ?_, text _, ?_, references, strings _, strings _, strings _, text _, nofun⟩
  · rintro _ ⟨⟩
    trivial
  · rintro _ ⟨⟩
    exact entry.translation.numbered_document

/-- The record of an entry. -/
def Entry.record (entry : Entry) : Record where
  context := entry.message.context
  text := some entry.message.text
  plural := entry.message.plural
  translation := some entry.translation
  references := entry.references
  developerComments := entry.developerComments
  translatorComments := entry.translatorComments
  flags := entry.flags
  status := entry.status

/-- A record is read back from its parts, in whatever order they are given, when the lines of its
references are read back as counts. -/
theorem Entry.ofDocument?_members {convention : Convention} {entry : Entry}
    (counted : ∀ reference ∈ entry.references,
      convention.count? (Nat.toDigits 10 reference.line) = some reference.line)
    {given : List (String × Value String)} (same : given.Perm (Json.members entry.parts)) :
    Record.ofDocument? convention ((Value.object given).mapStrings some) = some entry.record := by
  -- Field by field, in the order of the names.
  have names : entry.parts.map (·.1) = fieldNames := rfl
  have nodup : (entry.parts.map (·.1)).Nodup := by
    rw [names]
    decide
  have fields := Json.fields?_members convention nodup same
  rw [names] at fields
  have text : Json.orElse? none (Json.nullable? Json.text?)
      ((some (Value.string entry.message.text)).map (Value.mapStrings some)) =
        some (some entry.message.text) := rfl
  have translation : Json.orElse? none (Json.nullable? Translation.ofDocument?)
      ((some entry.translation.document).map (Value.mapStrings some)) =
        some (some entry.translation) := by
    have read := entry.translation.ofDocument?_document
    -- A translation is one text or a list of forms, and neither of them is read as the other.
    cases made : entry.translation with
    | single text => rfl
    | forms texts =>
      rw [made] at read
      show (Translation.ofDocument? _).map some = _
      rw [read]
      rfl
  have references : Json.orElse? [] (Json.list? (Reference.ofDocument? convention))
      ((Json.listPart (entry.references.map Reference.document)).map (Value.mapStrings some)) =
        some entry.references :=
    Json.orElse?_list fun reference member =>
      Reference.ofDocument?_document (counted reference member)
  have texts (texts : List String) : Json.orElse? [] (Json.list? Json.text?)
      ((Json.listPart (texts.map Value.string)).map (Value.mapStrings some)) = some texts :=
    Json.orElse?_list fun _ _ => rfl
  have status : Json.orElse? none (Json.nullable? (Status.ofDocument? convention))
      (((entry.status.map Status.name).map Value.string).map (Value.mapStrings some)) =
        some entry.status := by
    cases entry.status with
    | none => rfl
    | some status => cases status <;> rfl
  -- Each field of the record finds its part by its place in the list of names.
  rw [Record.ofDocument?, fields]
  simp only [parts, List.map_cons, List.map_nil, Option.bind_eq_bind, Option.bind_some,
    Json.orElse?_text, text, translation, references, texts, status]
  rfl

/-- An entry that passes is read back from its record. -/
theorem Entry.ofRecord_record {entry : Entry} (valid : entry.defect? = none) :
    ofRecord entry.record = .ok entry := by
  have passes := validate_eq_ok.2 valid
  rw [ofRecord]
  exact congrArg (fun passed => passed >>= fun _ => Except.ok entry) passes

/-- An entry that is made of a record passes. -/
theorem Entry.valid_of_ofRecord {record : Record} {entry : Entry}
    (made : ofRecord record = .ok entry) : entry.defect? = none := by
  -- The cases are those of `ofRecord`, of which only the last one makes an entry.
  unfold ofRecord at made
  split at made
  · cases made
  · split at made
    · cases made
    · obtain ⟨⟨⟩, passed, same⟩ := bind_eq_ok.1 made
      cases same
      exact validate_eq_ok.1 passed

/-- The entries of a document pass. -/
theorem Entry.valid_of_listOfDocument {convention : Convention} {malformed : CatalogFault}
    {value : Option Document} {entries : List Entry}
    (read : listOfDocument convention malformed value = .ok entries) :
    ∀ entry ∈ entries, entry.defect? = none := by
  unfold listOfDocument at read
  split at read
  · rename_i records given
    clear given
    -- Each of them is made of its own record.
    induction records generalizing entries with
    | nil =>
      cases read
      exact nofun
    | cons record records ih =>
      rw [List.mapM_cons] at read
      obtain ⟨first, made, read⟩ := bind_eq_ok.1 read
      obtain ⟨others, rest, same⟩ := bind_eq_ok.1 read
      cases same
      exact List.forall_mem_cons.2 ⟨valid_of_ofRecord made, ih rest⟩
  · cases read

/-- A list of entries is read back from its document when each of them is. -/
theorem Entry.listOfDocument_map {convention : Convention} {document : Entry → Value String}
    {entries : List Entry} (valid : ∀ entry ∈ entries, entry.defect? = none)
    (read : ∀ entry ∈ entries,
      Record.ofDocument? convention ((document entry).mapStrings some) = some entry.record)
    (malformed : CatalogFault) :
    listOfDocument convention malformed
      (some ((Value.array (entries.map document)).mapStrings some)) = .ok entries := by
  -- The documents are read as records, and then the records as entries.
  have records : ((entries.map document).map (Value.mapStrings some)).mapM
      (Record.ofDocument? convention) = some (entries.map record) := by
    rw [List.map_map]
    exact Json.mapM_map_eq read
  have made : (entries.map record).mapM ofRecord = .ok entries := by
    have each : (entries.map record).mapM ofRecord = .ok (entries.map id) :=
      Json.mapM_map_eq fun entry member => ofRecord_record (valid entry member)
    rw [List.map_id] at each
    exact each
  rw [listOfDocument, Value.mapStrings, Json.Value.mapItems_eq_map, Option.bind_some, Json.list?,
    records]
  exact made

/-- A list of entries is read back from its document in the plain form. -/
theorem Entry.listOfDocument_document {entries : List Entry}
    (valid : ∀ entry ∈ entries, entry.defect? = none)
    (small : ∀ entry ∈ entries, ∀ reference ∈ entry.references, reference.line ≤ maxCount)
    (malformed : CatalogFault) :
    listOfDocument .plain malformed
      (some ((Value.array (entries.map document)).mapStrings some)) = .ok entries := by
  refine listOfDocument_map valid (fun entry member => ?_) malformed
  rw [document_eq]
  exact ofDocument?_members
    (fun reference inside => plainCount?_toDigits (small entry member reference inside)) (.refl _)

end MessageCatalog
