import MessageCatalog.Proofs.Entry.Fault
import MessageCatalog.Proofs.Po.Reference

/-! What is read from a catalog is settled: a reader has trimmed it, and told apart what it is made of. -/

namespace MessageCatalog.Po

/-- The pieces between commas are made of the characters of the text. -/
theorem mem_of_mem_splitCommas {text piece : List Char} {c : Char}
    (member : piece ∈ splitCommas text) (inside : c ∈ piece) : c ∈ text := by
  -- By induction on the text; a character that is no comma joins the first piece of what follows.
  induction text generalizing piece with
  | nil =>
    rw [List.mem_singleton.1 member] at inside
    cases inside
  | cons d rest ih =>
    unfold splitCommas at member
    split at member
    · rcases List.mem_cons.1 member with rfl | later
      · cases inside
      · exact .tail _ (ih later inside)
    · split at member
      · rw [List.mem_singleton.1 member, List.mem_singleton] at inside
        exact inside ▸ .head _
      · rename_i first pieces split
        rcases List.mem_cons.1 member with rfl | later
        · rcases List.mem_cons.1 inside with rfl | behind
          · exact .head _
          · exact .tail _ (ih (split ▸ .head _) behind)
        · exact .tail _ (ih (split ▸ .tail _ later) inside)

/-- No piece holds a comma. -/
theorem not_mem_of_mem_splitCommas {text piece : List Char} (member : piece ∈ splitCommas text) :
    ',' ∉ piece := by
  -- By induction on the text; a comma begins a new piece, which is empty at first.
  induction text generalizing piece with
  | nil =>
    rw [List.mem_singleton.1 member]
    exact nofun
  | cons c rest ih =>
    unfold splitCommas at member
    split at member
    · rcases List.mem_cons.1 member with rfl | later
      · exact nofun
      · exact ih later
    · rename_i other
      -- The character joins the first piece, and the others stay.
      split at member
      · rw [List.mem_singleton.1 member, List.mem_singleton]
        exact fun same => other same.symm
      · rename_i first pieces split
        rcases List.mem_cons.1 member with rfl | later
        · rintro (- | ⟨-, inside⟩)
          · exact other rfl
          · exact ih (split ▸ .head _) inside
        · exact ih (split ▸ .tail _ later)

namespace Draft

/-- A draft of a settled entry. -/
structure Settled (draft : Draft) : Prop where
  notes : SettledNotes draft.references draft.developerComments draft.translatorComments draft.flags
  forms : ∀ index ∈ draft.forms.keys, index ≤ maxCount
  last : ∀ field, draft.last = some field → field.Fits

/-- Nothing has been read yet. -/
theorem settled_empty : Settled {} where
  notes := ⟨nofun, nofun, nofun, nofun⟩
  forms := nofun
  last := nofun

/-- A flag between commas of one line keeps a draft settled. -/
theorem Settled.addFlag {draft : Draft} (settled : draft.Settled) {flag : List Char}
    (plain : ',' ∉ flag) (single : '\n' ∉ flag) : (draft.addFlag flag).Settled := by
  obtain ⟨references, developer, translator, flags⟩ := settled.notes
  unfold Draft.addFlag
  dsimp only
  -- An empty flag adds nothing, and a status goes to a field of its own.
  split
  · exact settled
  · rename_i nonempty
    split
    · exact ⟨settled.notes, settled.forms, settled.last⟩
    · -- A flag that is neither empty nor a status is kept, and has been trimmed.
      rename_i noStatus
      refine ⟨⟨references, developer, translator, ?_⟩, settled.forms, settled.last⟩
      refine List.forall_mem_append.2 ⟨flags, ?_⟩
      rw [List.forall_mem_singleton]
      refine ⟨by simpa using nonempty, ?_, ?_, ?_, noStatus⟩
      · rw [String.toList_ofList]
        exact fun inside => plain (mem_of_mem_trim inside)
      · rw [String.toList_ofList]
        exact fun inside => single (mem_of_mem_trim inside)
      · rw [String.toList_ofList, trim_trim]

/-- Flags of one line keep a draft settled. -/
theorem Settled.addFlags {draft : Draft} (settled : draft.Settled) {flags : List (List Char)}
    (plain : ∀ flag ∈ flags, ',' ∉ flag) (single : ∀ flag ∈ flags, '\n' ∉ flag) :
    (flags.foldl Draft.addFlag draft).Settled := by
  -- One flag after the other.
  induction flags generalizing draft with
  | nil => exact settled
  | cons flag flags ih =>
    rw [List.foldl_cons]
    exact ih (settled.addFlag (plain flag (.head _)) (single flag (.head _)))
      (fun other member => plain other (.tail _ member))
      (fun other member => single other (.tail _ member))

/-- A comment for translators keeps a draft settled. -/
theorem Settled.addTranslatorComment {draft : Draft} (settled : draft.Settled) {text : List Char}
    (single : '\n' ∉ text) (kept : trimEnd text = text) :
    Settled { draft with
      translatorComments := draft.translatorComments ++ [String.ofList text] } := by
  obtain ⟨references, developer, translator, flags⟩ := settled.notes
  refine ⟨⟨references, developer, ?_, flags⟩, settled.forms, settled.last⟩
  refine List.forall_mem_append.2 ⟨translator, ?_⟩
  rw [List.forall_mem_singleton]
  exact ⟨by rwa [String.toList_ofList], by rwa [String.toList_ofList]⟩

/-- A comment from the developers keeps a draft settled, and loses the blanks at its start. -/
theorem Settled.addDeveloperComment {draft : Draft} (settled : draft.Settled) {text : List Char}
    (single : '\n' ∉ text) (kept : trimEnd text = text) :
    Settled { draft with
      developerComments := draft.developerComments ++ [String.ofList (trimStart text)] } := by
  obtain ⟨references, developer, translator, flags⟩ := settled.notes
  refine ⟨⟨references, ?_, translator, flags⟩, settled.forms, settled.last⟩
  refine List.forall_mem_append.2 ⟨developer, ?_⟩
  rw [List.forall_mem_singleton]
  constructor
  · rw [String.toList_ofList]
    exact fun inside => single ((List.dropWhile_sublist _).subset inside)
  · rw [String.toList_ofList, trim, trimStart_trimStart, ← trim, trim_eq, kept]

/-- A comment of one line keeps a draft settled. -/
theorem Settled.addComment {draft after : Draft} (settled : draft.Settled) {comment : List Char}
    (single : '\n' ∉ comment) (kept : trimEnd comment = comment)
    (added : draft.addComment comment = .ok after) : after.Settled := by
  obtain ⟨references, developer, translator, flags⟩ := settled.notes
  unfold Draft.addComment at added
  split at added
  -- The blanks at the end of a developer's comment went with those of the line.
  · rename_i rest
    cases added
    exact settled.addDeveloperComment (fun inside => single (.tail _ inside)) (trimEnd_tail kept)
  -- References are read back from lines of their own.
  · rename_i rest
    split at added
    · rename_i read found
      cases added
      refine ⟨⟨List.forall_mem_append.2 ⟨references, ?_⟩, developer, translator, flags⟩,
        settled.forms, settled.last⟩
      exact settledReference_of_references? (fun inside => single (.tail _ inside)) found
    · cases added
  -- Flags are pieces between commas.
  · rename_i rest
    cases added
    exact settled.addFlags (fun _ => not_mem_of_mem_splitCommas)
      fun flag member inside => single (.tail _ (mem_of_mem_splitCommas member inside))
  -- Earlier texts and obsolete entries are not kept.
  · cases added
    exact ⟨settled.notes, settled.forms, settled.last⟩
  · cases added
    exact ⟨settled.notes, settled.forms, settled.last⟩
  -- All else is for translators, without the blank behind the number sign.
  · cases added
    exact settled.addTranslatorComment (fun inside => single (.tail _ inside)) (trimEnd_tail kept)
  · cases added
    exact settled.addTranslatorComment single kept

/-- A quoted text keeps a draft settled, for the index of a form is a count. -/
theorem Settled.append {draft : Draft} (settled : draft.Settled) {field : Field}
    (fits : field.Fits) (value : List Char) : (draft.append field value).Settled := by
  -- Only an indexed form adds a key to the forms.
  cases field with
  | form index =>
    refine ⟨settled.notes, ?_, settled.last⟩
    intro other member
    rcases SortedMap.mem_keys_insert member with rfl | old
    · exact fits
    · exact settled.forms other old
  | _ => exact ⟨settled.notes, settled.forms, settled.last⟩

/-- The forms of a settled draft are counted. -/
theorem Settled.length_le {draft : Draft} (settled : draft.Settled) {texts : List String}
    (translated : draft.translation? = some (.forms texts)) : texts.length ≤ maxCount + 1 := by
  -- The number of forms is one more than the last index, which is a count.
  unfold Draft.translation? at translated
  split at translated
  · obtain ⟨text, -, same⟩ := Option.map_eq_some_iff.1 translated
    split at same
    · cases same
      exact Nat.succ_le_succ (Nat.zero_le _)
    · cases same
  · have listed : formList draft.forms = texts := by simpa using translated
    rw [← listed, formList]
    split
    · rename_i last found
      rw [List.length_map, List.length_range]
      exact Nat.succ_le_succ (settled.forms last (List.mem_of_getLast? found))
    · exact Nat.zero_le _

/-- The entry of a settled draft is settled. -/
theorem Settled.finish {draft : Draft} (settled : draft.Settled) {entry : Entry}
    (finished : draft.finish = .ok (some entry)) : Po.Settled entry := by
  -- Only the last case makes an entry, and it has been validated by then.
  unfold Draft.finish at finished
  split at finished
  · cases finished
  · split at finished
    · cases finished
    · split at finished
      · cases finished
      · split at finished
        · cases finished
        · rename_i translation translated
          obtain ⟨⟨⟩, passed, same⟩ := bind_eq_ok.1 finished
          cases same
          refine ⟨Entry.validate_eq_ok.1 passed, ?_, settled.notes⟩
          intro texts forms
          exact settled.length_le (translated.trans (congrArg some forms))

end Draft

/-- The field of a line has a count as its index. -/
theorem fits_of_read {line value : List Char} {field : Field}
    (read : Line.read line = .ok (.field field value)) : field.Fits := by
  -- Only `msgstr` takes an index, and that is read as a count.
  have named {keyword : Keyword} {digits : Option (List Char)}
      (named : fieldOf keyword digits = .ok field) : field.Fits := by
    unfold fieldOf at named
    split at named
    iterate 4 · cases named; trivial
    · split at named
      · rename_i digits index counted
        cases named
        exact count?_le counted
      · cases named
    · cases named
  -- Of the kinds of lines, only the one of a keyword tells a field.
  unfold Line.read at read
  split at read
  · cases read
  · cases read
  · split at read
    · rename_i keyword digits _ _
      cases found : fieldOf keyword digits with
      | error fault => rw [found] at read; cases read
      | ok other =>
        rw [found] at read
        cases read
        exact named found
    · split at read
      · cases read
      · cases read

/-- A comment is made of the characters of its line. -/
theorem mem_of_read_comment {line comment : List Char}
    (read : Line.read line = .ok (.comment comment)) : line = '#' :: comment := by
  unfold Line.read at read
  -- Of the cases of a line only the number sign makes a comment.
  split at read
  · cases read
  · cases read
    rfl
  · split at read
    · rename_i keyword digits _ _
      cases found : fieldOf keyword digits <;> rw [found] at read <;> cases read
    · split at read
      · cases read
      · cases read

namespace Reading

/-- A reading all of whose entries are settled. -/
structure Settled (reading : Reading) : Prop where
  entries : ∀ entry ∈ reading.entries, Po.Settled entry
  draft : reading.draft.Settled

/-- Finishing a settled draft gives a settled entry or none. -/
theorem Settled.close {reading after : Reading} (settled : reading.Settled)
    (closed : reading.close = .ok after) : after.Settled := by
  obtain ⟨entry, finished, closed⟩ := bind_eq_ok.1 closed
  -- A draft without fields makes no entry, and any other one makes a settled entry.
  cases entry with
  | none =>
    cases closed
    exact ⟨settled.entries, Draft.settled_empty⟩
  | some entry =>
    cases closed
    exact ⟨List.forall_mem_cons.2 ⟨settled.draft.finish finished, settled.entries⟩,
      Draft.settled_empty⟩

/-- A comment of one line keeps a reading settled. -/
theorem Settled.note {reading after : Reading} (settled : reading.Settled) {number : Nat}
    {comment : List Char} (single : '\n' ∉ comment) (kept : trimEnd comment = comment)
    (added : reading.note number comment = .ok after) : after.Settled := by
  obtain ⟨draft, noted, same⟩ := bind_eq_ok.1 added
  cases same
  exact ⟨settled.entries, settled.draft.addComment single kept (mapError_eq_ok.1 noted)⟩

/-- A field keeps a reading settled, and is the one that further texts belong to. -/
theorem Settled.enter {reading : Reading} (settled : reading.Settled) {field : Field}
    (fits : field.Fits) (value : List Char) :
    Settled { reading with
      draft := { reading.draft.append field value with last := some field } } := by
  have draft := settled.draft.append fits value
  refine ⟨settled.entries, draft.notes, draft.forms, ?_⟩
  rintro _ ⟨⟩
  exact fits

/-- A line keeps a reading settled. -/
theorem Settled.add {reading after : Reading} (settled : reading.Settled) {number : Nat}
    {line : List Char} (plain : '\n' ∉ line) (added : reading.add number line = .ok after) :
    after.Settled := by
  -- One case for each kind of line, in the order in which a reading looks at them.
  obtain ⟨what, read, added⟩ := bind_eq_ok.1 added
  rw [mapError_eq_ok] at read
  cases what with
  | blank => exact settled.close added
  | comment comment =>
    have spelled := mem_of_read_comment read
    have single : '\n' ∉ comment := by
      intro inside
      have inLine : '\n' ∈ trim line := spelled ▸ .tail _ inside
      exact plain (mem_of_mem_trim inLine)
    have kept : trimEnd comment = comment := by
      refine trimEnd_tail (c := '#') ?_
      rw [← spelled, trim, trimEnd_trimEnd]
    -- A comment behind fields closes their entry first, and goes to the draft that is left then.
    dsimp only at added
    split at added
    · obtain ⟨between, closed, added⟩ := bind_eq_ok.1 added
      exact (settled.close closed).note single kept added
    · exact settled.note single kept added
  | field field value =>
    have fits := fits_of_read read
    -- A field that begins the next entry closes this one first as well.
    dsimp only at added
    split at added
    · obtain ⟨between, closed, same⟩ := bind_eq_ok.1 added
      cases same
      exact (settled.close closed).enter fits value
    · cases added
      exact settled.enter fits value
  | continuation value =>
    dsimp only at added
    split at added
    · rename_i field last
      cases added
      exact ⟨settled.entries, settled.draft.append (settled.draft.last field last) value⟩
    · cases added

/-- Lines keep a reading settled. -/
theorem Settled.addAll {reading after : Reading} (settled : reading.Settled) {number : Nat}
    {lines : List (List Char)} (plain : ∀ line ∈ lines, '\n' ∉ line)
    (added : reading.addAll number lines = .ok after) : after.Settled := by
  -- By induction on the lines, each of which keeps the reading settled.
  induction lines generalizing reading number with
  | nil =>
    cases added
    exact settled
  | cons line lines ih =>
    obtain ⟨between, first, others⟩ := bind_eq_ok.1 added
    exact ih (settled.add (plain line (.head _)) first)
      (fun line member => plain line (.tail _ member)) others

end Reading

/-- The entries of a catalog are settled. -/
theorem settled_of_parse {text : List Char} {entries : List Entry}
    (parsed : parse text = .ok entries) : ∀ entry ∈ entries, Settled entry := by
  obtain ⟨reading, added, closing⟩ := bind_eq_ok.1 parsed
  obtain ⟨after, closed, same⟩ := bind_eq_ok.1 closing
  have start : Reading.Settled {} := ⟨nofun, Draft.settled_empty⟩
  have settled := (start.addAll (fun _ => not_mem_of_mem_lines) added).close closed
  cases same
  exact fun entry member => settled.entries entry (List.mem_reverse.1 member)

end MessageCatalog.Po
