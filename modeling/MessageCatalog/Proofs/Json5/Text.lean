import MessageCatalog.Json5.Layout
import MessageCatalog.Proofs.Json5.Token

/-! A document in the wide form is read back from its text when no string of it holds a separator, and
otherwise has no value at all. -/

namespace MessageCatalog

mutual

/-- The strings of a value, names of members among them. -/
def Json.Value.texts : Value String → List String
  | .string text => [text]
  | .array items => textsOfItems items
  | .object members => textsOfMembers members
  | _ => []

/-- The strings of some items. -/
def Json.Value.textsOfItems : List (Value String) → List String
  | [] => []
  | item :: items => item.texts ++ textsOfItems items

/-- The strings of some members. -/
def Json.Value.textsOfMembers : List (String × Value String) → List String
  | [] => []
  | (name, value) :: members => [name] ++ (value.texts ++ textsOfMembers members)

end

namespace Json5

open Json (Value Style Token Frame Reading Due Awaits place wordValue? writeString awaits_value
  awaits_first awaits_next)

/-- What is read, unless one of the texts that were written holds a separator. -/
def unlessBroken {α : Type} (texts : List String) (read : Option α) : Option α :=
  if texts.all isUnbroken then read else none

/-- Without a separator all is read. -/
theorem unlessBroken_of_all {α : Type} {texts : List String} (whole : texts.all isUnbroken = true)
    (read : Option α) : unlessBroken texts read = read := if_pos whole

/-- Texts are read one after the other. -/
theorem unlessBroken_append {α : Type} (texts others : List String) (read : Option α) :
    unlessBroken (texts ++ others) read = unlessBroken texts (unlessBroken others read) := by
  rw [unlessBroken, List.all_append]
  cases whole : texts.all isUnbroken with
  | false => simp [unlessBroken, whole]
  | true => simp [unlessBroken, whole]

/-- A blank of the plain form is one of the wide form. -/
theorem isGap_of_plain {c : Char} (blank : Json.isGap c = true) : isGap c = true := by
  simp only [Json.isGap, Bool.or_eq_true, beq_iff_eq] at blank
  rcases blank with ((rfl | rfl) | rfl) | rfl <;> rfl

/-- No blanks are blanks. -/
theorem noGap : ∀ c ∈ ([] : List Char), isGap c = true := List.forall_mem_nil _

/-- A number may stand in front of a comma. -/
theorem ends_comma (rest : List Char) : Ends (',' :: rest) := by
  rintro _ _ ⟨⟩
  exact ⟨rfl, by decide, by decide⟩

/-- A name may stand in front of a colon. -/
theorem ends_colon (rest : List Char) : Ends (':' :: rest) := by
  rintro _ _ ⟨⟩
  exact ⟨rfl, by decide, by decide⟩

/-- A plain name has a first character, and maybe further ones. -/
theorem spelled_of_isPlainName {name : String} (plain : isPlainName name = true) :
    ∃ c word, name.toList = c :: word ∧ beginsPlain c = true ∧ ∀ d ∈ word, staysPlain d = true := by
  unfold isPlainName at plain
  split at plain
  · cases plain
  · rename_i c word spelled
    rw [Bool.and_eq_true, List.all_eq_true] at plain
    exact ⟨c, word, spelled, plain⟩

section

variable {reading : Reading (Option String)} {frames : List (Frame (Option String))}
  {gap rest : List Char}

/-- The token of a string is added to the reading, unless the string holds a separator. -/
theorem readFrom?_string (blank : ∀ c ∈ gap, isGap c = true) (text : String) :
    wide.readFrom? reading (gap ++ (writeString text ++ rest)) = unlessBroken [text]
      ((reading.add wide.toDialect (.string (some text))).bind fun next =>
        wide.readFrom? next rest) := by
  have starts : Starts (writeString text ++ rest) := starts_cons ⟨by decide, rfl⟩ _
  have taken := wideToken?_writeString text rest
  -- A string without separators is a token; any other one is none, and so nothing is read.
  cases whole : isUnbroken text with
  | true =>
    rw [whole, if_pos rfl] at taken
    rw [unlessBroken_of_all (by simpa using whole), readFrom?_token blank starts taken]
  | false =>
    rw [whole, if_neg (by decide)] at taken
    rw [unlessBroken, if_neg (by simp [whole])]
    exact readFrom?_noToken blank starts taken

/-- The token of a word is added to the reading. -/
theorem readFrom?_word (blank : ∀ c ∈ gap, isGap c = true) {c : Char} {word : List Char}
    (begins : beginsPlain c = true) (stays : ∀ d ∈ word, staysPlain d = true) (ends : Ends rest) :
    wide.readFrom? reading (gap ++ (c :: word ++ rest)) =
      (reading.add wide.toDialect (.word (c :: word) (some (String.ofList (c :: word))))).bind
        fun next => wide.readFrom? next rest :=
  readFrom?_token blank (starts_word begins (word ++ rest)) (wideToken?_word begins stays ends)

/-- A word of letters takes its place as the value that it stands for. -/
theorem readFrom?_value (awaits : Awaits wide.toDialect reading frames)
    (blank : ∀ c ∈ gap, isGap c = true) {c : Char} {word : List Char} (begins : beginsPlain c = true)
    (stays : word.all staysPlain = true) {value : Value (Option String)}
    (known : wordValue? wide.toDialect (c :: word) = some value) (ends : Ends rest) :
    wide.readFrom? reading (gap ++ (c :: word ++ rest)) =
      (place value frames).bind fun next => wide.readFrom? next rest := by
  rw [readFrom?_word blank begins (List.all_eq_true.1 stays) ends, awaits (.word (c :: word) _) nofun,
    Json.beginValue, known]
  rfl

/-- A number takes its place where a value is due. -/
theorem readFrom?_number (awaits : Awaits wide.toDialect reading frames)
    (blank : ∀ c ∈ gap, isGap c = true) {literal : List Char} (numeral : Json.IsNumeral literal)
    (ends : Ends rest) :
    wide.readFrom? reading (gap ++ (literal ++ rest)) =
      (place (.number literal) frames).bind fun next => wide.readFrom? next rest := by
  have plain := isNumeral_of_plain numeral
  rw [readFrom?_token blank (starts_number plain rest) (wideToken?_number plain ends),
    awaits (.number literal) nofun]
  rfl

/-- The end of an array closes it, at its start or behind a comma. -/
theorem readFrom?_endArray {items : List (Value (Option String))} {due : Due}
    (closes : due = .firstItem ∨ due = .next) (blank : ∀ c ∈ gap, isGap c = true) :
    wide.readFrom? (.inside due (.array items :: frames)) (gap ++ ']' :: rest) =
      (place (.array items.reverse) frames).bind fun next => wide.readFrom? next rest := by
  -- No item begins with the end of an array, so there is nothing to choose from.
  have closed : Reading.add wide.toDialect .endArray (.inside due (.array items :: frames)) =
      place (.array items.reverse) frames := by
    rcases closes with rfl | rfl <;> exact Option.or_none
  have taken : wideToken? (']' :: rest) = some (.endArray, rest) := rfl
  rw [readFrom?_token blank (starts_cons ⟨by decide, rfl⟩ rest) taken, closed]

/-- The end of an object closes it, at its start or behind a comma. -/
theorem readFrom?_endObject {members : List (Option String × Value (Option String))} {due : Due}
    (closes : due = .firstMember ∨ due = .next) (blank : ∀ c ∈ gap, isGap c = true) :
    wide.readFrom? (.inside due (.object members :: frames)) (gap ++ '\x7d' :: rest) =
      (place (.object members.reverse) frames).bind fun next => wide.readFrom? next rest := by
  have closed : Reading.add wide.toDialect .endObject (.inside due (.object members :: frames)) =
      place (.object members.reverse) frames := by
    rcases closes with rfl | rfl <;> exact Option.or_none
  have taken : wideToken? ('\x7d' :: rest) = some (.endObject, rest) := rfl
  rw [readFrom?_token blank (starts_cons ⟨by decide, rfl⟩ rest) taken, closed]

/-- A sign is added to the reading. -/
theorem readFrom?_sign (blank : ∀ c ∈ gap, isGap c = true) {c : Char}
    (visible : c ≠ '/' ∧ isGap c = false) {token : Token (Option String)}
    (taken : wideToken? (c :: rest) = some (token, rest)) {next : Reading (Option String)}
    (added : reading.add wide.toDialect token = some next) :
    wide.readFrom? reading (gap ++ c :: rest) = wide.readFrom? next rest := by
  rw [readFrom?_token blank (starts_cons visible rest) taken, added]
  rfl

/-- A comma leads on to the next item or member, or to the end. -/
theorem readFrom?_comma :
    wide.readFrom? (.inside .separator frames) (',' :: rest) =
      wide.readFrom? (.inside .next frames) rest :=
  readFrom?_sign noGap ⟨by decide, rfl⟩ rfl rfl

/-- The name of a member is followed by its value. -/
theorem readFrom?_name {members : List (Option String × Value (Option String))} {due : Due}
    (begins : due = .firstMember ∨ due = .next) (blank : ∀ c ∈ gap, isGap c = true) (name : String) :
    wide.readFrom? (.inside due (.object members :: frames)) (gap ++ (writeName name ++ ':' :: rest)) =
      unlessBroken [name]
        (wide.readFrom? (.inside .value (.member members (some name) :: frames)) rest) := by
  -- The colon behind the name is a token of its own.
  have colon : wide.readFrom? (.inside .colon (.member members (some name) :: frames)) (':' :: rest) =
      wide.readFrom? (.inside .value (.member members (some name) :: frames)) rest :=
    readFrom?_sign noGap ⟨by decide, rfl⟩ rfl rfl
  rw [writeName]
  split
  · -- A plain name is a word, and holds no separator.
    rename_i plain
    obtain ⟨c, word, spelled, first, stays⟩ := spelled_of_isPlainName plain
    have whole : [name].all isUnbroken = true := by
      have all : ∀ d ∈ name.toList, staysPlain d = true := by
        rw [spelled]
        exact List.forall_mem_cons.2 ⟨staysPlain_of_beginsPlain first, stays⟩
      simpa using isUnbroken_of_staysPlain all
    have named : Reading.add wide.toDialect (.word (c :: word) (some name))
        (.inside due (.object members :: frames)) =
          some (.inside .colon (.member members (some name) :: frames)) := by
      rcases begins with rfl | rfl <;> rfl
    have told : String.ofList (c :: word) = name := by rw [← spelled, String.ofList_toList]
    rw [unlessBroken_of_all whole, spelled, readFrom?_word blank first stays (ends_colon rest),
      told, named]
    exact colon
  · -- Any other name is in quotes, where a separator breaks it off.
    have named : Reading.add wide.toDialect (.string (some name))
        (.inside due (.object members :: frames)) =
          some (.inside .colon (.member members (some name) :: frames)) := by
      rcases begins with rfl | rfl <;> rfl
    rw [readFrom?_string blank, named]
    exact congrArg (unlessBroken [name]) colon

end

section

variable {style : Style}

/-- A line ends with blanks. -/
theorem isGap_newline (style : Style) : ∀ c ∈ style.newline, isGap c = true := by
  rw [Style.newline]
  split
  · simp [isGap, endsLine]
  · simp [isGap, endsLine]

/-- A line begins with blanks. -/
theorem isGap_margin (indented : style.Blank) (depth : Nat) :
    ∀ c ∈ margin style depth, isGap c = true :=
  fun _ member => isGap_of_plain (indented.line (List.mem_append_right style.newline member))

mutual

/-- A value takes its place where a value is due, unless one of its strings holds a separator. -/
theorem readFrom?_writeAt (indented : style.Blank) (value : Value String) (numbered : value.Numbered)
    {reading : Reading (Option String)} {frames : List (Frame (Option String))}
    (awaits : Awaits wide.toDialect reading frames) (depth : Nat) {gap : List Char}
    (blank : ∀ c ∈ gap, isGap c = true) {rest : List Char} (ends : Ends rest) :
    wide.readFrom? reading (gap ++ (writeAt style depth value ++ rest)) = unlessBroken value.texts
      ((place (value.mapStrings some) frames).bind fun next => wide.readFrom? next rest) := by
  -- Scalars are tokens. A container is entered by its bracket or brace, and then its parts are read,
  -- each of which joins those before it; an empty one has no lines.
  match value with
  | .null => exact readFrom?_value awaits blank rfl rfl rfl ends
  | .bool true => exact readFrom?_value awaits blank rfl rfl rfl ends
  | .bool false => exact readFrom?_value awaits blank rfl rfl rfl ends
  | .number literal =>
    rw [Value.Numbered] at numbered
    exact readFrom?_number awaits blank numbered ends
  | .string text =>
    rw [writeAt, readFrom?_string blank, awaits (.string (some text)) nofun]
    rfl
  | .array [] =>
    rw [writeAt, List.cons_append,
      readFrom?_sign blank ⟨by decide, rfl⟩ rfl (awaits .beginArray nofun)]
    exact readFrom?_endArray (.inl rfl) noGap
  | .array (item :: items) =>
    have spelled : writeAt style depth (.array (item :: items)) ++ rest =
        '[' :: (style.newline ++ (writeItems style (depth + 1) (item :: items) ++
          (margin style depth ++ ']' :: rest))) := by
      simp [writeAt]
    rw [spelled, readFrom?_sign blank ⟨by decide, rfl⟩ rfl (awaits .beginArray nofun),
      readFrom?_writeItems indented (item :: items) numbered (.inl rfl) (depth + 1)
        (isGap_newline style) (isGap_margin indented depth)]
    rfl
  | .object [] =>
    rw [writeAt, List.cons_append,
      readFrom?_sign blank ⟨by decide, rfl⟩ rfl (awaits .beginObject nofun)]
    exact readFrom?_endObject (.inl rfl) noGap
  | .object (member :: members) =>
    have spelled : writeAt style depth (.object (member :: members)) ++ rest =
        '\x7b' :: (style.newline ++ (writeMembers style (depth + 1) (member :: members) ++
          (margin style depth ++ '\x7d' :: rest))) := by
      simp [writeAt]
    rw [spelled, readFrom?_sign blank ⟨by decide, rfl⟩ rfl (awaits .beginObject nofun),
      readFrom?_writeMembers indented (member :: members) numbered (.inl rfl) (depth + 1)
        (isGap_newline style) (isGap_margin indented depth)]
    rfl

/-- Further items join those of an array up to its end. -/
theorem readFrom?_writeItems (indented : style.Blank) (items : List (Value String))
    (numbered : Value.NumberedItems items) {earlier : List (Value (Option String))}
    {frames : List (Frame (Option String))} {due : Due} (begins : due = .firstItem ∨ due = .next)
    (depth : Nat) {gap closing : List Char} (blank : ∀ c ∈ gap, isGap c = true)
    (closed : ∀ c ∈ closing, isGap c = true) {rest : List Char} :
    wide.readFrom? (.inside due (.array earlier :: frames))
        (gap ++ (writeItems style depth items ++ (closing ++ ']' :: rest))) =
      unlessBroken (Value.textsOfItems items)
        ((place (.array (earlier.reverse ++ Value.mapItems some items)) frames).bind fun next =>
          wide.readFrom? next rest) := by
  match items with
  -- Without a further item the bracket closes the array.
  | [] =>
    have spelled : gap ++ (writeItems style depth [] ++ (closing ++ ']' :: rest)) =
        gap ++ closing ++ ']' :: rest := by simp [writeItems]
    rw [spelled, readFrom?_endArray begins (List.forall_mem_append.2 ⟨blank, closed⟩), Value.mapItems,
      List.append_nil]
    rfl
  | item :: items =>
    have spelled : gap ++ (writeItems style depth (item :: items) ++ (closing ++ ']' :: rest)) =
        gap ++ margin style depth ++ (writeAt style depth item ++ ',' :: (style.newline ++
          (writeItems style depth items ++ (closing ++ ']' :: rest)))) := by simp [writeItems]
    have awaits : Awaits wide.toDialect (.inside due (.array earlier :: frames))
        (.array earlier :: frames) := by
      rcases begins with rfl | rfl
      · exact awaits_first _ _ _
      · exact awaits_next _ _ _
    -- The item is read up to its comma, which lets the array go on or end.
    rw [spelled, readFrom?_writeAt indented item numbered.1 awaits depth
      (List.forall_mem_append.2 ⟨blank, isGap_margin indented depth⟩) (ends_comma _)]
    show unlessBroken item.texts (wide.readFrom? (.inside .separator
      (.array (item.mapStrings some :: earlier) :: frames)) _) = _
    rw [readFrom?_comma, readFrom?_writeItems indented items numbered.2 (.inr rfl) depth
      (isGap_newline style) closed, Value.textsOfItems, unlessBroken_append, Value.mapItems,
      List.reverse_cons, List.append_assoc]
    rfl

/-- Further members join those of an object up to its end. -/
theorem readFrom?_writeMembers (indented : style.Blank) (members : List (String × Value String))
    (numbered : Value.NumberedMembers members)
    {earlier : List (Option String × Value (Option String))} {frames : List (Frame (Option String))}
    {due : Due} (begins : due = .firstMember ∨ due = .next) (depth : Nat) {gap closing : List Char}
    (blank : ∀ c ∈ gap, isGap c = true) (closed : ∀ c ∈ closing, isGap c = true) {rest : List Char} :
    wide.readFrom? (.inside due (.object earlier :: frames))
        (gap ++ (writeMembers style depth members ++ (closing ++ '\x7d' :: rest))) =
      unlessBroken (Value.textsOfMembers members)
        ((place (.object (earlier.reverse ++ Value.mapMembers some members)) frames).bind fun next =>
          wide.readFrom? next rest) := by
  -- Each member ends with a comma and a newline, so the margin stands in front of the next one.
  match members with
  | [] =>
    have spelled : gap ++ (writeMembers style depth [] ++ (closing ++ '\x7d' :: rest)) =
        gap ++ closing ++ '\x7d' :: rest := by simp [writeMembers]
    rw [spelled, readFrom?_endObject begins (List.forall_mem_append.2 ⟨blank, closed⟩),
      Value.mapMembers, List.append_nil]
    rfl
  | (name, value) :: members =>
    have spelled : gap ++ (writeMembers style depth ((name, value) :: members) ++
        (closing ++ '\x7d' :: rest)) =
          gap ++ margin style depth ++ (writeName name ++ ':' :: ([' '] ++
            (writeAt style depth value ++ ',' :: (style.newline ++
              (writeMembers style depth members ++ (closing ++ '\x7d' :: rest)))))) := by
      simp [writeMembers]
    -- A single space stands between the colon and the value.
    have single : ∀ c ∈ [' '], isGap c = true := List.all_eq_true.1 rfl
    rw [spelled, readFrom?_name begins
      (List.forall_mem_append.2 ⟨blank, isGap_margin indented depth⟩) name,
      readFrom?_writeAt indented value numbered.1 (awaits_value _ _) depth single (ends_comma _)]
    show unlessBroken [name] (unlessBroken value.texts (wide.readFrom? (.inside .separator
      (.object ((some name, value.mapStrings some) :: earlier) :: frames)) _)) = _
    rw [readFrom?_comma, readFrom?_writeMembers indented members numbered.2 (.inr rfl) depth
      (isGap_newline style) closed, Value.textsOfMembers, unlessBroken_append, unlessBroken_append,
      Value.mapMembers, List.reverse_cons, List.append_assoc]
    rfl

end

/-- A document is read back from its text, unless one of its strings holds a separator. -/
theorem read?_write (indented : style.Blank) {value : Value String} (numbered : value.Numbered) :
    wide.read? (write style value) = unlessBroken value.texts (some (value.mapStrings some)) := by
  -- Behind the value stands nothing but the end of the last line.
  have ending : ∀ c ∈ style.ending, isGap c = true := by
    intro c member
    rw [Style.ending] at member
    split at member
    · exact isGap_newline style c member
    · cases member
  have ends : Ends style.ending := by
    rw [Style.ending, Style.newline]
    split
    · split
      · rintro _ _ ⟨⟩
        exact ⟨rfl, by decide, by decide⟩
      · rintro _ _ ⟨⟩
        exact ⟨rfl, by decide, by decide⟩
    · rintro _ _ ⟨⟩
  have read := readFrom?_writeAt indented value numbered (awaits_value wide.toDialect []) 0 noGap ends
  rw [List.nil_append] at read
  rw [Json.Grammar.read?, write, Reading.start, read]
  exact congrArg (unlessBroken value.texts) (readFrom?_end ending)

end

end Json5

end MessageCatalog
