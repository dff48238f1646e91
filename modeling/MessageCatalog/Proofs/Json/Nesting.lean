import MessageCatalog.Proofs.Json.Compact

/-! A part of a document stands where its surroundings put it, and what is written of it depends on the
number of containers around it only. -/

namespace MessageCatalog.Json

/-- A place for a value in a container, between other items or members. -/
inductive Slot where
  | item (earlier later : List (Value String))
  | member (earlier : List (String × Value String)) (name : String)
    (later : List (String × Value String))

/-- The container with a value at a place in it. -/
def Slot.fill (value : Value String) : Slot → Value String
  | item earlier later => .array (earlier ++ value :: later)
  | member earlier name later => .object (earlier ++ (name, value) :: later)

/-- A value with containers around it, the innermost one first. -/
def Value.within (value : Value String) : List Slot → Value String
  | [] => value
  | slot :: slots => (slot.fill value).within slots

section

variable (style : Style) (depth : Nat)

/-- Further items are written one after the other. -/
theorem writeItems_append (items others : List (Value String)) :
    writeItems style depth (items ++ others) =
      writeItems style depth items ++ writeItems style depth others := by
  induction items with
  | nil => rfl
  | cons item items ih => simp [writeItems, ih]

/-- Further members are written one after the other. -/
theorem writeMembers_append (members others : List (String × Value String)) :
    writeMembers style depth (members ++ others) =
      writeMembers style depth members ++ writeMembers style depth others := by
  induction members with
  | nil => rfl
  | cons member members ih => simp [writeMembers, ih]

/-- Further items follow a comma each, on lines of their own. -/
theorem writeItems_eq_flatMap (items : List (Value String)) :
    writeItems style depth items = (items.map fun item =>
      style.line depth ++ writeAt style depth item).flatMap (',' :: ·) := by
  induction items with
  | nil => rfl
  | cons item items ih => simp [writeItems, ih]

/-- The text of a member at a depth. -/
def memberAt (member : String × Value String) : List Char :=
  writeString member.1 ++ [':', ' '] ++ writeAt style depth member.2

/-- Further members follow a comma each, on lines of their own. -/
theorem writeMembers_eq_flatMap (members : List (String × Value String)) :
    writeMembers style depth members = (members.map fun member =>
      style.line depth ++ memberAt style depth member).flatMap (',' :: ·) := by
  induction members with
  | nil => rfl
  | cons member members ih => simp [writeMembers, memberAt, ih]

/-- The items of an array that is not empty stand on lines of their own, and so does its bracket. -/
theorem writeAt_array (item : Value String) (items : List (Value String)) :
    writeAt style depth (.array (item :: items)) =
      '[' :: ([','].intercalate ((item :: items).map fun item =>
        style.line (depth + 1) ++ writeAt style (depth + 1) item) ++ style.line depth ++ [']']) := by
  rw [writeAt, List.map_cons, intercalate_cons, ← writeItems_eq_flatMap]

/-- The members of an object that is not empty stand on lines of their own, and so does its brace. -/
theorem writeAt_object (member : String × Value String) (members : List (String × Value String)) :
    writeAt style depth (.object (member :: members)) =
      '{' :: ([','].intercalate ((member :: members).map fun member =>
        style.line (depth + 1) ++ memberAt style (depth + 1) member) ++ style.line depth ++ ['}']) := by
  rw [writeAt, List.map_cons, intercalate_cons, ← writeMembers_eq_flatMap]
  simp [memberAt]

/-- A value at a place in a container stands between texts that do not depend on it, one deeper than the
container. -/
theorem exists_writeAt_fill (slot : Slot) :
    ∃ before after, ∀ value, writeAt style depth (slot.fill value) =
      before ++ writeAt style (depth + 1) value ++ after := by
  -- Where the value comes first it stands behind the bracket, and else behind the parts before it.
  cases slot with
  | item earlier later =>
    cases earlier with
    | nil =>
      refine ⟨'[' :: style.line (depth + 1),
        writeItems style (depth + 1) later ++ style.line depth ++ [']'], fun value => ?_⟩
      simp [Slot.fill, writeAt]
    | cons first earlier =>
      refine ⟨'[' :: (style.line (depth + 1) ++ writeAt style (depth + 1) first ++
          writeItems style (depth + 1) earlier ++ ',' :: style.line (depth + 1)),
        writeItems style (depth + 1) later ++ style.line depth ++ [']'], fun value => ?_⟩
      simp [Slot.fill, writeAt, writeItems_append, writeItems]
  -- A member has its name in front of it, and otherwise it is like an item.
  | member earlier name later =>
    cases earlier with
    | nil =>
      refine ⟨'{' :: (style.line (depth + 1) ++ writeString name ++ [':', ' ']),
        writeMembers style (depth + 1) later ++ style.line depth ++ ['}'], fun value => ?_⟩
      simp [Slot.fill, writeAt]
    | cons first earlier =>
      refine ⟨'{' :: (style.line (depth + 1) ++ memberAt style (depth + 1) first ++
          writeMembers style (depth + 1) earlier ++ ',' :: style.line (depth + 1) ++
            writeString name ++ [':', ' ']),
        writeMembers style (depth + 1) later ++ style.line depth ++ ['}'], fun value => ?_⟩
      simp [Slot.fill, writeAt, writeMembers_append, writeMembers, memberAt]

/-- A value inside of containers stands between texts that do not depend on it, at the depth that is the
number of the containers. -/
theorem exists_writeAt_within (slots : List Slot) :
    ∃ before after, ∀ value, writeAt style depth (value.within slots) =
      before ++ writeAt style (depth + slots.length) value ++ after := by
  -- By induction on the containers, from the innermost one outwards.
  induction slots with
  | nil => exact ⟨[], [], fun value => by simp [Value.within]⟩
  | cons slot slots ih =>
    obtain ⟨before, after, outer⟩ := ih
    obtain ⟨opening, closing, inner⟩ := exists_writeAt_fill style (depth + slots.length) slot
    refine ⟨before ++ opening, closing ++ after, fun value => ?_⟩
    rw [Value.within, outer, inner, List.length_cons, Nat.add_assoc]
    simp

end

/-- A value that has numbers in the form of numbers begins with a character that is no layout. -/
theorem exists_writeAt_cons {style : Style} {value : Value String} (numbered : value.Numbered)
    (depth : Nat) : ∃ c tail, writeAt style depth value = c :: tail ∧ isLayout c = false := by
  -- The first character tells the kind of value, and only that of a number is not fixed.
  match value with
  | .null => exact ⟨_, _, rfl, rfl⟩
  | .bool true => exact ⟨_, _, rfl, rfl⟩
  | .bool false => exact ⟨_, _, rfl, rfl⟩
  | .number [] => exact absurd numbered.1 (by decide)
  | .number (c :: digits) =>
    rw [Value.Numbered] at numbered
    have inside : isTokenChar c = true := by rw [isTokenChar, numbered.2 c (.head _), Bool.true_or]
    exact ⟨c, digits, rfl, (behind_of_isTokenChar inside).1⟩
  | .string text => exact ⟨_, _, rfl, rfl⟩
  | .array [] => exact ⟨_, _, rfl, rfl⟩
  | .array (item :: items) => exact ⟨_, _, rfl, rfl⟩
  | .object [] => exact ⟨_, _, rfl, rfl⟩
  | .object (member :: members) => exact ⟨_, _, rfl, rfl⟩

/-- An integer as it is written. -/
def integer : Int → List Char
  | .ofNat n => Nat.toDigits 10 n
  | .negSucc n => '-' :: Nat.toDigits 10 (n + 1)

/-- Integers are written as numbers, the ones below zero too. -/
theorem isNumeral_integer (n : Int) : IsNumeral (integer n) := by
  match n with
  | .ofNat n => exact isNumeral_toDigits n
  | .negSucc n =>
    -- The digits are those of a number other than zero, which has no zero in front.
    obtain ⟨number, inside⟩ := isNumeral_toDigits (n + 1)
    obtain ⟨c, digits, spelled, other⟩ := toDigits_of_pos n.succ_pos
    have noSign : c ≠ '-' := by
      rintro rfl
      have digit : ('-').isDigit = true :=
        isDigit_of_mem_toDigits (n := n + 1) (spelled ▸ List.mem_cons_self)
      cases digit
    refine ⟨?_, List.forall_mem_cons.2 ⟨rfl, inside⟩⟩
    rw [spelled, isNumber_cons noSign other] at number
    rw [integer, spelled, isNumber]
    · exact number
    · exact other

/-- Nothing but layout is added to the compact text of a value. Whatever containers stand around it, an array
or an object that is not empty has its parts and its closing bracket on lines of their own, which are indented
by their depths and by no more, and an empty one is written as its two brackets. -/
theorem write_adds_layout {style : Style} (indented : style.Indented) :
    (∀ value, value.Numbered → withoutLayout .token (write style value) = compact value) ∧
      (∀ slots, ∃ before after,
        (∀ value, write style (Value.within value slots) =
          before ++ writeAt style slots.length value ++ after) ∧
        (∀ item items, write style ((Value.array (item :: items)).within slots) =
          before ++ '[' :: ([','].intercalate ((item :: items).map fun item =>
            style.line (slots.length + 1) ++ writeAt style (slots.length + 1) item) ++
              style.line slots.length ++ ']' :: after)) ∧
        (∀ member members, write style ((Value.object (member :: members)).within slots) =
          before ++ '{' :: ([','].intercalate ((member :: members).map fun member =>
            style.line (slots.length + 1) ++ memberAt style (slots.length + 1) member) ++
              style.line slots.length ++ '}' :: after)) ∧
        write style ((Value.array []).within slots) = before ++ '[' :: ']' :: after ∧
        write style ((Value.object []).within slots) = before ++ '{' :: '}' :: after) ∧
      ∀ depth, (∀ value, value.Numbered →
          ∃ c tail, writeAt style depth value = c :: tail ∧ isLayout c = false) ∧
        ∀ member, ∃ tail, memberAt style depth member = '"' :: tail := by
  refine ⟨fun value numbered => withoutLayout_write indented numbered, fun slots => ?_,
    fun depth => ⟨fun value numbered => exists_writeAt_cons numbered depth, fun member => ⟨_, rfl⟩⟩⟩
  obtain ⟨before, after, outer⟩ := exists_writeAt_within style 0 slots
  -- The end of the document comes behind whatever stands behind the part.
  have whole (value : Value String) : write style (value.within slots) =
      before ++ writeAt style slots.length value ++ (after ++ style.ending) := by
    rw [write_eq, outer, Nat.zero_add, List.append_assoc]
  refine ⟨before, after ++ style.ending, whole, fun item items => ?_, fun member members => ?_, ?_, ?_⟩
  · rw [whole, writeAt_array]
    simp only [List.append_assoc, List.cons_append, List.nil_append]
  · rw [whole, writeAt_object]
    simp only [List.append_assoc, List.cons_append, List.nil_append]
  · rw [whole, writeAt]
    simp
  · rw [whole, writeAt]
    simp

/-- A container with an empty container as its first part and as its last one. -/
private def emptyParts : Value String := .array [.array [], .number (integer (-9223372036854775808)), .object []]

/-- A place beside an empty container, for a member whose name has a quote and a line feed. -/
private def besideEmpty : List Slot := [.member [] "b: \"\n" [("c", .object [])]]

/-- Lines that end with a carriage return, and are indented by a tab and a space. -/
theorem write_adds_layout_nested :
    (emptyParts.within besideEmpty).Numbered ∧
      withoutLayout .token (write ⟨['\t', ' '], true, false⟩ (emptyParts.within besideEmpty)) =
        "\x7b\"b: \\\"\\n\":[[],-9223372036854775808,\x7b\x7d],\"c\":\x7b\x7d\x7d".toList ∧
      ∃ before after, write ⟨['\t', ' '], true, false⟩ (emptyParts.within besideEmpty) =
        before ++ ("[\r\n\t \t [],\r\n\t \t -9223372036854775808," ++
          "\r\n\t \t \x7b\x7d\r\n\t ]").toList ++ after := by
  have numbered : (emptyParts.within besideEmpty).Numbered :=
    ⟨⟨trivial, isNumeral_integer _, trivial, trivial⟩, trivial, trivial⟩
  have indented : Style.Indented ⟨['\t', ' '], true, false⟩ := by decide
  obtain ⟨removed, placed, -⟩ := write_adds_layout indented
  refine ⟨numbered, (removed _ numbered).trans (by rfl), ?_⟩
  obtain ⟨before, after, -, array, -⟩ := placed besideEmpty
  refine ⟨before, after, (array _ _).trans ?_⟩
  rw [List.append_assoc before]
  exact congrArg (before ++ ·) (by rfl)

end MessageCatalog.Json
