/-! A message is named by its context, its text and its plural text; a key joins the three. -/

namespace MessageCatalog

/-- What a translation call asks for: a text, maybe with a context and a plural. -/
structure Message where
  context : Option String
  text : String
  plural : Option String
  deriving DecidableEq, Repr, Inhabited

/-- The single text that identifies a message. -/
structure Key where
  text : String
  deriving DecidableEq, Repr, Inhabited

/-- Keys are ordered by their characters. -/
instance : Ord Key := ⟨compareOn Key.text⟩

/-- The order of keys is transitive and oriented. -/
instance : Std.TransOrd Key := inferInstanceAs (Std.TransCmp (compareOn Key.text))

/-- Keys that compare equal are equal. -/
instance : Std.LawfulEqOrd Key where
  eq_of_compare {a b} same := by
    have texts : a.text = b.text := Std.LawfulEqOrd.eq_of_compare (a := a.text) same
    cases a; cases b; simp_all

instance : ToString Key := ⟨Key.text⟩

/-- In a key, an ampersand and a colon of a part are written by name. -/
def escapePart (part : List Char) : List Char :=
  part.flatMap fun c =>
    if c = '&' then ['&', 'a', 'm', 'p', ';']
    else if c = ':' then ['&', 'c', 'o', 'l', 'o', 'n', ';']
    else [c]

/-- Colons that are written by name become characters again. -/
def restoreColons : List Char → List Char
  | [] => []
  | '&' :: 'c' :: 'o' :: 'l' :: 'o' :: 'n' :: ';' :: rest => ':' :: restoreColons rest
  | c :: rest => c :: restoreColons rest

/-- Ampersands that are written by name become characters again. -/
def restoreAmpersands : List Char → List Char
  | [] => []
  | '&' :: 'a' :: 'm' :: 'p' :: ';' :: rest => '&' :: restoreAmpersands rest
  | c :: rest => c :: restoreAmpersands rest

/-- The part that an escaped part stands for. -/
def unescapePart (part : List Char) : List Char := restoreAmpersands (restoreColons part)

/-- The pieces between the colons of a text. -/
def splitColons : List Char → List (List Char)
  | [] => [[]]
  | c :: rest =>
    if c = ':' then [] :: splitColons rest
    else match splitColons rest with
      -- There is always a piece, so this case does not arise.
      | [] => [[c]]
      | part :: parts => (c :: part) :: parts

namespace Message

/-- A message is plural when it has a plural text, even an empty one. -/
def isPlural (message : Message) : Bool := message.plural.isSome

/-- The characters of a key: context and text always, the plural only where there is one. -/
def keyChars (message : Message) : List Char :=
  escapePart ((message.context.map String.toList).getD []) ++ ':' ::
    (escapePart message.text.toList ++
      match message.plural with
      | some plural => ':' :: escapePart plural.toList
      | none => [])

/-- The key joins the escaped parts with colons. -/
def key (message : Message) : Key := ⟨String.ofList message.keyChars⟩

/-- An absent part comes before every present one. -/
instance : Ord Message :=
  ⟨compareLex (compareOn Message.context)
    (compareLex (compareOn Message.text) (compareOn Message.plural))⟩

/-- The order of messages is transitive and oriented. -/
instance : Std.TransOrd Message :=
  inferInstanceAs (Std.TransCmp (compareLex (compareOn Message.context)
    (compareLex (compareOn Message.text) (compareOn Message.plural))))

end Message

/-- The message that a key names; an empty context is none, and pieces past the third do not count. -/
def Key.message (key : Key) : Message :=
  let part (chars : List Char) : String := String.ofList (unescapePart chars)
  match splitColons key.text.toList with
  -- A text has at least one piece, so this case does not arise.
  | [] => ⟨none, "", none⟩
  | context :: parts =>
    let context := part context
    ⟨if context.isEmpty then none else some context,
      (parts.head?.map part).getD "", (parts.tail.head?).map part⟩

end MessageCatalog
