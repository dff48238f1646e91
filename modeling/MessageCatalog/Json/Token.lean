import MessageCatalog.Json.Value

/-! The tokens of a document make up its value; dialects differ in names and in trailing commas. -/

namespace MessageCatalog.Json

/-- A lexical unit. -/
inductive Token (τ : Type) where
  | beginObject
  | endObject
  | beginArray
  | endArray
  | colon
  | comma
  | string (text : τ)
  | number (literal : List Char)
  /-- A word without quotes, as it is written and as a name. -/
  | word (literal : List Char) (name : τ)
  deriving DecidableEq, Repr, Inhabited

/-- What a dialect allows beyond the common form. -/
structure Dialect where
  /-- A comma may stand after the last item or member. -/
  trailingComma : Bool
  /-- A word may be the name of a member. -/
  wordNames : Bool
  /-- The words that are numbers. -/
  wordNumbers : List (List Char)

/-- The plain form of documents. -/
def Dialect.plain : Dialect := ⟨false, false, []⟩

/-- A container of which a part has been read, last item or member first. -/
inductive Frame (τ : Type) where
  | array (items : List (Value τ))
  | object (members : List (τ × Value τ))
  /-- A member whose name has been read. -/
  | member (members : List (τ × Value τ)) (name : τ)

/-- What may come next. -/
inductive Due where
  | value
  /-- The first item of an array, or its end. -/
  | firstItem
  /-- The first member of an object, or its end. -/
  | firstMember
  /-- An item or a member after a comma. -/
  | next
  | colon
  /-- A comma, or the end of the container. -/
  | separator
  deriving DecidableEq, Repr, Inhabited

/-- A document of which a part has been read, with the containers that are open, innermost first. -/
inductive Reading (τ : Type) where
  | inside (due : Due) (frames : List (Frame τ))
  | complete (value : Value τ)

/-- The reading before the first token. -/
def Reading.start {τ : Type} : Reading τ := .inside .value []

/-- A value takes its place in the innermost container, or is the document. -/
def place {τ : Type} (value : Value τ) : List (Frame τ) → Option (Reading τ)
  | [] => some (.complete value)
  | .array items :: frames => some (.inside .separator (.array (value :: items) :: frames))
  | .member members name :: frames =>
    some (.inside .separator (.object ((name, value) :: members) :: frames))
  | .object _ :: _ => none

/-- The value that a word stands for. -/
def wordValue? {τ : Type} (dialect : Dialect) (literal : List Char) : Option (Value τ) :=
  if literal = "null".toList then some .null
  else if literal = "true".toList then some (.bool true)
  else if literal = "false".toList then some (.bool false)
  else if literal ∈ dialect.wordNumbers then some (.number literal)
  else none

/-- A token where a value is due. -/
def beginValue {τ : Type} (dialect : Dialect) (frames : List (Frame τ)) :
    Token τ → Option (Reading τ)
  | .beginObject => some (.inside .firstMember (.object [] :: frames))
  | .beginArray => some (.inside .firstItem (.array [] :: frames))
  | .string text => place (.string text) frames
  | .number literal => place (.number literal) frames
  | .word literal _ => (wordValue? dialect literal).bind fun value => place value frames
  -- Closing signs, commas and colons are no values.
  | _ => none

/-- A token where the name of a member is due. -/
def beginMember {τ : Type} (dialect : Dialect) (frames : List (Frame τ)) (token : Token τ) :
    Option (Reading τ) :=
  match frames, token with
  | .object members :: frames, .string text =>
    some (.inside .colon (.member members text :: frames))
  | .object members :: frames, .word _ name =>
    -- Only one of the dialects has names without quotes.
    if dialect.wordNames then some (.inside .colon (.member members name :: frames)) else none
  | _, _ => none

/-- The end of the innermost container. -/
def endContainer {τ : Type} (frames : List (Frame τ)) (token : Token τ) : Option (Reading τ) :=
  match frames, token with
  | .array items :: frames, .endArray => place (.array items.reverse) frames
  | .object members :: frames, .endObject => place (.object members.reverse) frames
  | _, _ => none

/-- An item or a member, whichever the innermost container holds. -/
def beginPart {τ : Type} (dialect : Dialect) (frames : List (Frame τ)) (token : Token τ) :
    Option (Reading τ) :=
  match frames with
  | .object _ :: _ => beginMember dialect frames token
  | _ => beginValue dialect frames token

/-- The reading after a token. -/
def Reading.add {τ : Type} (dialect : Dialect) (token : Token τ) : Reading τ → Option (Reading τ)
  | .complete _ => none
  | .inside due frames =>
    match due with
    | .value => beginValue dialect frames token
    -- A container may end at once, and after a comma only where the dialect lets it.
    | .firstItem => (endContainer frames token).or (beginValue dialect frames token)
    | .firstMember => (endContainer frames token).or (beginMember dialect frames token)
    | .next =>
      if dialect.trailingComma then
        (endContainer frames token).or (beginPart dialect frames token)
      else beginPart dialect frames token
    | .colon => match token with
      | .colon => some (.inside .value frames)
      | _ => none
    | .separator => match token with
      | .comma => some (.inside .next frames)
      | token => endContainer frames token

/-- The value of a document that ends here. -/
def Reading.value? {τ : Type} : Reading τ → Option (Value τ)
  | .complete value => some value
  | .inside .. => none

/-- A way to write documents: the dialect, what lies between tokens, and the tokens themselves. -/
structure Grammar (τ : Type) extends Dialect where
  /-- The text from the next token on; none when what lies before it is malformed. -/
  skip? : List Char → Option (List Char)
  /-- The token at the start of a text, and the text behind it. -/
  token? : List Char → Option (Token τ × List Char)
  skip_length : ∀ {text rest}, skip? text = some rest → rest.length ≤ text.length
  token_length : ∀ {text token rest}, token? text = some (token, rest) → rest.length < text.length

/-- The value that the tokens of a text make up from a reading on. -/
def Grammar.readFrom? {τ : Type} (grammar : Grammar τ) (reading : Reading τ)
    (text : List Char) : Option (Value τ) :=
  match _skipped : grammar.skip? text with
  | none => none
  -- Behind the last token the reading has to be at an end as well.
  | some [] => reading.value?
  | some (c :: rest) =>
    match _taken : grammar.token? (c :: rest) with
    | none => none
    | some (token, behind) =>
      match reading.add grammar.toDialect token with
      | none => none
      | some reading => grammar.readFrom? reading behind
termination_by text.length
decreasing_by
  -- Blanks take nothing back and a token takes something.
  exact Nat.lt_of_lt_of_le (grammar.token_length _taken) (grammar.skip_length _skipped)

/-- The value of a whole document. -/
def Grammar.read? {τ : Type} (grammar : Grammar τ) (text : List Char) : Option (Value τ) :=
  grammar.readFrom? .start text

end MessageCatalog.Json
