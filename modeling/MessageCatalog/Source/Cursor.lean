import MessageCatalog.Source.Context

/-! A cursor is a point of a source text; a scanner state adds the contexts open there. -/

namespace MessageCatalog.Source

/-- The bytes and the line feeds before a point. -/
structure Position where
  offset : Nat
  line : Nat
  deriving DecidableEq, Repr, Inhabited

/-- The position after a character. -/
def Position.past (position : Position) (c : Char) : Position where
  offset := position.offset + c.utf8Size
  line := if c = '\n' then position.line + 1 else position.line

/-- A point of a text: the character before it, the text after it and its position. -/
structure Cursor where
  before : Option Char
  rest : List Char
  position : Position
  deriving DecidableEq, Repr, Inhabited

namespace Cursor

/-- The start of a text. -/
def start (text : List Char) : Cursor := ⟨none, text, ⟨0, 0⟩⟩

/-- Moving over the next character; the end stays where it is. -/
def next (cursor : Cursor) : Cursor :=
  match cursor.rest with
  | [] => cursor
  | c :: rest => ⟨some c, rest, cursor.position.past c⟩

/-- Moving over a number of characters. -/
def advance : Nat → Cursor → Cursor
  | 0, cursor => cursor
  | n + 1, cursor => advance n cursor.next

/-- The point at a byte offset, when a character begins or the text ends there. -/
def seek (offset : Nat) (cursor : Cursor) : Option Cursor :=
  if cursor.position.offset = offset then some cursor
  else match cursor with
    | ⟨_, [], _⟩ => none
    | ⟨_, c :: rest, position⟩ => seek offset ⟨some c, rest, position.past c⟩
termination_by cursor.rest.length

/-- The point of a text at a byte offset; at any other offset the text counts as ended. -/
def ofPosition (text : List Char) (position : Position) : Cursor :=
  match (start text).seek position.offset with
  | some cursor => { cursor with position }
  | none => ⟨none, [], position⟩

/-- The text between two points, the first of which comes no later. -/
def textTo (first last : Cursor) : List Char :=
  first.rest.take (first.rest.length - last.rest.length)

/-- Every move shortens the text that is left. -/
theorem advance_rest (n : Nat) (cursor : Cursor) :
    (cursor.advance n).rest = cursor.rest.drop n := by
  -- One move drops one character, and at the end there is none to drop.
  induction n generalizing cursor with
  | zero => rfl
  | succ n ih =>
    rw [advance, ih]
    obtain ⟨before, rest, position⟩ := cursor
    cases rest <;> simp [next]

end Cursor

/-- A point with the contexts open there, innermost first; none is top-level code. -/
structure State where
  cursor : Cursor
  stack : List Context
  deriving DecidableEq, Repr, Inhabited

namespace State

/-- The state before the first step. -/
def start (text : List Char) : State := ⟨.start text, []⟩

/-- The text that is left. -/
def rest (state : State) : List Char := state.cursor.rest

/-- The position of a state. -/
def position (state : State) : Position := state.cursor.position

/-- The innermost open context. -/
def top (state : State) : Option Context := state.stack.head?

/-- The number of open contexts. -/
def depth (state : State) : Nat := state.stack.length

/-- No call begins inside a literal or a comment. -/
def isHidden (state : State) : Bool := state.top.any Context.hidesCode

/-- Moving over characters leaves the contexts as they are. -/
def advance (n : Nat) (state : State) : State := { state with cursor := state.cursor.advance n }

/-- Entering a context moves over its opening. -/
def enter (state : State) (context : Context) : State :=
  ⟨state.cursor.advance context.opening.length, context :: state.stack⟩

/-- Leaving a context moves over its closing. -/
def leave (state : State) (context : Context) : State :=
  ⟨state.cursor.advance context.closing.length, state.stack.tail⟩

end State

end MessageCatalog.Source
