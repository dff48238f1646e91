import MessageCatalog.Message.Key

/-! A key tells the parts of its message apart. -/

namespace MessageCatalog

/-- No colon is left in an escaped part. -/
theorem colon_not_mem_escapePart (part : List Char) : ':' ∉ escapePart part := by
  rw [escapePart, List.mem_flatMap]
  rintro ⟨c, -, member⟩
  -- A backslash and a colon are written by other characters, and all else is kept.
  split at member
  · exact absurd member (by decide)
  · split at member
    · exact absurd member (by decide)
    · rename_i other
      exact other (List.mem_singleton.1 member).symm

/-- An escaped part stands for the part. -/
theorem unescapePart_escapePart (part : List Char) : unescapePart (escapePart part) = part := by
  -- Restoring the colons leaves the ampersands that are written by name.
  have colons : restoreColons (escapePart part) =
      part.flatMap fun c => if c = '&' then ['&', 'a', 'm', 'p', ';'] else [c] := by
    induction part with
    | nil => rfl
    -- A colon was escaped and is restored, and an ampersand stays as it was written.
    | cons c part ih =>
      rw [escapePart, List.flatMap_cons, ← escapePart, List.flatMap_cons, ← ih]
      split
      · simp [restoreColons]
      · split
        · rename_i colon
          simp [restoreColons, colon]
        · rename_i plain _
          simp only [List.singleton_append]
          rw [restoreColons]
          simp_all
  -- The ampersands are restored in turn, and nothing else begins like one that is written by name.
  have ampersands (part : List Char) : restoreAmpersands
      (part.flatMap fun c => if c = '&' then ['&', 'a', 'm', 'p', ';'] else [c]) = part := by
    induction part with
    | nil => rfl
    | cons c part ih =>
      rw [List.flatMap_cons]
      split
      · rename_i ampersand
        simp [restoreAmpersands, ih, ampersand]
      · rename_i plain
        simp only [List.singleton_append]
        rw [restoreAmpersands, ih]
        simp_all
  rw [unescapePart, colons, ampersands]

/-- Before the first colon stands the first piece. -/
theorem splitColons_cons {piece : List Char} (plain : ':' ∉ piece) (rest : List Char) :
    splitColons (piece ++ ':' :: rest) = piece :: splitColons rest := by
  induction piece with
  | nil => simp [splitColons]
  | cons c piece ih =>
    rw [List.mem_cons, not_or] at plain
    rw [List.cons_append, splitColons, if_neg (Ne.symm plain.1), ih plain.2]

/-- Without a colon there is one piece. -/
theorem splitColons_single {piece : List Char} (plain : ':' ∉ piece) :
    splitColons piece = [piece] := by
  induction piece with
  | nil => rfl
  | cons c piece ih =>
    rw [List.mem_cons, not_or] at plain
    rw [splitColons, if_neg (Ne.symm plain.1), ih plain.2]

/-- The pieces of a key are the escaped parts of the message; an absent context is an empty one. -/
theorem splitColons_keyChars (message : Message) :
    splitColons message.keyChars =
      escapePart ((message.context.map String.toList).getD []) :: escapePart message.text.toList ::
        (message.plural.map fun plural => escapePart plural.toList).toList := by
  -- No part holds a colon, so the colons are those between the parts.
  rw [Message.keyChars, splitColons_cons (colon_not_mem_escapePart _)]
  cases message.plural with
  | none =>
    rw [List.append_nil, splitColons_single (colon_not_mem_escapePart _)]
    rfl
  | some plural =>
    rw [splitColons_cons (colon_not_mem_escapePart _),
      splitColons_single (colon_not_mem_escapePart _)]
    rfl

/-- An absent context is written as an empty one. -/
theorem toList_context (context : Option String) :
    (context.map String.toList).getD [] = (context.getD "").toList := by
  cases context <;> rfl

/-- Different parts are escaped to different texts. -/
theorem escapePart_inj {part other : List Char} : escapePart part = escapePart other ↔ part = other := by
  constructor
  · intro same
    rw [← unescapePart_escapePart part, same, unescapePart_escapePart]
  · exact congrArg escapePart

/-- Messages have one key when they have the same parts, an absent context being an empty one. -/
theorem key_eq_iff {message other : Message} :
    message.key = other.key ↔
      message.text = other.text ∧ message.plural = other.plural ∧
        message.context.getD "" = other.context.getD "" := by
  constructor
  · -- The key is split into its pieces, each of which is an escaped part.
    intro same
    have chars : message.keyChars = other.keyChars := String.ofList_injective (Key.mk.inj same)
    have pieces := congrArg splitColons chars
    rw [splitColons_keyChars, splitColons_keyChars, List.cons.injEq, List.cons.injEq,
      escapePart_inj, escapePart_inj, toList_context, toList_context] at pieces
    obtain ⟨contexts, texts, plurals⟩ := pieces
    refine ⟨String.toList_injective texts, ?_, String.toList_injective contexts⟩
    cases plural : message.plural <;> cases plural' : other.plural <;>
      simp_all [escapePart_inj, String.toList_inj]
  · -- The parts are all that a key is made of.
    rintro ⟨texts, plurals, contexts⟩
    simp only [Message.key, Message.keyChars, toList_context, texts, plurals, contexts]

/-- Messages with one key have the same text. -/
theorem text_eq_of_key_eq {message other : Message} (same : message.key = other.key) :
    message.text = other.text :=
  (key_eq_iff.1 same).1

/-- The message as a key can tell it: an empty context is none. -/
def Message.withoutEmptyContext (message : Message) : Message :=
  { message with context := message.context.filter fun context => !context.isEmpty }

/-- A key names the message that it was made for, but for an empty context. -/
theorem message_key (message : Message) : message.key.message = message.withoutEmptyContext := by
  have chars : message.key.text.toList = message.keyChars := String.toList_ofList
  unfold Key.message Message.withoutEmptyContext
  rw [chars, splitColons_keyChars]
  obtain ⟨context, text, plural⟩ := message
  cases context <;> cases plural <;> simp [unescapePart_escapePart, Option.filter]

/-- A message without its empty context has the same key. -/
theorem key_withoutEmptyContext (message : Message) :
    message.withoutEmptyContext.key = message.key := by
  refine key_eq_iff.2 ⟨rfl, rfl, ?_⟩
  unfold Message.withoutEmptyContext
  cases message.context with
  | none => rfl
  | some context => by_cases empty : context = "" <;> simp [Option.filter, empty]

/-- Keys are faithful: two messages have one key just when they have the same parts, an absent
context being an empty one; a key names its message again, with no context for an empty one; and the
message that it names has that key. -/
theorem key_eq_iff_and_message_key (message other : Message) :
    (message.key = other.key ↔
      message.text = other.text ∧ message.plural = other.plural ∧
        message.context.getD "" = other.context.getD "") ∧
    message.key.message = message.withoutEmptyContext ∧
    message.key.message.key = message.key := by
  refine ⟨key_eq_iff, message_key message, ?_⟩
  rw [message_key, key_withoutEmptyContext]

end MessageCatalog
