import Mathlib.Data.List.DropRight
import MessageCatalog.Text.Blank
import MessageCatalog.Text.Lines

/-! A text that begins with a line has that line first; trimming a line removes its end as well. -/

namespace MessageCatalog

/-- A line without the carriage return that belongs to its end. -/
def dropReturn (line : List Char) : List Char :=
  match line.reverse with
  | '\r' :: kept => kept.reverse
  | _ => line

/-- What is left of a line was in it. -/
theorem mem_of_mem_dropReturn {line : List Char} {c : Char} (member : c ∈ dropReturn line) :
    c ∈ line := by
  unfold dropReturn at member
  -- What is dropped is a carriage return at the end.
  split at member
  · rename_i kept reversed
    have inside : c ∈ line.reverse := by
      rw [reversed]
      exact .tail _ (List.mem_reverse.1 member)
    exact List.mem_reverse.1 inside
  · exact member

/-- A line feed ends the line that was begun. -/
theorem linesAfter_feed (begun rest : List Char) :
    linesAfter begun ('\n' :: rest) = dropReturn begun.reverse :: linesAfter [] rest := by
  rw [linesAfter.eq_def, dropReturn, List.reverse_reverse]
  dsimp only
  rw [if_pos rfl]
  -- The line that was begun is kept in reverse, so its last character is the first one here.
  cases begun with
  | nil => rfl
  | cons c kept =>
    by_cases same : c = '\r'
    · subst same
      rfl
    · simp [same]

/-- Any other character goes on with it. -/
theorem linesAfter_other {c : Char} (other : c ≠ '\n') (begun rest : List Char) :
    linesAfter begun (c :: rest) = linesAfter (c :: begun) rest := by
  rw [linesAfter.eq_def]
  dsimp only
  rw [if_neg other]

/-- The characters up to a line feed are the rest of the line that was begun. -/
theorem linesAfter_line {line : List Char} (plain : '\n' ∉ line) (begun rest : List Char) :
    linesAfter begun (line ++ '\n' :: rest) =
      dropReturn (begun.reverse ++ line) :: linesAfter [] rest := by
  -- By induction on the line; what was begun of it is kept in reverse.
  induction line generalizing begun with
  | nil => rw [List.nil_append, linesAfter_feed, List.append_nil]
  | cons c line ih =>
    have other : c ≠ '\n' := fun same => plain (same ▸ .head _)
    rw [List.cons_append, linesAfter_other other, ih fun member => plain (.tail _ member),
      List.reverse_cons, List.append_assoc, List.singleton_append]

/-- A text that begins with a line has it first. -/
theorem lines_line {line : List Char} (plain : '\n' ∉ line) (rest : List Char) :
    lines (line ++ '\n' :: rest) = dropReturn line :: lines rest :=
  linesAfter_line plain [] rest

/-- No line holds a line feed. -/
theorem not_mem_of_mem_lines {text line : List Char} (member : line ∈ lines text) :
    '\n' ∉ line := by
  -- The induction needs any begun line, since each character but a line feed is added to it.
  suffices general : ∀ begun, '\n' ∉ begun → line ∈ linesAfter begun text → '\n' ∉ line from
    general [] nofun member
  clear member
  induction text with
  | nil =>
    intro begun plain member
    unfold linesAfter at member
    split at member
    · cases member
    · rw [List.mem_singleton.1 member, List.mem_reverse]
      exact plain
  -- A line feed ends the line that was begun, and any other character goes on with it.
  | cons c rest ih =>
    intro begun plain member
    by_cases feed : c = '\n'
    · rw [feed, linesAfter_feed] at member
      rcases List.mem_cons.1 member with rfl | later
      · exact fun inside => plain (List.mem_reverse.1 (mem_of_mem_dropReturn inside))
      · exact ih [] nofun later
    · rw [linesAfter_other feed] at member
      refine ih (c :: begun) ?_ member
      rintro (- | ⟨-, inside⟩)
      · exact feed rfl
      · exact plain inside

/-- A digit is no blank. -/
theorem isBlank_of_isDigit {c : Char} (digit : c.isDigit = true) : isBlank c = false := by
  simp only [Char.isDigit, ge_iff_le, Bool.and_eq_true, decide_eq_true_eq] at digit
  have lower : 0x30 ≤ c.toNat := digit.1
  have upper : c.toNat ≤ 0x39 := digit.2
  have noSpace : c ≠ ' ' := by
    rintro rfl
    exact absurd lower (by decide)
  -- Among the characters of ASCII the blanks come before the digits.
  rw [isBlank, if_pos (by omega), decide_eq_false (by omega : ¬ c.toNat ≤ 0x0D)]
  simp [noSpace]

/-- Blanks at the end are dropped. -/
theorem trimEnd_append {text blanks : List Char} (blank : ∀ c ∈ blanks, isBlank c = true) :
    trimEnd (text ++ blanks) = trimEnd text := by
  have front : ∀ c ∈ blanks.reverse, isBlank c = true := fun c member =>
    blank c (List.mem_reverse.1 member)
  rw [trimEnd, trimEnd, List.reverse_append, List.dropWhile_append_of_pos front]

/-- A text that begins with another character keeps its start. -/
theorem trimStart_cons {c : Char} (visible : isBlank c = false) (text : List Char) :
    trimStart (c :: text) = c :: text := by
  rw [trimStart, List.dropWhile_cons, if_neg (by simp [visible])]

/-- A text that ends in another character keeps its end. -/
theorem trimEnd_append_singleton {c : Char} (visible : isBlank c = false) (text : List Char) :
    trimEnd (text ++ [c]) = text ++ [c] := by
  rw [trimEnd, List.reverse_append, List.reverse_singleton, List.singleton_append,
    List.dropWhile_cons, if_neg (by simp [visible]), List.reverse_cons, List.reverse_reverse]

/-- What is in front of another character is kept. -/
theorem trimEnd_cons {c : Char} (visible : isBlank c = false) (text : List Char) :
    trimEnd (c :: text) = c :: trimEnd text := by
  -- The first character is no blank, so nothing in front of it is dropped.
  have kept : (text.reverse ++ [c]).dropWhile isBlank = text.reverse.dropWhile isBlank ++ [c] := by
    rw [List.dropWhile_append]
    split
    · rename_i none
      rw [List.isEmpty_iff.1 none]
      simp [visible]
    · rfl
  rw [trimEnd, trimEnd, List.reverse_cons, kept, List.reverse_append, List.reverse_singleton,
    List.singleton_append]

/-- Only a blank in front of blanks is dropped with them. -/
theorem trimEnd_cons_eq (c : Char) (text : List Char) :
    trimEnd (c :: text) = if trimEnd text = [] ∧ isBlank c = true then [] else c :: trimEnd text := by
  rw [trimEnd, trimEnd, List.reverse_cons, List.dropWhile_append]
  by_cases none : text.reverse.dropWhile isBlank = []
  · by_cases blank : isBlank c = true <;> simp [none, blank]
  · simp [none, List.isEmpty_iff]

/-- The rest of a text that keeps its end keeps it too. -/
theorem trimEnd_tail {c : Char} {text : List Char} (kept : trimEnd (c :: text) = c :: text) :
    trimEnd text = text := by
  rw [trimEnd_cons_eq] at kept
  split at kept
  · cases kept
  · exact List.tail_eq_of_cons_eq kept

/-- It does not matter which end is trimmed first. -/
theorem trim_eq (text : List Char) : trim text = trimStart (trimEnd text) := by
  -- By induction on the text: a blank at its start is dropped by both, unless nothing else is left.
  induction text with
  | nil => rfl
  | cons c text ih =>
    by_cases blank : isBlank c = true
    · have start : trimStart (c :: text) = trimStart text := by
        rw [trimStart, List.dropWhile_cons, if_pos blank, ← trimStart]
      rw [trim, start, ← trim, ih, trimEnd_cons_eq]
      by_cases none : trimEnd text = []
      · rw [if_pos ⟨none, blank⟩, none]
      · rw [if_neg fun both => none both.1, trimStart, trimStart, List.dropWhile_cons, if_pos blank]
    · have visible : isBlank c = false := by simpa using blank
      rw [trim, trimStart_cons visible, trimEnd_cons visible, trimStart_cons visible]

/-- A trimmed text begins with no blank. -/
theorem isBlank_of_trim {text tail : List Char} {c : Char} (spelled : trim text = c :: tail) :
    isBlank c = false := by
  rw [trim_eq, trimStart] at spelled
  have first := List.head?_dropWhile_not isBlank (trimEnd text)
  rw [spelled] at first
  exact first

/-- Trimming adds no character. -/
theorem mem_of_mem_trim {text : List Char} {c : Char} (member : c ∈ trim text) : c ∈ text := by
  rw [trim, trimEnd, trimStart, List.mem_reverse] at member
  have inside := List.mem_reverse.1 ((List.dropWhile_sublist _).subset member)
  exact (List.dropWhile_sublist _).subset inside

/-- Trimming an end twice changes nothing more. -/
theorem trimEnd_trimEnd (text : List Char) : trimEnd (trimEnd text) = trimEnd text := by
  -- By induction on the text: a character goes when it is a blank and nothing is left behind it.
  induction text with
  | nil => rfl
  | cons c text ih =>
    rw [trimEnd_cons_eq]
    split
    · rfl
    · rename_i kept
      rw [trimEnd_cons_eq, ih, if_neg kept]

/-- Trimming a start twice changes nothing more. -/
theorem trimStart_trimStart (text : List Char) : trimStart (trimStart text) = trimStart text :=
  List.dropWhile_idempotent isBlank text

/-- Trimming twice changes nothing more. -/
theorem trim_trim (text : List Char) : trim (trim text) = trim text := by
  -- The end is trimmed already, and then the start is.
  have ended : trimEnd (trim text) = trim text := by rw [trim, trimEnd_trimEnd]
  rw [trim_eq (trim text), ended, trim_eq, trimStart_trimStart]

/-- A text is the same trimmed after its end was trimmed behind a blank. -/
theorem trim_trimEnd_blank {c : Char} (blank : isBlank c = true) (text : List Char) :
    trim (trimEnd (c :: text)) = trim text := by
  rw [trim_eq, trimEnd_trimEnd, ← trim_eq, trim, trimStart, List.dropWhile_cons, if_pos blank,
    ← trimStart, ← trim]

/-- Trimming a line removes the carriage return of its end, which is a blank. -/
theorem trim_dropReturn (line : List Char) : trim (dropReturn line) = trim line := by
  -- A carriage return that is dropped is the last character of the line.
  unfold dropReturn
  split
  · rename_i kept reversed
    have spelled : line = kept.reverse ++ ['\r'] := by
      rw [← List.reverse_reverse line, reversed, List.reverse_cons]
    rw [spelled, trim, trim, trimStart, trimStart, List.dropWhile_append]
    split
    · rename_i none
      rw [List.isEmpty_iff.1 none]
      decide
    · exact (trimEnd_append (List.all_eq_true.1 rfl)).symm
  · rfl

end MessageCatalog
