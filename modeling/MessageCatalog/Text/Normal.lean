import MessageCatalog.Text.Composition

/-! Composed normal form: equivalent spellings of a text share one sequence of characters. -/

namespace MessageCatalog

/-- The class in ascending ranges, and zero for a character in none of them. -/
def classIn : List (Nat × Nat × Nat) → Nat → Nat
  | [], _ => 0
  | (first, last, mark) :: ranges, code =>
    if code < first then 0
    else if code ≤ last then mark
    else classIn ranges code

/-- The canonical combining class is zero for a starter and positive for a combining mark. -/
def combiningClass (c : Char) : Nat :=
  classIn combiningRanges c.toNat

/-- The ideograph that a compatibility ideograph stands for. -/
def ideographIn : List (Nat × List Nat) → Nat → Option Nat
  | [], _ => none
  | (first, targets) :: runs, code =>
    if code < first then none
    else match targets[code - first]? with
      | some target => some target
      | none => ideographIn runs code

/-- A Hangul syllable is counted by its leading consonant, vowel and trailing consonant. -/
def hangulParts (code : Nat) : Option (Nat × Nat) :=
  if 0xAC00 ≤ code ∧ code ≤ 0xD7A3 then
    let index := code - 0xAC00
    if index % 28 = 0 then some (0x1100 + index / 588, 0x1161 + index % 588 / 28)
    else some (code - index % 28, 0x11A7 + index % 28)
  else none

/-- Two adjacent Hangul parts join when they are a consonant with a vowel, or an open syllable
with a trailing consonant. -/
def hangulComposite (first second : Nat) : Option Nat :=
  if 0x1100 ≤ first ∧ first ≤ 0x1112 ∧ 0x1161 ≤ second ∧ second ≤ 0x1175 then
    some (0xAC00 + ((first - 0x1100) * 21 + (second - 0x1161)) * 28)
  else if 0xAC00 ≤ first ∧ first ≤ 0xD7A3 ∧ (first - 0xAC00) % 28 = 0 ∧
      0x11A8 ≤ second ∧ second ≤ 0x11C2 then
    some (first + (second - 0x11A7))
  else none

/-- The pair that a table of composites gives for a character. -/
def pairIn (table : List (Nat × Nat × Nat)) (code : Nat) : Option (Nat × Nat) :=
  (table.find? fun entry => entry.1 == code).map (·.2)

/-- One step of canonical decomposition; an alias has one part, and all others have two. -/
def canonicalParts (code : Nat) : Option (Nat × Option Nat) :=
  if code < 0xC0 then none
  else
    let pair := (hangulParts code).or ((pairIn compositePairs code).or (pairIn splitPairs code))
    match pair with
    | some (first, second) => some (first, some second)
    | none =>
      let target := ((aliasPairs.find? fun entry => entry.1 == code).map (·.2)).or
        (ideographIn ideographRuns code)
      target.map fun first => (first, none)

/-- Only the first part of a decomposition splits again, at most as often as `depth` allows. -/
def decomposeTo : Nat → Nat → List Nat
  | 0, code => [code]
  | depth + 1, code =>
    match canonicalParts code with
    | none => [code]
    | some (first, second) => decomposeTo depth first ++ second.toList

/-- The canonical decomposition of a character; no chain in the tables is longer than four. -/
def decomposition (c : Char) : List Char :=
  (decomposeTo 4 c.toNat).map Char.ofNat

/-- A mark moves in front of the marks of a higher or equal class, and never past a starter. -/
def placeMark (c : Char) : List Char → List Char
  | [] => [c]
  | d :: rest =>
    if combiningClass d ≠ 0 ∧ combiningClass d < combiningClass c then d :: placeMark c rest
    else c :: d :: rest

/-- Canonical order sorts each run of marks by class and keeps marks of one class in order. -/
def canonicalOrder (text : List Char) : List Char :=
  text.foldr placeMark []

/-- The composite that a starter forms with a following character. -/
def compositeOf (first second : Char) : Option Char :=
  ((hangulComposite first.toNat second.toNat).or
    ((compositePairs.find? fun entry =>
      entry.2.1 == first.toNat && entry.2.2 == second.toNat).map (·.1))).map Char.ofNat

/-- A mark is kept from its starter when the mark before it has its class or a higher one. -/
def blockedBy (marks : List Char) (c : Char) : Bool :=
  match marks with
  | [] => false
  | mark :: _ => decide (combiningClass c ≤ combiningClass mark)

/-- Composition after a starter, whose uncomposed marks are held with the last one first. -/
def composeAfter (starter : Char) (marks : List Char) : List Char → List Char
  | [] => starter :: marks.reverse
  | c :: rest =>
    match if blockedBy marks c then none else compositeOf starter c with
    | some composite => composeAfter composite marks rest
    | none =>
      -- Another starter begins anew; a mark that does not compose stays with the others.
      if combiningClass c = 0 then starter :: marks.reverse ++ composeAfter c [] rest
      else composeAfter starter (c :: marks) rest

/-- Marks before the first starter stay as they are. -/
def composed : List Char → List Char
  | [] => []
  | c :: rest =>
    if combiningClass c = 0 then composeAfter c [] rest
    else c :: composed rest

/-- Normalization form C; characters below U+0300 are composed already and combine with nothing. -/
def composedForm (text : List Char) : List Char :=
  if text.all fun c => decide (c.toNat < 0x300) then text
  else composed (canonicalOrder (text.flatMap decomposition))

end MessageCatalog
