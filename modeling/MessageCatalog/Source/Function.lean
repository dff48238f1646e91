import MessageCatalog.Text.Identifier

/-! Translation functions come in families of four, and a call names one as a whole identifier. -/

namespace MessageCatalog.Source

/-- A translation function and the arguments that it takes beside the text. -/
structure Function where
  name : List Char
  contextual : Bool
  plural : Bool
  deriving DecidableEq, Repr, Inhabited

/-- The number of bytes that characters take in UTF-8. -/
def byteLength : List Char → Nat
  | [] => 0
  | c :: rest => c.utf8Size + byteLength rest

namespace Function

/-- The family of a base name; an empty name has none. -/
def family (base : List Char) : List Function :=
  if base.isEmpty then []
  else [⟨base, false, false⟩, ⟨base ++ ['p'], true, false⟩, ⟨base ++ ['n'], false, true⟩,
    ⟨base ++ ['n', 'p'], true, true⟩]

/-- A longer name goes before a shorter one, and equally long ones go by their characters. -/
def goesBefore (a b : Function) : Bool :=
  ((compare (byteLength b.name) (byteLength a.name)).then (compare a.name b.name)).isLE

/-- Of neighbours with one name the first is kept. -/
def dropRepeated : List Function → List Function
  | [] => []
  | [f] => [f]
  | f :: g :: rest =>
    if f.name = g.name then dropRepeated (f :: rest) else f :: dropRepeated (g :: rest)

/-- The functions of base names in the order in which they are tried; of two that share a name the
one of the earlier base counts. -/
def ofBases (bases : List String) : List Function :=
  dropRepeated ((bases.flatMap fun base => family base.toList).mergeSort goesBefore)

/-- The function whose name stands as a whole identifier between the given characters. -/
def named? (functions : List Function) (before : Option Char) (rest : List Char) :
    Option Function :=
  -- Longer names come first, so the first fit is the longest one.
  if before.any isIdentifierChar then none
  else functions.find? fun f =>
    f.name.isPrefixOf rest && !(rest.drop f.name.length).head?.any isIdentifierChar

end Function

end MessageCatalog.Source
