/-! A path is kept as it is spelled and compared by its components. -/

namespace MessageCatalog

/-- One step of a path. -/
inductive Component where
  | root
  | current
  | parent
  | name (text : String)
  deriving DecidableEq, Repr, Inhabited

namespace Component

/-- The place of a kind of component in the order of components. -/
def rank : Component → Nat
  | root => 0
  | current => 1
  | parent => 2
  | name _ => 3

/-- A component as it is spelled. -/
def text : Component → String
  | root => "/"
  | current => "."
  | parent => ".."
  | name text => text

/-- Components are ordered by kind, and names by their characters. -/
instance : Ord Component := ⟨compareLex (compareOn rank) (compareOn text)⟩

/-- The order of components is transitive and oriented. -/
instance : Std.TransOrd Component :=
  inferInstanceAs (Std.TransCmp (compareLex (compareOn rank) (compareOn text)))

/-- Components that compare equal are equal. -/
instance : Std.LawfulEqOrd Component where
  eq_of_compare {a b} same := by
    -- Both parts of the order have to agree, and together they leave no choice.
    have both : (compare a.rank b.rank).then (compare a.text b.text) = .eq := same
    rw [Ordering.then_eq_eq] at both
    have rank := Std.LawfulEqOrd.eq_of_compare both.1
    have text := Std.LawfulEqOrd.eq_of_compare both.2
    cases a <;> cases b <;> simp_all [Component.rank, Component.text]

end Component

/-- The pieces of a text between its slashes. -/
def splitSlashes : List Char → List (List Char)
  | [] => [[]]
  | c :: rest =>
    if c = '/' then [] :: splitSlashes rest
    else match splitSlashes rest with
      -- There is always a piece, so this case does not arise.
      | [] => [[c]]
      | piece :: pieces => (c :: piece) :: pieces

/-- The component that a piece after the first one spells; an empty piece and a dot spell none. -/
def innerComponent? (piece : List Char) : Option Component :=
  if piece = [] ∨ piece = ['.'] then none
  else if piece = ['.', '.'] then some .parent
  else some (.name (String.ofList piece))

/-- A path, which names a file or a directory. -/
structure Path where
  text : String
  deriving DecidableEq, Repr, Inhabited

namespace Path

instance : ToString Path := ⟨Path.text⟩

/-- The components of a spelling. A slash at the start is the root, and a dot counts there only. -/
def componentsOf (text : List Char) : List Component :=
  match splitSlashes text with
  | [] => []
  -- An empty first piece with others behind it is the slash of the root.
  | [] :: pieces => (if pieces.isEmpty then [] else [.root]) ++ pieces.filterMap innerComponent?
  | ['.'] :: pieces => .current :: pieces.filterMap innerComponent?
  | first :: pieces => (first :: pieces).filterMap innerComponent?

/-- The components of a path. -/
def components (path : Path) : List Component := componentsOf path.text.toList

/-- Paths with the same components are one path, and the order is that of the components. -/
instance : Ord Path := ⟨compareOn components⟩

/-- The order of paths is transitive and oriented. -/
instance : Std.TransOrd Path := inferInstanceAs (Std.TransCmp (compareOn components))

/-- Two spellings name the same path when their components agree. -/
def same (a b : Path) : Bool := a.components == b.components

/-- A path lies under another one when it starts with its components. -/
def isUnder (path dir : Path) : Bool := dir.components.isPrefixOf path.components

/-- A path is empty when nothing is spelled. -/
def isEmpty (path : Path) : Bool := path.text.isEmpty

/-- A path that starts at the root. -/
def isAbsolute (path : Path) : Bool := path.text.toList.head? = some '/'

/-- Slashes at the end of a reversed spelling, and dots between them, spell no component. -/
def dropSpelledNothing : List Char → List Char
  | '/' :: rest => dropSpelledNothing rest
  | '.' :: '/' :: rest => dropSpelledNothing ('/' :: rest)
  | reversed => reversed

/-- A spelling without what stands for nothing at its end; the root keeps its slash. -/
def trimEnd (text : List Char) : List Char :=
  match dropSpelledNothing text.reverse with
  | [] => if text.isEmpty then [] else ['/']
  | reversed => reversed.reverse

/-- The spelling of the directory that holds what a spelling names, for a spelling that ends in a
component. -/
def parentText (text : List Char) : List Char :=
  let directory := (text.reverse.dropWhile (· != '/')).reverse
  if directory.isEmpty then [] else trimEnd directory

/-- The directory that holds a path: its spelling without the last component. The root and the empty
path have none. -/
def parent? (path : Path) : Option Path :=
  match path.components.getLast? with
  | none => none
  | some .root => none
  | some _ => some ⟨String.ofList (parentText (trimEnd path.text.toList))⟩

/-- A path inside a directory; an absolute one is taken as it is. -/
def join (dir : Path) (path : Path) : Path :=
  if path.isAbsolute then path
  else if dir.isEmpty || dir.text.toList.getLast? = some '/' then ⟨dir.text ++ path.text⟩
  else ⟨dir.text ++ "/" ++ path.text⟩

/-- A name inside a directory. -/
instance : HDiv Path String Path := ⟨fun dir name => dir.join ⟨name⟩⟩

/-- Components joined one after the other. -/
def ofComponents (components : List Component) : Path :=
  components.foldl (fun path component => path.join ⟨component.text⟩) ⟨""⟩

/-- The spelling behind a number of components, with the slashes and dots in front of it removed.
A spelling from which nothing is taken stays as it is. -/
def dropComponents : Nat → List Char → List Char
  | 0, text => text
  | n + 1, text =>
    -- The root is a component, and the slash is all there is of it.
    let behind := match text with
      | '/' :: rest => rest
      | text => text.dropWhile (· != '/')
    dropComponents n (skipGap behind)
where
  /-- Slashes and dots between components spell none. -/
  skipGap : List Char → List Char
    | '/' :: rest => skipGap rest
    | '.' :: '/' :: rest => skipGap ('/' :: rest)
    | ['.'] => []
    | text => text

/-- The part of a path below a directory that it lies under. -/
def below? (path dir : Path) : Option Path :=
  if path.isUnder dir then
    some ⟨String.ofList (trimEnd (dropComponents dir.components.length path.text.toList))⟩
  else none

/-- A path as seen from a directory; one that does not lie under it stays as it is. -/
def relativeTo (dir path : Path) : Path := (path.below? dir).getD path

/-- The name of the file that a path ends in. -/
def fileName? (path : Path) : Option String :=
  match path.components.getLast? with
  | some (.name text) => some text
  | _ => none

/-- The part of a file name after its last dot, unless that dot comes first or there is none. -/
def extension? (path : Path) : Option String :=
  match path.fileName? with
  | none => none
  | some name =>
    match (name.toList.reverse.dropWhile (· != '.')) with
    | [] => none
    -- A name whose last dot comes first is that of a hidden file, and has no extension.
    | [_] => none
    | _ => some (String.ofList (name.toList.reverse.takeWhile (· != '.')).reverse)

/-- Every directory on the way to a path, and the path itself. -/
def ancestors (path : Path) : List Path :=
  (List.range path.components.length).map fun n => ofComponents (path.components.take (n + 1))

end Path

end MessageCatalog
