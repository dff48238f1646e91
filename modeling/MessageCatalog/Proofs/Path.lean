import MessageCatalog.Path

/-! What paths lead to is told by their components, and so are the directory that holds it, a path inside
a directory and the part of a path below one. -/

namespace MessageCatalog

/-- There is always a first piece. -/
theorem exists_splitSlashes (text : List Char) :
    ∃ first pieces, splitSlashes text = first :: pieces := by
  cases text with
  | nil => exact ⟨_, _, rfl⟩
  | cons c rest =>
    -- A slash begins a new piece, and any other character joins the first one.
    rw [splitSlashes]
    split
    · exact ⟨_, _, rfl⟩
    · split <;> exact ⟨_, _, rfl⟩

/-- The pieces of two texts with a slash between them are those of both. -/
theorem splitSlashes_append (front behind : List Char) :
    splitSlashes (front ++ '/' :: behind) = splitSlashes front ++ splitSlashes behind := by
  -- By induction on what stands in front: a character joins the first piece, or begins another.
  induction front with
  | nil => rfl
  | cons c front ih =>
    rw [List.cons_append, splitSlashes, splitSlashes, ih]
    obtain ⟨first, pieces, split⟩ := exists_splitSlashes front
    rw [split]
    split <;> rfl

/-- A text without slashes is one piece. -/
theorem splitSlashes_plain {text : List Char} (plain : '/' ∉ text) : splitSlashes text = [text] := by
  induction text with
  | nil => rfl
  | cons c rest ih =>
    rw [List.mem_cons, not_or] at plain
    rw [splitSlashes, if_neg (Ne.symm plain.1), ih plain.2]

/-- Only a text of nothing has nothing but an empty piece. -/
theorem eq_nil_of_splitSlashes {text : List Char} (split : splitSlashes text = [[]]) : text = [] := by
  cases text with
  | nil => rfl
  | cons c rest =>
    obtain ⟨first, pieces, split'⟩ := exists_splitSlashes rest
    rw [splitSlashes, split'] at split
    split at split <;> cases split

/-- The first piece of a text holds no slash; it is the whole text, or stands in front of a slash. -/
theorem splitSlashes_eq_cons {text first : List Char} {pieces : List (List Char)}
    (split : splitSlashes text = first :: pieces) :
    '/' ∉ first ∧ ((text = first ∧ pieces = []) ∨
      ∃ rest, text = first ++ '/' :: rest ∧ pieces = splitSlashes rest) := by
  -- By induction on the text: a slash ends the first piece, and any other character joins it.
  induction text generalizing first with
  | nil =>
    cases split
    exact ⟨nofun, .inl ⟨rfl, rfl⟩⟩
  | cons c rest ih =>
    obtain ⟨next, others, behind⟩ := exists_splitSlashes rest
    rw [splitSlashes] at split
    by_cases slash : c = '/'
    · rw [if_pos slash] at split
      cases split
      exact ⟨nofun, .inr ⟨rest, by rw [slash, List.nil_append], rfl⟩⟩
    · rw [if_neg slash, behind] at split
      cases split
      obtain ⟨plain, spelled⟩ := ih behind
      -- The character in front is no slash, and what was in front of the first slash still is.
      refine ⟨?_, spelled.imp ?_ ?_⟩
      · rw [List.mem_cons, not_or]
        exact ⟨Ne.symm slash, plain⟩
      · rintro ⟨alone, none⟩
        exact ⟨by rw [alone], none⟩
      · rintro ⟨last, spelled, same⟩
        exact ⟨last, by rw [spelled, List.cons_append], same⟩

namespace Path

/-- The components that a first piece spells, alone or with others behind it. -/
def leading (alone : Bool) (piece : List Char) : List Component :=
  if piece = [] then if alone then [] else [.root]
  else if piece = ['.'] then [.current]
  else (innerComponent? piece).toList

/-- A spelling has the components of its first piece and of those behind it. -/
theorem componentsOf_eq {text first : List Char} {pieces : List (List Char)}
    (split : splitSlashes text = first :: pieces) :
    componentsOf text = leading pieces.isEmpty first ++ pieces.filterMap innerComponent? := by
  rw [componentsOf, split, leading]
  -- Only at the front do an empty piece and a dot count; the cases are those of `leading`.
  by_cases empty : first = []
  · subst empty
    rfl
  · rw [if_neg empty]
    by_cases dot : first = ['.']
    · subst dot
      rfl
    · rw [if_neg dot]
      -- Neither of the two special pieces is meant, so the first piece is read like any other.
      split
      · rename_i none
        cases none
      · rename_i same
        cases same
        exact absurd rfl empty
      · rename_i same
        cases same
        exact absurd rfl dot
      · rename_i same
        cases same
        rw [List.filterMap_cons]
        cases innerComponent? first <;> rfl

/-- What stands behind a slash adds the components of its pieces. -/
theorem componentsOf_append {front : List Char} (some : front ≠ []) (behind : List Char) :
    componentsOf (front ++ '/' :: behind) =
      componentsOf front ++ (splitSlashes behind).filterMap innerComponent? := by
  obtain ⟨first, pieces, split⟩ := exists_splitSlashes front
  have both : splitSlashes (front ++ '/' :: behind) = first :: (pieces ++ splitSlashes behind) := by
    rw [splitSlashes_append, split, List.cons_append]
  have same : leading (pieces ++ splitSlashes behind).isEmpty first = leading pieces.isEmpty first := by
    by_cases empty : first = []
    · -- An empty first piece has others behind it, for the text is not empty.
      subst empty
      cases pieces with
      | nil => exact absurd (eq_nil_of_splitSlashes split) some
      | cons => rfl
    · -- A piece that is not empty spells the same wherever it stands.
      rw [leading, leading, if_neg empty, if_neg empty]
  rw [componentsOf_eq split, componentsOf_eq both, same, List.filterMap_append, List.append_assoc]

/-- A slash at the end spells nothing, nor does a dot behind it. -/
theorem componentsOf_trailing {front : List Char} (some : front ≠ []) :
    componentsOf (front ++ ['/']) = componentsOf front ∧
      componentsOf (front ++ ['/', '.']) = componentsOf front := by
  constructor
  all_goals
    rw [componentsOf_append some]
    exact List.append_nil _

/-- What is left without what spells nothing at the end of a reversed spelling: the same components, or
nothing but the root. -/
theorem componentsOf_dropSpelledNothing (reversed : List Char) :
    componentsOf reversed.reverse =
      if dropSpelledNothing reversed = [] then if reversed = [] then [] else [.root]
      else componentsOf (dropSpelledNothing reversed).reverse := by
  -- The cases are those of the function: a slash, a dot behind a slash, and anything else.
  fun_induction dropSpelledNothing reversed with
  | case1 rest ih =>
    -- A slash at the end of a bare root is the root itself.
    by_cases bare : rest = []
    · subst bare
      rfl
    · rw [List.reverse_cons, (componentsOf_trailing (by simpa using bare)).1, ih, if_neg bare,
        if_neg (List.cons_ne_nil _ _)]
  | case2 rest ih =>
    have dotless : componentsOf ('.' :: '/' :: rest).reverse = componentsOf ('/' :: rest).reverse := by
      by_cases bare : rest = []
      · subst bare
        rfl
      · have trailing := componentsOf_trailing (List.reverse_ne_nil_iff.2 bare)
        rw [List.reverse_cons, List.reverse_cons, List.append_assoc, List.singleton_append,
          trailing.2, trailing.1]
    rw [dotless, ih, if_neg (List.cons_ne_nil _ _), if_neg (List.cons_ne_nil _ _)]
  | case3 reversed =>
    by_cases bare : reversed = []
    · subst bare
      rfl
    · rw [if_neg bare]

/-- What is left ends in neither a slash nor a slash with a dot. -/
theorem dropSpelledNothing_ne (reversed rest : List Char) :
    dropSpelledNothing reversed ≠ '/' :: rest ∧ dropSpelledNothing reversed ≠ '.' :: '/' :: rest := by
  fun_induction dropSpelledNothing reversed with
  | case1 _ ih => exact ih
  | case2 _ ih => exact ih
  | case3 reversed slash dot => exact ⟨slash rest, dot rest⟩

/-- A spelling keeps its components without what spells nothing at its end. -/
theorem componentsOf_trimEnd (text : List Char) :
    componentsOf (trimEnd text) = componentsOf text := by
  have dropped := componentsOf_dropSpelledNothing text.reverse
  rw [List.reverse_reverse] at dropped
  rw [dropped, trimEnd]
  -- When nothing is left at all, the text spells the root or nothing.
  split
  · rename_i nothing
    rw [if_pos nothing]
    cases text with
    | nil => rfl
    | cons c rest =>
      rw [if_neg (List.reverse_ne_nil_iff.2 (List.cons_ne_nil c rest))]
      rfl
  · rename_i nothing
    rw [if_neg nothing]

/-- A name spells one component. -/
theorem innerComponent?_eq_some {name : List Char} (some : name ≠ []) (dot : name ≠ ['.']) :
    ∃ component, innerComponent? name = .some component := by
  rw [innerComponent?, if_neg (not_or.2 ⟨some, dot⟩)]
  split <;> exact ⟨_, rfl⟩

/-- The run without a slash at the end of a spelling, and what stands in front of it. -/
theorem exists_lastPiece (reversed : List Char) :
    ∃ name directory, reversed.dropWhile (· != '/') = directory ∧ reversed = name ++ directory ∧
      '/' ∉ name ∧ (directory = [] ∨ ∃ behind, directory = '/' :: behind) := by
  refine ⟨_, _, rfl, List.takeWhile_append_dropWhile.symm, ?_, ?_⟩
  · intro member
    have passes := List.all_eq_true.1 List.all_takeWhile _ member
    simp at passes
  · cases directory : reversed.dropWhile (· != '/') with
    | nil => exact .inl rfl
    | cons c behind =>
      -- The first character that is not taken fails the test, so it is a slash.
      have fails := List.head?_dropWhile_not (· != '/') reversed
      rw [directory] at fails
      obtain rfl : c = '/' := by simpa using fails
      exact .inr ⟨behind, rfl⟩

/-- A spelling without slashes has one component, or none. -/
theorem dropLast_componentsOf_plain {name : List Char} (some : name ≠ []) (plain : '/' ∉ name) :
    (componentsOf name).dropLast = [] := by
  rw [componentsOf_eq (splitSlashes_plain plain), leading, if_neg some, List.filterMap_nil,
    List.append_nil]
  split
  · rfl
  · cases innerComponent? name <;> rfl

/-- A name behind a slash is the last component. -/
theorem dropLast_componentsOf_behind {front name : List Char} (some : name ≠ []) (dot : name ≠ ['.'])
    (plain : '/' ∉ name) :
    (componentsOf (front ++ '/' :: name)).dropLast = componentsOf (front ++ ['/']) := by
  obtain ⟨component, spelled⟩ := innerComponent?_eq_some some dot
  have last : (splitSlashes name).filterMap innerComponent? = [component] := by
    rw [splitSlashes_plain plain, List.filterMap_cons, spelled]
    rfl
  -- With nothing in front of the slash, it spells the root.
  by_cases root : front = []
  · subst root
    have both : splitSlashes ('/' :: name) = [] :: splitSlashes name := rfl
    rw [List.nil_append, List.nil_append, componentsOf_eq both, last, splitSlashes_plain plain]
    rfl
  · rw [(componentsOf_trailing root).1, componentsOf_append root, last, List.dropLast_concat]

/-- In front of the last component of a spelling stands its directory. -/
theorem componentsOf_parentText {reversed : List Char} (some : reversed ≠ [])
    (ends : ∀ rest, reversed ≠ '/' :: rest ∧ reversed ≠ '.' :: '/' :: rest) :
    componentsOf (parentText reversed.reverse) = (componentsOf reversed.reverse).dropLast := by
  obtain ⟨name, directory, dropped, parts, plain, shape⟩ := exists_lastPiece reversed
  have plain' : '/' ∉ name.reverse := by rwa [List.mem_reverse]
  rw [parentText, List.reverse_reverse, dropped]
  subst parts
  obtain rfl | ⟨behind, rfl⟩ := shape
  · -- The whole spelling is one component.
    rw [List.append_nil] at some ⊢
    rw [dropLast_componentsOf_plain (List.reverse_ne_nil_iff.2 some) plain']
    rfl
  · -- In front of the last component stands a slash, with which the directory ends.
    have named : name.reverse ≠ [] := by
      rw [Ne, List.reverse_eq_nil_iff]
      rintro rfl
      exact (ends behind).1 rfl
    have dot : name.reverse ≠ ['.'] := by
      rw [Ne, List.reverse_eq_iff]
      rintro rfl
      exact (ends behind).2 rfl
    rw [List.reverse_append, List.reverse_cons, List.append_assoc, List.singleton_append,
      dropLast_componentsOf_behind named dot plain', if_neg (by simp), componentsOf_trimEnd]

/-- A spelling that is trimmed ends in a component, unless it spells nothing at all or the root. -/
theorem trimEnd_cases (text : List Char) :
    trimEnd text = [] ∨ trimEnd text = ['/'] ∨
      ∃ reversed, trimEnd text = reversed.reverse ∧ reversed ≠ [] ∧
        ∀ rest, reversed ≠ '/' :: rest ∧ reversed ≠ '.' :: '/' :: rest := by
  rw [trimEnd]
  -- Nothing is left, or what is left does not end in what spells nothing.
  split
  · split
    · exact .inl rfl
    · exact .inr (.inl rfl)
  · rename_i some
    exact .inr (.inr ⟨_, rfl, some, dropSpelledNothing_ne _⟩)

/-- The components of the directory that holds what some components lead to. -/
def holding? (components : List Component) : Option (List Component) :=
  match components.getLast? with
  | none => none
  | some .root => none
  | some _ => some components.dropLast

/-- The directory that holds a path has the components of the path but the last one. -/
theorem map_components_parent? (path : Path) :
    path.parent?.map components = holding? path.components := by
  rw [parent?, holding?]
  generalize ends : path.components.getLast? = last?
  split
  · rfl
  · rfl
  · rename_i last other
    -- Something other than the root ends the spelling, also when it is trimmed.
    have trimmed := componentsOf_trimEnd path.text.toList
    rw [components, ← trimmed] at ends
    rw [Option.map_some, components, String.toList_ofList, components, ← trimmed]
    rcases trimEnd_cases path.text.toList with nothing | root | ⟨reversed, spelled, some, plain⟩
    · rw [nothing] at ends
      cases ends
    · rw [root] at ends
      cases ends
      exact absurd rfl other
    · cases last with
      | root => exact absurd rfl other
      | current | parent | name => rw [spelled, componentsOf_parentText some plain]

/-- The components that a text spells behind the first component of a path. -/
def inner (text : List Char) : List Component := (splitSlashes text).filterMap innerComponent?

/-- A text spells the same in front and behind a first component, unless it starts with a slash or with a
dot for the current directory. -/
theorem componentsOf_eq_inner {text : List Char} (slash : ∀ rest, text ≠ '/' :: rest)
    (dot : ∀ rest, text ≠ '.' :: '/' :: rest) (alone : text ≠ ['.']) :
    componentsOf text = inner text := by
  obtain ⟨first, pieces, split⟩ := exists_splitSlashes text
  obtain ⟨-, spelled⟩ := splitSlashes_eq_cons split
  have noDot : first ≠ ['.'] := by
    rintro rfl
    rcases spelled with ⟨same, -⟩ | ⟨rest, same, -⟩
    · exact alone same
    · exact dot rest same
  rw [componentsOf_eq split, inner, split, List.filterMap_cons, leading]
  -- An empty first piece means an empty text, as there is no slash in front.
  by_cases empty : first = []
  · subst empty
    rcases spelled with ⟨-, rfl⟩ | ⟨rest, same, -⟩
    · rfl
    · exact absurd same (slash rest)
  · rw [if_neg empty, if_neg noDot]
    cases innerComponent? first <;> rfl

/-- Paths are the same when their components are. -/
theorem compare_eq_iff {path other : Path} :
    compare path other = .eq ↔ path.components = other.components := by
  show compare path.components other.components = .eq ↔ _
  exact ⟨Std.LawfulEqOrd.eq_of_compare, fun same => same ▸ Std.ReflCmp.compare_self⟩

/-- An absolute path is one whose first component is the root. -/
theorem isAbsolute_iff (path : Path) :
    path.isAbsolute = true ↔ path.components.head? = some .root := by
  obtain ⟨first, pieces, split⟩ := exists_splitSlashes path.text.toList
  obtain ⟨plain, spelled⟩ := splitSlashes_eq_cons split
  rw [isAbsolute, decide_eq_true_iff, components, componentsOf_eq split, leading]
  cases first with
  | nil =>
    -- An empty first piece is that of the empty text, or it stands in front of the root.
    rcases spelled with ⟨text, rfl⟩ | ⟨rest, text, rfl⟩
    · rw [text]
      exact iff_of_false nofun nofun
    · obtain ⟨next, others, behind⟩ := exists_splitSlashes rest
      rw [text, behind]
      exact iff_of_true rfl rfl
  | cons c name =>
    -- The first piece is no slash, and spells something other than the root.
    have starts : path.text.toList.head? = some c := by
      rcases spelled with ⟨text, -⟩ | ⟨rest, text, -⟩ <;> rw [text] <;> rfl
    rw [starts, if_neg (List.cons_ne_nil _ _)]
    refine iff_of_false (fun slash => ?_) ?_
    · cases slash
      exact plain (.head _)
    · split
      · exact nofun
      · rename_i dot
        obtain ⟨component, named⟩ := innerComponent?_eq_some (List.cons_ne_nil c name) dot
        rw [named, Option.toList_some, List.singleton_append, List.head?_cons]
        rintro ⟨rfl⟩
        rw [innerComponent?, if_neg (not_or.2 ⟨List.cons_ne_nil _ _, dot⟩)] at named
        split at named <;> cases named

/-- A path that starts neither at the root nor at the current directory spells the same behind another
one. -/
theorem inner_text {path : Path} (relative : path.isAbsolute = false)
    (plain : path.components.head? ≠ some .current) :
    inner path.text.toList = path.components := by
  -- Neither a slash nor a dot for the current directory stands in front.
  refine (componentsOf_eq_inner (fun rest same => ?_) (fun rest same => plain ?_)
    fun same => plain ?_).symm
  · rw [isAbsolute, same] at relative
    simp at relative
  · rw [components, same]
    obtain ⟨first, pieces, split⟩ := exists_splitSlashes rest
    have both : splitSlashes ('.' :: '/' :: rest) = ['.'] :: splitSlashes rest := rfl
    rw [componentsOf_eq both]
    rfl
  · rw [components, same]
    rfl

/-- A path inside a directory has the components of both. -/
theorem components_join (dir : Path) {path : Path} (relative : path.isAbsolute = false)
    (plain : path.components.head? ≠ some .current) :
    (dir.join path).components = dir.components ++ path.components := by
  rw [join, relative, if_neg Bool.false_ne_true]
  -- Behind a slash, the components of a relative path are those that it has alone.
  have behind (front : List Char) (some : front ≠ []) :
      componentsOf (front ++ '/' :: path.text.toList) = componentsOf front ++ path.components := by
    rw [componentsOf_append some, ← inner_text relative plain]
    rfl
  by_cases empty : dir.text.toList = []
  · have nothing : dir.text = "" := String.toList_eq_nil_iff.1 empty
    rw [isEmpty, nothing]
    simp [components, nothing, componentsOf, splitSlashes]
  · -- A slash is added unless the directory ends in one.
    have spelled : dir.isEmpty = false := by
      simpa [isEmpty, String.isEmpty_iff, String.toList_eq_nil_iff] using empty
    rw [spelled, Bool.false_or]
    by_cases ends : dir.text.toList.getLast? = some '/'
    · -- The directory brings the slash with it.
      rw [decide_eq_true ends, if_pos rfl]
      obtain ⟨front, spelling⟩ := List.getLast?_eq_some_iff.1 ends
      rw [components, components, String.toList_append, spelling, List.append_assoc,
        List.singleton_append]
      by_cases root : front = []
      · subst root
        have both : splitSlashes ('/' :: path.text.toList) = [] :: splitSlashes path.text.toList := rfl
        obtain ⟨first, pieces, split⟩ := exists_splitSlashes path.text.toList
        rw [List.nil_append, List.nil_append, componentsOf_eq both, ← inner_text relative plain, inner,
          split]
        rfl
      · rw [behind front root, (componentsOf_trailing root).1]
    · rw [decide_eq_false ends, if_neg Bool.false_ne_true, components, String.toList_append,
        String.toList_append]
      exact (congrArg componentsOf (by simp)).trans (behind _ empty)

/-- Slashes and dots between components spell none. -/
theorem componentsOf_skipGap (text : List Char) :
    componentsOf (dropComponents.skipGap text) = inner text := by
  -- What is skipped spells nothing behind a component.
  fun_induction dropComponents.skipGap text with
  | case1 rest ih => exact ih
  | case2 rest ih => exact ih
  | case3 => rfl
  | case4 text slash dot alone => exact componentsOf_eq_inner slash dot alone

/-- Behind the root stand the other components of a spelling. -/
theorem inner_behind_root (rest : List Char) : inner rest = (componentsOf ('/' :: rest)).tail := by
  have both : splitSlashes ('/' :: rest) = [] :: splitSlashes rest := rfl
  obtain ⟨next, others, behind⟩ := exists_splitSlashes rest
  rw [componentsOf_eq both, inner, behind]
  rfl

/-- Behind the first component of a spelling, up to the next slash, stand the others. -/
theorem inner_behind_first {text : List Char} (slash : ∀ rest, text ≠ '/' :: rest) :
    inner (text.dropWhile (· != '/')) = (componentsOf text).tail := by
  obtain ⟨first, pieces, split⟩ := exists_splitSlashes text
  obtain ⟨plain, spelled⟩ := splitSlashes_eq_cons split
  have passes : ∀ c ∈ first, (c != '/') = true := by
    intro c member
    rw [bne_iff_ne]
    rintro rfl
    exact plain member
  -- The text up to the first slash is the first piece.
  have behind : inner (text.dropWhile (· != '/')) = pieces.filterMap innerComponent? := by
    rcases spelled with ⟨rfl, rfl⟩ | ⟨rest, rfl, rfl⟩
    · rw [← List.append_nil text, List.dropWhile_append_of_pos passes]
      rfl
    · rw [List.dropWhile_append_of_pos passes]
      rfl
  rw [behind, componentsOf_eq split]
  -- The first piece is one component, as the text does not begin with a slash.
  by_cases empty : first = []
  · subst empty
    rcases spelled with ⟨rfl, rfl⟩ | ⟨rest, same, -⟩
    · rfl
    · exact absurd same (slash rest)
  · rw [leading, if_neg empty]
    by_cases dot : first = ['.']
    · rw [if_pos dot]
      rfl
    · obtain ⟨component, named⟩ := innerComponent?_eq_some empty dot
      rw [if_neg dot, named]
      rfl

/-- Without some components at its front a spelling has the components behind these. -/
theorem componentsOf_dropComponents (count : Nat) (text : List Char) :
    componentsOf (dropComponents count text) = (componentsOf text).drop count := by
  -- By induction on the count; each turn drops the first component and the slash behind it.
  induction count generalizing text with
  | zero => rfl
  | succ count ih =>
    unfold dropComponents
    dsimp only
    rw [ih, componentsOf_skipGap, ← List.drop_tail]
    split
    · rw [inner_behind_root]
    · rename_i slash
      rw [inner_behind_first fun rest same => slash rest same]

/-- A path that lies under a directory, as seen from there, has the components behind those of the
directory. -/
theorem components_relativeTo {dir path : Path} (under : path.isUnder dir = true) :
    (dir.relativeTo path).components = path.components.drop dir.components.length := by
  rw [relativeTo, below?, if_pos under, Option.getD_some, components, String.toList_ofList,
    componentsOf_trimEnd, componentsOf_dropComponents]
  rfl

end Path

end MessageCatalog
