import MessageCatalog.Proofs.Path

/-! Components of a path can be spelled again, and a spelling has the components of each directory that it
begins with. -/

namespace MessageCatalog

/-- A component that is spelled behind others: the parent directory or a name. -/
structure Component.Inner (component : Component) : Prop where
  plain : '/' ∉ component.text.toList
  spelled : innerComponent? component.text.toList = some component

/-- Components as a spelling has them: only the first one can be the root or the current directory. -/
def Spellable : List Component → Prop
  | [] => True
  | first :: others =>
    (first = .root ∨ first = .current ∨ first.Inner) ∧ ∀ component ∈ others, component.Inner

/-- The first ones of components that can be spelled can be spelled. -/
theorem Spellable.of_isPrefix {front components : List Component} (spellable : Spellable components)
    (begins : front <+: components) : Spellable front := by
  obtain ⟨behind, rfl⟩ := begins
  cases front with
  | nil => trivial
  | cons first others =>
    exact ⟨spellable.1, fun component member => spellable.2 component (List.mem_append_left _ member)⟩

/-- A piece without slashes spells a component for which it stands. -/
theorem Component.Inner.of_innerComponent? {piece : List Char} (plain : '/' ∉ piece)
    {component : Component} (spelled : innerComponent? piece = some component) :
    component.Inner ∧ component.text.toList = piece := by
  have same : component.text.toList = piece := by
    rw [innerComponent?] at spelled
    -- A piece spells nothing, the directory above, or a name.
    split at spelled
    · cases spelled
    · split at spelled
      · rename_i parent
        cases spelled
        exact parent.symm
      · cases spelled
        exact String.toList_ofList
  exact ⟨⟨same ▸ plain, by rw [same, spelled]⟩, same⟩

/-- The characters of a piece are those of the text, but for slashes. -/
theorem mem_of_mem_splitSlashes {text piece : List Char} (member : piece ∈ splitSlashes text) :
    '/' ∉ piece ∧ ∀ c ∈ piece, c ∈ text := by
  -- By induction on the text; a slash begins a new piece, and no piece has it.
  induction text generalizing piece with
  | nil =>
    rw [List.mem_singleton.1 member]
    exact ⟨nofun, nofun⟩
  | cons d rest ih =>
    obtain ⟨first, pieces, split⟩ := exists_splitSlashes rest
    rw [splitSlashes, split] at member
    rw [split] at ih
    have kept {piece : List Char} (member : piece ∈ first :: pieces) :
        '/' ∉ piece ∧ ∀ c ∈ piece, c ∈ d :: rest :=
      ⟨(ih member).1, fun c inside => .tail _ ((ih member).2 c inside)⟩
    -- In front of a slash the first piece is empty.
    split at member
    · rcases List.mem_cons.1 member with rfl | later
      · exact ⟨nofun, nofun⟩
      · exact kept later
    · -- The first piece goes on to the left, and the other ones stay.
      rename_i other
      rcases List.mem_cons.1 member with rfl | later
      · obtain ⟨plain, inside⟩ := kept (.head pieces)
        refine ⟨?_, List.forall_mem_cons.2 ⟨.head rest, inside⟩⟩
        rw [List.mem_cons, not_or]
        exact ⟨Ne.symm other, plain⟩
      · exact kept (.tail _ later)

namespace Path

/-- A component that is spelled behind others is a relative path by itself. -/
theorem components_text {component : Component} (inner : component.Inner) :
    (Path.mk component.text).components = [component] := by
  -- The text of a component spells it, so it is neither empty nor a dot.
  have some : component.text.toList ≠ [] := by
    intro empty
    have spelled := inner.spelled
    rw [empty] at spelled
    cases spelled
  have dot : component.text.toList ≠ ['.'] := by
    intro dot
    have spelled := inner.spelled
    rw [dot] at spelled
    cases spelled
  rw [components, componentsOf_eq (splitSlashes_plain inner.plain), leading, if_neg some, if_neg dot,
    inner.spelled]
  rfl

/-- A further component is joined to the others. -/
theorem components_join_text (dir : Path) {component : Component} (inner : component.Inner) :
    (dir.join ⟨component.text⟩).components = dir.components ++ [component] := by
  have alone := components_text inner
  have relative : (Path.mk component.text).isAbsolute = false := by
    refine Bool.eq_false_iff.2 fun absolute => ?_
    rw [isAbsolute_iff, alone] at absolute
    cases absolute
    exact absurd inner.plain (by decide)
  rw [components_join dir relative, alone]
  -- A dot for the current directory is no such component.
  rw [alone]
  rintro ⟨rfl⟩
  exact absurd inner.spelled (by decide)

/-- Further components are joined to the others one after the other. -/
theorem components_foldl_join (dir : Path) {components : List Component}
    (inner : ∀ component ∈ components, component.Inner) :
    (components.foldl (fun path component => path.join ⟨component.text⟩) dir).components =
      dir.components ++ components := by
  induction components generalizing dir with
  | nil => exact (List.append_nil _).symm
  | cons component components ih =>
    rw [List.foldl_cons, ih _ fun other member => inner other (.tail _ member),
      components_join_text dir (inner component (.head _)), List.append_assoc, List.singleton_append]

/-- Components that are spelled again are the same ones. -/
theorem components_ofComponents {components : List Component} (spellable : Spellable components) :
    (ofComponents components).components = components := by
  cases components with
  | nil => rfl
  | cons first others =>
    obtain ⟨begins, inner⟩ := spellable
    -- The first one is joined to nothing.
    have alone : ((Path.mk "").join ⟨first.text⟩).components = [first] := by
      rcases begins with rfl | rfl | begins
      · rfl
      · rfl
      · exact components_join_text ⟨""⟩ begins
    rw [ofComponents, List.foldl_cons, components_foldl_join _ inner, alone, List.singleton_append]

/-- The components of a first piece: none, the root, the current directory, or one that is spelled behind
others too. -/
theorem leading_cases (alone : Bool) {piece : List Char} (plain : '/' ∉ piece) :
    leading alone piece = [] ∨ (leading alone piece = [.root] ∧ alone = false) ∨
      (leading alone piece = [.current] ∧ piece = ['.']) ∨
      ∃ component, leading alone piece = [component] ∧ component.Inner ∧
        component.text.toList = piece := by
  rw [leading]
  -- The cases are those of a first piece: empty, a dot, or what spells a component.
  split
  · cases alone
    · exact .inr (.inl ⟨rfl, rfl⟩)
    · exact .inl rfl
  · rename_i some
    split
    · rename_i dot
      exact .inr (.inr (.inl ⟨rfl, dot⟩))
    · rename_i dot
      obtain ⟨component, spelled⟩ := innerComponent?_eq_some some dot
      rw [spelled]
      exact .inr (.inr (.inr ⟨component, rfl, Component.Inner.of_innerComponent? plain spelled⟩))

section

variable {text : List Char}

/-- The components behind the first one are spelled by pieces. -/
theorem inner_of_mem_filterMap {first : List Char} {pieces : List (List Char)}
    (split : splitSlashes text = first :: pieces) {component : Component}
    (member : component ∈ pieces.filterMap innerComponent?) :
    component.Inner ∧ ∀ c ∈ component.text.toList, c ∈ text := by
  obtain ⟨piece, inside, spelled⟩ := List.mem_filterMap.1 member
  have among : piece ∈ splitSlashes text := split ▸ .tail first inside
  obtain ⟨plain, chars⟩ := mem_of_mem_splitSlashes among
  obtain ⟨inner, same⟩ := Component.Inner.of_innerComponent? plain spelled
  exact ⟨inner, same ▸ chars⟩

/-- The components of a text can be spelled. -/
theorem spellable_componentsOf (text : List Char) : Spellable (componentsOf text) := by
  obtain ⟨first, pieces, split⟩ := exists_splitSlashes text
  have others {component : Component} (member : component ∈ pieces.filterMap innerComponent?) :=
    (inner_of_mem_filterMap split member).1
  rw [componentsOf_eq split]
  -- What stands in front decides: only there the root and the current directory are spelled.
  rcases leading_cases pieces.isEmpty (splitSlashes_eq_cons split).1 with
    none | ⟨root, -⟩ | ⟨current, -⟩ | ⟨component, one, inner, -⟩
  · rw [none, List.nil_append]
    generalize pieces.filterMap innerComponent? = components at others
    cases components with
    | nil => trivial
    | cons first _ => exact ⟨.inr (.inr (others (.head _))), fun _ member => others (.tail _ member)⟩
  · rw [root]
    exact ⟨.inl rfl, fun _ => others⟩
  · rw [current]
    exact ⟨.inr (.inl rfl), fun _ => others⟩
  · rw [one]
    exact ⟨.inr (.inr inner), fun _ => others⟩

/-- The characters of a component are characters of the text. -/
theorem mem_of_mem_componentsOf {component : Component} (member : component ∈ componentsOf text) {c : Char}
    (inside : c ∈ component.text.toList) : c ∈ text := by
  obtain ⟨first, pieces, split⟩ := exists_splitSlashes text
  have among : ∀ c ∈ first, c ∈ text :=
    (mem_of_mem_splitSlashes (split ▸ .head pieces : first ∈ splitSlashes text)).2
  obtain ⟨plain, spelled⟩ := splitSlashes_eq_cons split
  rw [componentsOf_eq split] at member
  -- A component comes from the first piece, or from one behind a slash.
  rcases List.mem_append.1 member with member | later
  · rcases leading_cases pieces.isEmpty plain with
      none | ⟨root, others⟩ | ⟨current, dot⟩ | ⟨component, one, -, same⟩
    · rw [none] at member
      cases member
    · -- The root is there because of a slash, behind which other pieces stand.
      rw [root, List.mem_singleton] at member
      subst member
      rcases spelled with ⟨-, rfl⟩ | ⟨rest, rfl, -⟩
      · cases others
      · rw [List.mem_singleton.1 inside]
        exact List.mem_append_right _ (.head _)
    · -- A leading dot is spelled by the text itself, and so is any other piece.
      rw [current, List.mem_singleton] at member
      subst member dot
      exact among c inside
    · rw [one, List.mem_singleton] at member
      subst member
      exact among c (same ▸ inside)
  · exact (inner_of_mem_filterMap split later).2 c inside

end

/-- A text that names a directory in front of others: nothing, or something that ends in a slash. -/
def IsFront (text : List Char) : Prop := text = [] ∨ ∃ directory, text = directory ++ ['/']

/-- A text is one that names a directory, and a name. -/
theorem exists_front (text : List Char) :
    ∃ front name, text = front ++ name ∧ IsFront front ∧ '/' ∉ name := by
  -- By induction on the text, of which the part up to the last slash is the front.
  induction text with
  | nil => exact ⟨[], [], rfl, .inl rfl, nofun⟩
  | cons c text ih =>
    obtain ⟨front, name, rfl, isFront, plain⟩ := ih
    rcases isFront with rfl | ⟨directory, rfl⟩
    · -- Without a slash behind it, a character belongs to the name, unless it is a slash.
      by_cases slash : c = '/'
      · exact ⟨[c], name, rfl, .inr ⟨[], by rw [slash]; rfl⟩, plain⟩
      · exact ⟨[], c :: name, rfl, .inl rfl, by simp [Ne.symm slash, plain]⟩
    · exact ⟨c :: (directory ++ ['/']), name, rfl, .inr ⟨c :: directory, rfl⟩, plain⟩

/-- What stands behind a slash adds its components to those in front of it. -/
theorem componentsOf_behind (directory rest : List Char) :
    componentsOf (directory ++ ['/'] ++ rest) = componentsOf (directory ++ ['/']) ++ inner rest := by
  rw [List.append_assoc, List.singleton_append]
  by_cases root : directory = []
  · -- The slash is the root, in front of the same pieces.
    subst root
    have both : splitSlashes ('/' :: rest) = [] :: splitSlashes rest := rfl
    obtain ⟨first, pieces, split⟩ := exists_splitSlashes rest
    rw [List.nil_append, componentsOf_eq both, inner, split]
    rfl
  · rw [componentsOf_append root, (componentsOf_trailing root).1, inner]

section

variable {front : List Char} (isFront : IsFront front)

include isFront

/-- A text has the components of what it has in front. -/
theorem componentsOf_isPrefix (rest : List Char) :
    componentsOf front <+: componentsOf (front ++ rest) := by
  rcases isFront with rfl | ⟨directory, rfl⟩
  · exact List.nil_prefix
  · rw [componentsOf_behind]
    exact List.prefix_append _ _

/-- A character other than a dot, in a name behind others, belongs to the component that follows those. -/
theorem componentsOf_front_append {name : List Char} (plain : '/' ∉ name) {c : Char} (slash : c ≠ '/')
    (dot : c ≠ '.') (tail : List Char) :
    ∃ piece others, componentsOf (front ++ (name ++ c :: tail)) =
      componentsOf front ++ .name (String.ofList piece) :: others ∧ c ∈ piece := by
  obtain ⟨first, pieces, split⟩ := exists_splitSlashes tail
  -- The piece goes on from the name over the character up to the next slash.
  have whole : splitSlashes (name ++ c :: tail) = (name ++ c :: first) :: pieces := by
    induction name with
    | nil => rw [List.nil_append, splitSlashes, if_neg slash, split, List.nil_append]
    | cons d name ih =>
      rw [List.mem_cons, not_or] at plain
      rw [List.cons_append, splitSlashes, if_neg (Ne.symm plain.1), ih plain.2, List.cons_append]
  -- With the character in it, the piece is neither empty nor a dot or two.
  have inside : c ∈ name ++ c :: first := List.mem_append_right _ (.head _)
  have named : innerComponent? (name ++ c :: first) = some (.name (String.ofList (name ++ c :: first))) := by
    rw [innerComponent?, if_neg, if_neg]
    · intro parent
      rw [parent] at inside
      simp [dot] at inside
    · rintro (empty | current)
      · rw [empty] at inside
        cases inside
      · rw [current] at inside
        simp [dot] at inside
  rcases isFront with rfl | ⟨directory, rfl⟩
  · -- The piece is the first one of all, but spells the same there.
    refine ⟨_, pieces.filterMap innerComponent?, ?_, inside⟩
    rw [List.nil_append, componentsOf_eq whole, leading, if_neg, if_neg, named]
    · rfl
    · intro current
      rw [current] at inside
      simp [dot] at inside
    · exact List.ne_nil_of_mem inside
  · refine ⟨_, pieces.filterMap innerComponent?, ?_, inside⟩
    rw [componentsOf_behind, inner, whole, List.filterMap_cons, named]

end

end Path

end MessageCatalog
