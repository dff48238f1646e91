import MessageCatalog.Disk.Memory
import MessageCatalog.Proofs.Glob
import MessageCatalog.Proofs.Path.Components
import MessageCatalog.Proofs.Session.World
import MessageCatalog.Proofs.SortedMap
import MessageCatalog.Session.Watch

/-! Whatever the patterns of a session match starts in a directory that is watched. -/

namespace MessageCatalog

/-- A path starts in a directory: its components begin with those of the directory, or it is relative and the
directory is the current one. Where a later step leads is left open. -/
def Path.StartsIn (path dir : Path) : Prop :=
  path.isUnder dir = true ∨ dir.components = [.current] ∧ path.isAbsolute = false

/-- What starts in a directory starts in it by each of its spellings. -/
theorem Path.StartsIn.of_same {path dir other : Path} (starts : path.StartsIn dir)
    (same : compare dir other = .eq) : path.StartsIn other := by
  rw [compare_eq_iff] at same
  rw [StartsIn, isUnder, ← same]
  exact starts

namespace Session

section

variable (pattern : String)

/-- The components of a pattern in front of the first one with a wildcard. -/
def fixedComponents : List Component := (Path.mk pattern).components.takeWhile (!isWild ·)

/-- They are the first components of the pattern. -/
theorem fixedComponents_isPrefix : fixedComponents pattern <+: (Path.mk pattern).components :=
  List.takeWhile_prefix _

/-- The start of a pattern has the components in front of the first wildcard, or where there is none those of
the directory that holds what the pattern names. -/
theorem components_watchPrefix :
    (watchPrefix pattern).components =
      if (fixedComponents pattern).length = (Path.mk pattern).components.length then
        (Path.holding? (fixedComponents pattern)).getD (fixedComponents pattern)
      else fixedComponents pattern := by
  have spelled := Path.components_ofComponents
    ((Path.spellable_componentsOf _).of_isPrefix (fixedComponents_isPrefix pattern))
  have held := Path.map_components_parent? (Path.ofComponents (fixedComponents pattern))
  rw [spelled] at held
  rw [watchPrefix, ← fixedComponents]
  -- A pattern without wildcards is a path, and what holds that is watched.
  split
  · rw [← held]
    cases (Path.ofComponents (fixedComponents pattern)).parent? with
    | none => exact spelled
    | some parent => rfl
  · exact spelled

/-- The directory that holds something is on the way to it. -/
theorem getD_holding?_isPrefix (components : List Component) :
    (Path.holding? components).getD components <+: components := by
  rw [Path.holding?]
  split
  · exact List.prefix_refl _
  · exact List.prefix_refl _
  · exact List.dropLast_prefix components

/-- The directory that holds something on the way from the root is on that way. -/
theorem head?_getD_holding? {components : List Component} (absolute : components.head? = some .root) :
    ((Path.holding? components).getD components).head? = some .root := by
  rw [Path.holding?]
  split
  · exact absolute
  · exact absolute
  · rename_i last other ends
    cases components with
    | nil => cases absolute
    | cons first others =>
      cases others with
      | nil =>
        -- The root alone is not held by another directory.
        cases absolute
        exact absurd (Option.some.inj ends).symm other
      | cons next others => exact absolute

/-- The start of a pattern has none but components in front of the first wildcard. -/
theorem components_watchPrefix_isPrefix :
    (watchPrefix pattern).components <+: fixedComponents pattern := by
  rw [components_watchPrefix]
  split
  · exact getD_holding?_isPrefix _
  · exact List.prefix_refl _

/-- The start of a pattern that starts at the root does so. -/
theorem isAbsolute_watchPrefix (absolute : (Path.mk pattern).isAbsolute = true) :
    (watchPrefix pattern).isAbsolute = true := by
  rw [Path.isAbsolute_iff] at absolute ⊢
  -- The root has no wildcard, and so it is not left out.
  have fixed : (fixedComponents pattern).head? = some .root := by
    rw [fixedComponents]
    cases components : (Path.mk pattern).components with
    | nil =>
      rw [components] at absolute
      cases absolute
    | cons first others =>
      rw [components] at absolute
      cases absolute
      rfl
  rw [components_watchPrefix]
  split
  · exact head?_getD_holding? fixed
  · exact fixed

/-- The directory that is watched is the start of a pattern; where that is empty, it is the current one, and the
pattern is relative. -/
theorem watchDir_cases :
    watchDir pattern = watchPrefix pattern ∨ watchPrefix pattern = ⟨""⟩ ∧
      watchDir pattern = ⟨"."⟩ ∧ (Path.mk pattern).isAbsolute = false := by
  rw [watchDir]
  split
  · -- The start of a pattern that starts at the root is not empty.
    rename_i empty
    rw [Path.isEmpty, String.isEmpty_iff] at empty
    refine .inr ⟨congrArg Path.mk empty, rfl, Bool.eq_false_iff.2 fun absolute => ?_⟩
    have start := isAbsolute_watchPrefix pattern absolute
    rw [Path.isAbsolute, empty] at start
    cases start
  · exact .inl rfl

end

section

variable {spelling : String} {pattern : Pattern} {path : Path}

/-- A text without wildcards has components without wildcards. -/
theorem isWild_of_mem_componentsOf {text : List Char} (plain : ∀ c ∈ text, isWildChar c = false)
    {component : Component} (member : component ∈ Path.componentsOf text) :
    isWild component = false := by
  refine List.any_eq_false.2 fun c inside => ?_
  exact Bool.eq_false_iff.1 (plain c (Path.mem_of_mem_componentsOf member inside))

/-- The components in front of the first wildcard are those of the text up to the slash before it. -/
theorem fixedComponents_eq {front name tail : List Char} {c : Char}
    (spelled : spelling.toList = front ++ (name ++ c :: tail)) (isFront : Path.IsFront front)
    (named : '/' ∉ name) (wild : isWildChar c = true)
    (plain : ∀ d ∈ front, isWildChar d = false) :
    fixedComponents spelling = Path.componentsOf front := by
  -- A wildcard is neither a slash nor a dot, so that its component is a name.
  have slash : c ≠ '/' := by
    rintro rfl
    cases wild
  have dot : c ≠ '.' := by
    rintro rfl
    cases wild
  obtain ⟨piece, others, components, inside⟩ :=
    Path.componentsOf_front_append isFront named slash dot tail
  have stops : isWild (.name (String.ofList piece)) = true := by
    refine List.any_eq_true.2 ⟨c, ?_, wild⟩
    rw [Component.text, String.toList_ofList]
    exact inside
  -- The components up to the one with the wildcard are those of the front.
  rw [fixedComponents, Path.components, spelled, components, List.takeWhile_append_of_pos,
    List.takeWhile_cons_of_neg, List.append_nil]
  · rw [stops]
    exact Bool.false_ne_true
  · intro component member
    rw [isWild_of_mem_componentsOf plain member]
    rfl

/-- A path that a pattern matches has the components in front of the first wildcard. -/
theorem fixedComponents_isPrefix_of_matches (parsed : Pattern.parse spelling = .ok pattern)
    (matched : pattern.matchesPath path = true) : fixedComponents spelling <+: path.components := by
  have parts := List.takeWhile_append_dropWhile (p := (!isWildChar ·)) (l := spelling.toList)
  have plain : ∀ c ∈ spelling.toList.takeWhile (!isWildChar ·), isWildChar c = false := by
    intro c member
    simpa using List.all_eq_true.1 List.all_takeWhile c member
  have stops := List.head?_dropWhile_not (!isWildChar ·) spelling.toList
  generalize spelling.toList.takeWhile (!isWildChar ·) = literal at parts plain
  generalize spelling.toList.dropWhile (!isWildChar ·) = rest at parts stops
  -- What is no wildcard for the watching is none for the matching.
  have literally : ∀ c ∈ literal, beginsWildcard c = false := by
    intro c member
    have other := plain c member
    simp only [isWildChar, List.contains_cons, Bool.or_eq_false_iff] at other
    rw [beginsWildcard, other.1, other.2.1, other.2.2.1]
    rfl
  obtain ⟨behind, text, whole⟩ := Pattern.text_of_matchesPath parsed matched parts.symm literally
  cases rest with
  | nil =>
    -- Without a wildcard the path is spelled as the pattern is.
    have same : path.components = (Path.mk spelling).components := by
      rw [Path.components, text, whole rfl, parts, Path.components]
    rw [same]
    exact fixedComponents_isPrefix spelling
  | cons c tail =>
    -- With one the spellings agree up to it, and so up to the slash before it.
    have wild : isWildChar c = true := by simpa using stops
    obtain ⟨front, name, rfl, isFront, named⟩ := Path.exists_front literal
    rw [List.append_assoc] at parts text
    rw [fixedComponents_eq parts.symm isFront named wild fun d member =>
      plain d (List.mem_append_left _ member), Path.components, text]
    exact Path.componentsOf_isPrefix isFront _

/-- A path that a pattern matches lies under the start of the pattern. -/
theorem isUnder_watchPrefix (parsed : Pattern.parse spelling = .ok pattern)
    (matched : pattern.matchesPath path = true) : path.isUnder (watchPrefix spelling) = true := by
  rw [Path.isUnder, List.isPrefixOf_iff_prefix]
  exact (components_watchPrefix_isPrefix spelling).trans
    (fixedComponents_isPrefix_of_matches parsed matched)

end

section

variable {δ : Type} [Disk δ]

/-- The directories to watch are those that are there. -/
theorem run_watchDirs (patterns : List String) (world : World δ) :
    (watchDirs patterns : StateM (World δ) (SortedSet Path)).run world =
      (.ofElements ((patterns.map watchDir).filter (Disk.isDir world.disk)), world) := by
  have each (path : Path) : (FileSystem.isDir path : StateM (World δ) Bool).run world =
      (Disk.isDir world.disk path, world) := rfl
  rw [watchDirs, run_worldBind, run_keepPaths each]
  rfl

/-- The directory for a pattern is watched, in some spelling, when it is there. -/
theorem exists_mem_watchDirs {patterns : List String} {spelling : String} (listed : spelling ∈ patterns)
    {world : World δ} (present : Disk.isDir world.disk (watchDir spelling) = true) :
    ∃ dir ∈ ((watchDirs patterns : StateM (World δ) (SortedSet Path)).run world).1.elements,
      compare (watchDir spelling) dir = .eq := by
  rw [run_watchDirs]
  refine SortedMap.contains_iff.1 ((SortedSet.contains_ofElements _ _).trans ?_)
  rw [List.any_eq_true]
  refine ⟨watchDir spelling, List.mem_filter.2 ⟨List.mem_map_of_mem listed, present⟩, ?_⟩
  simp

/-- Whatever a pattern matches, from the same place, starts in the start of the pattern, which is the
directory that is watched for it; where that is empty, the current directory is watched, and the path is
relative. The directories that are watched for some patterns are there; and where the one for a pattern
is there, the path starts in one of them. -/
theorem starts_in_watchDirs {spelling : String} {pattern : Pattern} {path : Path}
    (parsed : Pattern.parse spelling = .ok pattern) (matched : pattern.matchesPath path = true)
    (alike : path.isAbsolute = (Path.mk spelling).isAbsolute) :
    (path.isUnder (watchPrefix spelling) = true ∧ watchDir spelling = watchPrefix spelling ∨
      watchPrefix spelling = ⟨""⟩ ∧ watchDir spelling = ⟨"."⟩ ∧ path.isAbsolute = false) ∧
    ∀ (world : World δ) (patterns : List String),
      (∀ dir ∈ ((watchDirs patterns : StateM (World δ) (SortedSet Path)).run world).1.elements,
        Disk.isDir world.disk dir = true) ∧
      (spelling ∈ patterns → Disk.isDir world.disk (watchDir spelling) = true →
        ∃ dir ∈ ((watchDirs patterns : StateM (World δ) (SortedSet Path)).run world).1.elements,
          path.StartsIn dir) := by
  have under := isUnder_watchPrefix parsed matched
  have watched := watchDir_cases spelling
  rw [← alike] at watched
  have starts : path.StartsIn (watchDir spelling) := by
    -- A path under the start is under what is watched, and a relative one is under the current
    -- directory.
    rcases watched with same | ⟨-, current, relative⟩
    · exact .inl (same ▸ under)
    · exact .inr ⟨by rw [current]; rfl, relative⟩
  refine ⟨watched.imp_left fun same => ⟨under, same⟩, fun world patterns => ⟨?_, ?_⟩⟩
  · intro dir member
    rw [run_watchDirs] at member
    exact (List.mem_filter.1 (SortedSet.mem_of_mem_ofElements member)).2
  · -- The directory may be watched by another spelling, of a pattern that has the same start.
    intro listed present
    obtain ⟨dir, member, same⟩ := exists_mem_watchDirs listed present
    exact ⟨dir, member, starts.of_same same⟩

end

/-- A pattern with a spelling that is not the plain one, a brace and a class with a slash in it. -/
private def oddSpelling : String := "src//./lib/**/[a/]*.\x7bjs"

/-- The pattern that it spells. -/
private def oddPattern : Pattern where
  text := oddSpelling
  tokens := "src//./lib/".toList.map .char ++ [.anyDirectories,
    .anyOf [.single 'a', .single '/'], .anySequence, .char '.', .char '\x7b', .char 'j', .char 's']

/-- A file that it matches. -/
private def oddPath : Path := ⟨"src//./lib/x/y/ab.\x7bjs"⟩

/-- A disk with the file. -/
private def oddWorld : World MemoryDisk where
  disk := MemoryDisk.addFile {} oddPath ""

/-- The file starts in a directory that is watched, however the pattern is spelled. -/
theorem starts_in_watchDirs_odd :
    oddPath.isUnder (watchPrefix oddSpelling) = true ∧ watchDir oddSpelling = ⟨"src/lib"⟩ ∧
      ∃ dir ∈ ((watchDirs ["*.js", oddSpelling] :
          StateM (World MemoryDisk) (SortedSet Path)).run oddWorld).1.elements,
        oddPath.StartsIn dir := by
  have parsed : Pattern.parse oddSpelling = .ok oddPattern := by decide +kernel
  have matched : oddPattern.matchesPath oddPath = true := by cbv
  have watched : watchDir oddSpelling = ⟨"src/lib"⟩ := by decide +kernel
  have present : Disk.isDir oddWorld.disk (watchDir oddSpelling) = true := by decide +kernel
  have alike : oddPath.isAbsolute = (Path.mk oddSpelling).isAbsolute := by decide +kernel
  obtain ⟨inPrefix, starts⟩ := @starts_in_watchDirs MemoryDisk _ _ _ _ parsed matched alike
  obtain ⟨-, seen⟩ := starts oddWorld ["*.js", oddSpelling]
  -- The path is under the prefix as it is spelled, and not only in the working directory.
  rcases inPrefix with ⟨under, -⟩ | ⟨-, current, -⟩
  · exact ⟨under, watched, seen (.tail _ (.head _)) present⟩
  · rw [watched] at current
    exact absurd current (by decide)

end Session

end MessageCatalog
