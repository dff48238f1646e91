import MessageCatalog.Proofs.Source.Position

/-! Each name is that of one function, and a function is named where its name is all of an identifier. -/

namespace MessageCatalog.Source

/-- A point of a text is found by the bytes before it. -/
theorem Cursor.seek_split (front middle behind : List Char) :
    (split front (middle ++ behind)).seek (byteLength (front ++ middle)) =
      some (split (front ++ middle) behind) := by
  -- The induction is on the text that is still to be moved over.
  induction middle generalizing front with
  | nil =>
    rw [List.append_nil, List.nil_append, seek.eq_def]
    exact if_pos rfl
  | cons c middle ih =>
    -- The next character takes bytes, so the point looked for is not reached before it.
    have before : byteLength front ≠ byteLength (front ++ c :: middle) := by
      have positive := c.utf8Size_pos
      rw [byteLength_append, byteLength]
      omega
    have moved : (⟨some c, middle ++ behind, (Position.behind front).past c⟩ : Cursor) =
        split (front ++ [c]) (middle ++ behind) := by
      rw [split, Position.past_behind, List.getLast?_concat]
    have whole : front ++ c :: middle = front ++ [c] ++ middle := by simp
    rw [seek.eq_def, show (split front (c :: middle ++ behind)).position.offset = byteLength front from rfl,
      if_neg before]
    change seek _ ⟨some c, middle ++ behind, (Position.behind front).past c⟩ = _
    rw [moved, whole]
    exact ih (front ++ [c])

namespace Function

/-- A function goes before another one when its name is longer, or as long and no later. -/
theorem goesBefore_iff {a b : Function} :
    goesBefore a b = true ↔ byteLength b.name < byteLength a.name ∨
      byteLength b.name = byteLength a.name ∧ (compare a.name b.name).isLE = true := by
  rw [goesBefore]
  -- The longer name goes first, and of two equally long ones the smaller.
  rcases lengths : compare (byteLength b.name) (byteLength a.name) with _ | _ | _
  · simp [Nat.compare_eq_lt.1 lengths]
  · simp [Nat.compare_eq_eq.1 lengths]
  · have shorter := Nat.compare_eq_gt.1 lengths
    refine iff_of_false Bool.false_ne_true ?_
    omega

theorem goesBefore_trans (a b c : Function) (first : goesBefore a b = true)
    (second : goesBefore b c = true) : goesBefore a c = true := by
  rw [goesBefore_iff] at first second ⊢
  rcases first with shorter | ⟨same, names⟩
  · left
    rcases second with shorter' | ⟨same, -⟩ <;> omega
  · rcases second with shorter | ⟨same', names'⟩
    · left
      omega
    · exact .inr ⟨same'.trans same, Std.TransCmp.isLE_trans names names'⟩

theorem goesBefore_total (a b : Function) : (goesBefore a b || goesBefore b a) = true := by
  rw [Bool.or_eq_true, goesBefore_iff, goesBefore_iff]
  -- Of two names the longer goes first; of names as long as each other, the smaller one.
  rcases Nat.lt_trichotomy (byteLength a.name) (byteLength b.name) with longer | same | shorter
  · exact .inr (.inl longer)
  · rcases names : compare a.name b.name with _ | _ | _
    · exact .inl (.inr ⟨same.symm, rfl⟩)
    · exact .inl (.inr ⟨same.symm, rfl⟩)
    · refine .inr (.inr ⟨same, ?_⟩)
      rw [Std.OrientedCmp.lt_of_gt names]
      rfl
  · exact .inl (.inl shorter)

/-- Functions of one name go before each other. -/
theorem goesBefore_of_name_eq {a b : Function} (same : a.name = b.name) : goesBefore a b = true := by
  have equal : compare b.name b.name = .eq := Std.ReflCmp.compare_self
  rw [goesBefore_iff, same, equal]
  exact .inr ⟨rfl, rfl⟩

/-- Only functions of one name go before each other. -/
theorem name_eq_of_goesBefore {a b : Function} (first : goesBefore a b = true)
    (second : goesBefore b a = true) : a.name = b.name := by
  rw [goesBefore_iff] at first second
  rcases first with shorter | ⟨same, names⟩
  · rcases second with shorter' | ⟨same, -⟩ <;> omega
  · rcases second with shorter | ⟨-, names'⟩
    · omega
    · exact Std.LawfulEqOrd.eq_of_compare (Std.OrientedCmp.isLE_antisymm names names')

/-- The first function of a name stays when repeated names are dropped. -/
theorem find?_dropRepeated (functions : List Function) (name : List Char) :
    (dropRepeated functions).find? (·.name = name) = functions.find? (·.name = name) := by
  induction functions using dropRepeated.induct with
  | case1 => rw [dropRepeated]
  | case2 function => rw [dropRepeated]
  | case3 f g rest same ih =>
    -- What is dropped stands behind a function of its name.
    rw [dropRepeated, if_pos same, ih, List.find?_cons, List.find?_cons, List.find?_cons, same]
    cases decide (g.name = name) <;> rfl
  | case4 f g rest other ih =>
    rw [dropRepeated, if_neg other, List.find?_cons, List.find?_cons, ih]

/-- In the order in which functions are tried, those of one name are neighbours, and one is kept. -/
theorem nodup_dropRepeated {functions : List Function}
    (ordered : functions.Pairwise fun a b => goesBefore a b = true) :
    ((dropRepeated functions).map name).Nodup := by
  -- By induction as the function recurs: a neighbour of the same name takes the place of the first.
  induction functions using dropRepeated.induct with
  | case1 =>
    rw [dropRepeated]
    exact .nil
  | case2 function =>
    rw [dropRepeated]
    exact List.nodup_singleton _
  | case3 f g rest same ih =>
    rw [dropRepeated, if_pos same]
    rw [List.pairwise_cons, List.pairwise_cons] at ordered
    refine ih (List.pairwise_cons.2 ⟨fun h member => ?_, ordered.2.2⟩)
    exact ordered.1 h (.tail _ member)
  | case4 f g rest other ih =>
    rw [dropRepeated, if_neg other, List.map_cons, List.nodup_cons]
    rw [List.pairwise_cons] at ordered
    refine ⟨fun repeated => ?_, ih ordered.2⟩
    obtain ⟨h, kept, same⟩ := List.mem_map.1 repeated
    -- A function of the first name could not come behind one of another name.
    rcases List.mem_cons.1 (dropRepeated_subset _ h kept) with rfl | member
    · exact other same.symm
    · have behind := (List.pairwise_cons.1 ordered.2).1 h member
      have back := goesBefore_trans g h f behind (goesBefore_of_name_eq same)
      exact other (name_eq_of_goesBefore (ordered.1 g (.head _)) back)

/-- Of functions of one name, the sorting leaves the first one first. -/
theorem find?_mergeSort (functions : List Function) (name : List Char) :
    (functions.mergeSort goesBefore).find? (·.name = name) = functions.find? (·.name = name) := by
  -- Those of the name are in order as they are, and so the sorting does not exchange them.
  have alike : (functions.filter (·.name = name)).Pairwise fun a b => goesBefore a b = true := by
    refine List.pairwise_of_forall_mem_list fun a member b member' => goesBefore_of_name_eq ?_
    have named := of_decide_eq_true (List.mem_filter.1 member).2
    exact named.trans (of_decide_eq_true (List.mem_filter.1 member').2).symm
  have kept : (functions.filter (·.name = name)).Sublist
      ((functions.mergeSort goesBefore).filter (·.name = name)) := by
    have sorted := List.sublist_mergeSort goesBefore_trans goesBefore_total alike
      List.filter_sublist
    simpa using sorted.filter (·.name = name)
  have same := kept.eq_of_length_le ((List.mergeSort_perm functions goesBefore).filter _).length_eq.le
  rw [← List.head?_filter, ← List.head?_filter, same]

/-- The function that base names give a name: the one in the family of the first base whose family has
the name. -/
def declared? (bases : List String) (name : List Char) : Option Function :=
  bases.findSome? fun base => (family base.toList).find? (·.name = name)

/-- The functions of base names are found as these give them. -/
theorem find?_ofBases (bases : List String) (name : List Char) :
    (ofBases bases).find? (·.name = name) = declared? bases name := by
  rw [ofBases, find?_dropRepeated, find?_mergeSort, List.find?_flatMap, declared?]

/-- No two functions of base names share a name. -/
theorem nodup_ofBases (bases : List String) : ((ofBases bases).map name).Nodup :=
  nodup_dropRepeated (List.pairwise_mergeSort goesBefore_trans goesBefore_total _)

section

variable {functions : List Function} {function : Function}

/-- Of functions with different names, each is the one found by its name. -/
theorem mem_iff_find? (distinct : (functions.map name).Nodup) :
    function ∈ functions ↔ functions.find? (·.name = function.name) = some function := by
  refine ⟨fun member => ?_, List.mem_of_find?_eq_some⟩
  have some : (functions.find? (·.name = function.name)).isSome = true :=
    List.find?_isSome.2 ⟨function, member, decide_eq_true rfl⟩
  obtain ⟨other, found⟩ := Option.isSome_iff_exists.1 some
  have same : other.name = function.name := by simpa using List.find?_some found
  rw [found, List.inj_on_of_nodup_map distinct (List.mem_of_find?_eq_some found) member same]

/-- The functions of base names are those that these give their names. -/
theorem mem_ofBases_iff {bases : List String} :
    function ∈ ofBases bases ↔ declared? bases function.name = some function := by
  rw [mem_iff_find? (nodup_ofBases bases), find?_ofBases]

/-- A name stands as a whole identifier where it is the longest run of identifier characters. -/
theorem stands_iff_takeWhile {name : List Char} (identifier : ∀ c ∈ name, isIdentifierChar c = true)
    (rest : List Char) :
    (name.isPrefixOf rest && !(rest.drop name.length).head?.any isIdentifierChar) = true ↔
      rest.takeWhile isIdentifierChar = name := by
  rw [Bool.and_eq_true, List.isPrefixOf_iff_prefix, Bool.not_eq_true']
  constructor
  · rintro ⟨⟨tail, rfl⟩, ends⟩
    rw [List.drop_left] at ends
    rw [List.takeWhile_append_of_pos identifier]
    -- The run goes on behind the name only if the next character belongs to it.
    cases tail with
    | nil => simp
    | cons c tail =>
      have stops : isIdentifierChar c = false := by simpa using ends
      rw [List.takeWhile_cons_of_neg (by simp [stops]), List.append_nil]
  · -- The run itself is the name, and behind a run stands no character of its kind.
    rintro rfl
    refine ⟨List.takeWhile_prefix _, ?_⟩
    have behind : rest.drop (rest.takeWhile isIdentifierChar).length =
        rest.dropWhile isIdentifierChar := by
      have parts : rest.takeWhile isIdentifierChar ++ rest.dropWhile isIdentifierChar = rest :=
        List.takeWhile_append_dropWhile
      have split := @List.drop_left _ (rest.takeWhile isIdentifierChar) (rest.dropWhile isIdentifierChar)
      rwa [parts] at split
    have stops := List.head?_dropWhile_not isIdentifierChar rest
    rw [behind]
    cases next : (rest.dropWhile isIdentifierChar).head? with
    | none => rfl
    | some c =>
      rw [next] at stops
      simpa using stops

/-- Of functions with different names that are identifiers, the one is named whose name is the
identifier that begins at a point. -/
theorem named?_eq_some_iff (named : Named functions) (distinct : (functions.map name).Nodup)
    {before : Option Char} {rest : List Char} :
    named? functions before rest = some function ↔
      function ∈ functions ∧ before.any isIdentifierChar = false ∧
        rest.takeWhile isIdentifierChar = function.name := by
  rw [named?]
  cases preceded : before.any isIdentifierChar with
  | true => simp
  | false =>
    -- To fit is to have the name that is the run of identifier characters.
    have fits : functions.find? (fun f =>
        f.name.isPrefixOf rest && !(rest.drop f.name.length).head?.any isIdentifierChar) =
          functions.find? (·.name = rest.takeWhile isIdentifierChar) := by
      refine List.find?_congr fun f member => ?_
      rw [Bool.eq_iff_iff, stands_iff_takeWhile (named f member).2, decide_eq_true_iff, eq_comm]
    rw [if_neg Bool.false_ne_true, fits]
    constructor
    · intro found
      have same : function.name = rest.takeWhile isIdentifierChar := by
        simpa using List.find?_some found
      exact ⟨List.mem_of_find?_eq_some found, rfl, same.symm⟩
    · rintro ⟨member, -, same⟩
      rw [same]
      exact (mem_iff_find? distinct).1 member

end

/-- The functions of base names that are identifiers have different names, and each is as the first base
declares it whose family has the name. At a point of a text a function is named just when the
identifier that begins there is its name and none goes on from before. -/
theorem named?_ofBases {bases : List String}
    (identifiers : ∀ base ∈ bases, ∀ c ∈ base.toList, isIdentifierChar c = true) :
    ((ofBases bases).map name).Nodup ∧
      (∀ function, function ∈ ofBases bases ↔ declared? bases function.name = some function) ∧
      ∀ front behind : List Char, ∃ cursor,
        (Cursor.start (front ++ behind)).seek (byteLength front) = some cursor ∧
          ∀ function, named? (ofBases bases) cursor.before cursor.rest = some function ↔
            function ∈ ofBases bases ∧ front.getLast?.any isIdentifierChar = false ∧
              behind.takeWhile isIdentifierChar = function.name := by
  have named : Named (ofBases bases) := named_ofBases identifiers
  refine ⟨nodup_ofBases bases, fun function => mem_ofBases_iff, fun front behind => ?_⟩
  refine ⟨Cursor.split front behind, Cursor.seek_split [] front behind, fun function => ?_⟩
  exact named?_eq_some_iff named (nodup_ofBases bases)

/-- Two bases both have the function `tn`, which takes a plural as the first of them says. -/
theorem named?_ofBases_overlapping :
    ∃ cursor, (Cursor.start "x tn('a')".toList).seek 2 = some cursor ∧
      named? (ofBases ["t", "tn"]) cursor.before cursor.rest = some ⟨['t', 'n'], false, true⟩ := by
  have identifiers : ∀ base ∈ ["t", "tn"], ∀ c ∈ base.toList, isIdentifierChar c = true := by
    simp [isIdentifierChar]
  obtain ⟨-, given, stands⟩ := named?_ofBases identifiers
  obtain ⟨cursor, found, named⟩ := stands ['x', ' '] "tn('a')".toList
  have isPlural : declared? ["t", "tn"] ['t', 'n'] = some ⟨['t', 'n'], false, true⟩ := by decide
  exact ⟨cursor, found, (named _).2 ⟨(given _).2 isPlural, by cbv, by cbv⟩⟩

end Function

end MessageCatalog.Source
