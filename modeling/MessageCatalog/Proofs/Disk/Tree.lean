import MessageCatalog.Disk.Tree
import MessageCatalog.Proofs.Entry.Fault
import MessageCatalog.Proofs.SortedMap

/-! Where an absolute path leads is the same in all trees in which it leads anywhere, so a directory that
was removed is not there any more. -/

namespace MessageCatalog

namespace Tree

variable {tree other : Tree}

/-- Pieces lead to the same names in all trees in which they lead anywhere. -/
theorem lead_eq {names found found' : List String} {pieces : List (List Char)}
    (led : tree.lead names pieces = .ok found) (led' : other.lead names pieces = .ok found') :
    found = found' := by
  -- By induction on the pieces; the nodes decide only whether there is a directory to go on from.
  induction pieces generalizing names with
  | nil =>
    cases led
    cases led'
    rfl
  | cons piece pieces ih =>
    obtain ⟨-, -, led⟩ := bind_eq_ok.1 led
    obtain ⟨-, -, led'⟩ := bind_eq_ok.1 led'
    split at led
    · rename_i same
      rw [if_pos same] at led'
      exact ih led led'
    · rename_i differ
      rw [if_neg differ] at led'
      split at led
      · rename_i parent
        rw [if_pos parent] at led'
        exact ih led led'
      · rename_i name
        rw [if_neg name] at led'
        exact ih led led'

/-- An absolute path leads to the same names in all trees in which it leads anywhere. -/
theorem resolve_eq {path : Path} (absolute : path.isAbsolute = true) {found found' : List String}
    (led : tree.resolve path = .ok found) (led' : other.resolve path = .ok found') :
    found = found' := by
  obtain ⟨rest, spelled⟩ : ∃ rest, path.text.toList = '/' :: rest := by
    rw [Path.isAbsolute, decide_eq_true_iff] at absolute
    exact List.head?_eq_some_iff.1 absolute
  rw [resolve, spelled] at led led'
  exact lead_eq led led'

/-- Removing a directory other than the root leaves no node at its names. -/
theorem node?_of_removeDir {path : Path} {names : List String} {after : Tree}
    (removed : tree.removeDir path = .ok after) (led : tree.resolve path = .ok names)
    (inside : names ≠ []) : after.node? names = none := by
  obtain ⟨⟨found, node⟩, looked, removed⟩ := bind_eq_ok.1 removed
  obtain ⟨found', led', looked⟩ := bind_eq_ok.1 looked
  cases led.symm.trans led'
  -- The look at the path found a node there, or the removal failed.
  have same : found = names := by
    split at looked
    · cases looked
      rfl
    · cases looked
  subst same
  cases node with
  | file bytes => cases removed
  | dir =>
    cases removed
    rw [node?, if_neg (by simpa using inside)]
    cases kept : (tree.nodes.filter fun key _ => !found.isPrefixOf key).get? found with
    | none => rfl
    | some node =>
      -- What is left does not lie under the directory.
      have left := (List.mem_filter.1 (SortedMap.get?_eq_some_iff.1 kept)).2
      have under : found.isPrefixOf found = true := List.isPrefixOf_iff_prefix.2 (List.prefix_refl _)
      rw [Bool.not_eq_true', under] at left
      cases left

/-- A directory is not there behind its removal, unless it is the root. -/
theorem isThere_of_removeDir {path : Path} (absolute : path.isAbsolute = true)
    {names : List String} (led : other.resolve path = .ok names) (inside : names ≠ [])
    {after : Tree} (removed : tree.removeDir path = .ok after) : after.isThere path = false := by
  obtain ⟨place, looked, -⟩ := bind_eq_ok.1 removed
  obtain ⟨found, led', -⟩ := bind_eq_ok.1 looked
  cases resolve_eq absolute led led'
  -- An absolute path leads to the same names before and behind the removal.
  have gone := node?_of_removeDir removed led' inside
  rw [isThere]
  cases there : after.lookup path with
  | error fault => rfl
  | ok place =>
    obtain ⟨names', led'', looked'⟩ := bind_eq_ok.1 there
    cases resolve_eq absolute led led''
    rw [gone] at looked'
    cases looked'

end Tree

end MessageCatalog
