import MessageCatalog.Entry.Fault

/-! Steps that may fail succeed together, and a list passes when each of its entries does. -/

namespace MessageCatalog

/-- A step that succeeds hands on its value. -/
theorem ok_bind {ε α β : Type} (value : α) (next : α → Except ε β) :
    (Except.ok value >>= next) = next value := rfl

/-- A sequence succeeds when its first step does and the second one goes on from there. -/
theorem bind_eq_ok {ε α β : Type} {first : Except ε α} {next : α → Except ε β} {value : β} :
    (first >>= next) = .ok value ↔ ∃ between, first = .ok between ∧ next between = .ok value := by
  cases first with
  | error fault => exact ⟨nofun, nofun⟩
  | ok between =>
    constructor
    · intro second
      exact ⟨between, rfl, second⟩
    · rintro ⟨_, ⟨⟩, second⟩
      exact second

/-- A sequence fails when its first step does, or its second one behind that. -/
theorem bind_eq_error {ε α β : Type} {first : Except ε α} {next : α → Except ε β} {fault : ε} :
    (first >>= next) = .error fault ↔
      first = .error fault ∨ ∃ between, first = .ok between ∧ next between = .error fault := by
  cases first with
  | error other => simp [bind, Except.bind]
  | ok between => simp [bind, Except.bind]

/-- A result with its faults told in another way succeeds when the result does. -/
theorem mapError_eq_ok {ε ε' α : Type} {tell : ε → ε'} {result : Except ε α} {value : α} :
    result.mapError tell = .ok value ↔ result = .ok value := by
  cases result with
  | error fault => exact ⟨nofun, nofun⟩
  | ok other =>
    constructor
    · intro same
      exact congrArg Except.ok (Except.ok.inj same)
    · intro same
      exact congrArg Except.ok (Except.ok.inj same)

/-- An entry passes when it has no defect. -/
theorem Entry.validate_eq_ok {entry : Entry} : entry.validate = .ok () ↔ entry.defect? = none := by
  unfold Entry.validate
  cases entry.defect? <;> simp

/-- A list passes when each of its entries does. -/
theorem validateAll_eq_ok {entries : List Entry} :
    validateAll entries = .ok () ↔ ∀ entry ∈ entries, entry.defect? = none := by
  induction entries with
  | nil => simp [validateAll]
  | cons entry entries ih =>
    rw [validateAll, bind_eq_ok, List.forall_mem_cons, ← Entry.validate_eq_ok, ← ih]
    constructor
    · rintro ⟨⟨⟩, first, others⟩
      exact ⟨first, others⟩
    · rintro ⟨first, others⟩
      exact ⟨(), first, others⟩

end MessageCatalog
