import Mathlib.Logic.Basic

/-!
# Computations that may fail

What can be told from the success of a computation about the steps that it is made of.
-/

namespace BeaconCeremony

variable {ε ε' α β : Type}

theorem exists_of_bind_eq_ok {action : Except ε α} {next : α → Except ε β} {result : β}
    (succeeded : (action >>= next) = .ok result) :
    ∃ value, action = .ok value ∧ next value = .ok result := by
  cases action with
  | error error => contradiction
  | ok value => exact ⟨value, rfl, succeeded⟩

/-- A computation fails in its first part or in what comes after it. -/
theorem error_of_bind_eq_error {action : Except ε α} {next : α → Except ε β} {error : ε}
    (failed : (action >>= next) = .error error) :
    action = .error error ∨ ∃ value, action = .ok value ∧ next value = .error error := by
  cases action with
  | error found => exact .inl (congrArg Except.error (Except.error.inj failed))
  | ok value => exact .inr ⟨value, rfl, failed⟩

@[simp]
theorem mapError_ok (translate : ε → ε') (value : α) :
    (Except.ok value : Except ε α).mapError translate = .ok value := rfl

theorem eq_ok_of_mapError_eq_ok {action : Except ε α} {translate : ε → ε'} {value : α}
    (succeeded : action.mapError translate = .ok value) : action = .ok value := by
  cases action with
  | error error => contradiction
  | ok found => exact congrArg Except.ok (Except.ok.inj succeeded)

theorem exists_of_mapError_eq_error {action : Except ε α} {translate : ε → ε'} {error : ε'}
    (failed : action.mapError translate = .error error) :
    ∃ found, action = .error found ∧ error = translate found := by
  cases action with
  | error found => exact ⟨found, rfl, (Except.error.inj failed).symm⟩
  | ok value => contradiction

theorem exists_of_map_eq_ok {action : Except ε α} {change : α → β} {result : β}
    (succeeded : action.map change = .ok result) :
    ∃ value, action = .ok value ∧ result = change value := by
  cases action with
  | error error => contradiction
  | ok value => exact ⟨value, rfl, (Except.ok.inj succeeded).symm⟩

/-- Whether a computation comes to a value that passes a test. -/
def comesTo (test : α → Bool) : Except ε α → Bool
  | .ok value => test value
  | .error _ => false

theorem exists_of_comesTo {test : α → Bool} {action : Except ε α}
    (comes : comesTo test action = true) : ∃ value, action = .ok value ∧ test value = true := by
  cases action with
  | ok value => exact ⟨value, rfl, comes⟩
  | error error => cases comes

theorem eq_ok_of_toOption {action : Except ε α} {value : α}
    (found : action.toOption = some value) : action = .ok value := by
  cases action with
  | ok other => exact congrArg Except.ok (Option.some.inj found)
  | error error => contradiction

/-- Computations that all succeed also succeed one after the other. -/
theorem mapM_eq_ok {compute : α → Except ε β} {result : α → β} {values : List α}
    (each : ∀ value ∈ values, compute value = .ok (result value)) :
    values.mapM compute = .ok (values.map result) := by
  induction values with
  | nil => rfl
  | cons value values ih =>
      obtain ⟨here, there⟩ := List.forall_mem_cons.mp each
      rw [List.mapM_cons, here, ih there]
      rfl

/-- Computations that succeed one after the other all succeed. -/
theorem exists_eq_ok_of_mapM_eq_ok {compute : α → Except ε β} {values : List α} {results : List β}
    (succeeded : values.mapM compute = .ok results) :
    ∀ value ∈ values, ∃ result, compute value = .ok result := by
  induction values generalizing results with
  | nil => exact List.forall_mem_nil _
  | cons value values ih =>
      rw [List.mapM_cons] at succeeded
      obtain ⟨result, here, succeeded⟩ := exists_of_bind_eq_ok succeeded
      obtain ⟨more, there, -⟩ := exists_of_bind_eq_ok succeeded
      exact List.forall_mem_cons.mpr ⟨⟨result, here⟩, ih there⟩

/-- Computations that fail one after the other fail by one of them. -/
theorem exists_eq_error_of_mapM_eq_error {compute : α → Except ε β} {values : List α} {error : ε}
    (failed : values.mapM compute = .error error) :
    ∃ value ∈ values, compute value = .error error := by
  induction values with
  | nil => contradiction
  | cons value values ih =>
      rw [List.mapM_cons] at failed
      rcases error_of_bind_eq_error failed with here | ⟨result, -, failed⟩
      · exact ⟨value, List.mem_cons_self, here⟩
      · rcases error_of_bind_eq_error failed with there | ⟨more, -, made⟩
        · obtain ⟨other, member, fails⟩ := ih there
          exact ⟨other, List.mem_cons_of_mem value member, fails⟩
        · contradiction

end BeaconCeremony
