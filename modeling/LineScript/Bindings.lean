/-!
# Bindings

Finite maps as lists of pairs. Each key is bound at most once by insertion, and looking up a key gives
the value inserted last.
-/

namespace LineScript

set_option autoImplicit false

/-- A finite map, newest binding first. -/
abbrev Bindings (κ α : Type) := List (κ × α)

namespace Bindings

variable {κ α : Type} [DecidableEq κ]

def get? (bindings : Bindings κ α) (key : κ) : Option α :=
  (bindings.find? (·.1 = key)).map (·.2)

def erase (bindings : Bindings κ α) (key : κ) : Bindings κ α :=
  bindings.filter (·.1 ≠ key)

def insert (bindings : Bindings κ α) (key : κ) (value : α) : Bindings κ α :=
  (key, value) :: bindings.erase key

theorem get?_cons (key other : κ) (value : α) (bindings : Bindings κ α) :
    get? ((key, value) :: bindings) other =
      if key = other then some value else get? bindings other := by
  by_cases same : key = other <;> simp [get?, same]

@[simp] theorem get?_insert_self (bindings : Bindings κ α) (key : κ) (value : α) :
    (bindings.insert key value).get? key = some value := by
  simp [insert, get?_cons]

theorem get?_erase_of_ne (bindings : Bindings κ α) {key other : κ} (distinct : other ≠ key) :
    (bindings.erase key).get? other = bindings.get? other := by
  induction bindings with
  | nil => rfl
  | cons binding others ih =>
    obtain ⟨bound, held⟩ := binding
    by_cases same : bound = key
    · subst same
      have skipped : ¬ bound = other := fun h => distinct h.symm
      simpa [erase, get?_cons, skipped] using ih
    · by_cases here : bound = other
      · subst here
        simp [erase, get?_cons, same]
      · simpa [erase, get?_cons, same, here] using ih

theorem get?_insert_of_ne (bindings : Bindings κ α) {key other : κ} (value : α)
    (distinct : other ≠ key) : (bindings.insert key value).get? other = bindings.get? other := by
  have skipped : ¬ key = other := fun h => distinct h.symm
  simp [insert, get?_cons, skipped, get?_erase_of_ne _ distinct]

end Bindings

end LineScript
