import Mathlib.Logic.Basic

/-!
# Computations that can fail

The outcome of a computation in `Except` tells those of its steps: it succeeds only if each step
does, and its error is that of the first step that fails. A list that is read item by item fails at
its first item that cannot be read.
-/

namespace Except

variable {ε α β : Type}

theorem ok_bind (a : α) (next : α → Except ε β) : (ok a >>= next) = next a := rfl

theorem error_bind (error : ε) (next : α → Except ε β) :
    (Except.error error >>= next) = .error error := rfl

theorem bind_eq_ok {first : Except ε α} {next : α → Except ε β} {b : β} :
    (first >>= next) = .ok b ↔ ∃ a, first = .ok a ∧ next a = .ok b := by
  cases first with
  | error error => simp [error_bind]
  | ok a => simp [ok_bind]

theorem bind_eq_error {first : Except ε α} {next : α → Except ε β} {error : ε} :
    (first >>= next) = .error error ↔
      first = .error error ∨ ∃ a, first = .ok a ∧ next a = .error error := by
  cases first with
  | error cause => simp [error_bind]
  | ok a => simp [ok_bind]

theorem map_eq_ok {first : Except ε α} {f : α → β} {b : β} :
    first.map f = .ok b ↔ ∃ a, first = .ok a ∧ f a = b := by
  cases first <;> simp [Except.map]

theorem map_eq_error {first : Except ε α} {f : α → β} {error : ε} :
    first.map f = .error error ↔ first = .error error := by
  cases first <;> simp [Except.map]

/-! ### Lists read item by item -/

variable {read : α → Except ε β} {items : List α} {error : ε}

theorem mapM_eq_error_iff :
    items.mapM read = .error error ↔ ∃ front item back, items = front ++ item :: back ∧
      read item = .error error ∧ ∀ earlier ∈ front, ∃ result, read earlier = .ok result := by
  constructor
  · intro fails
    induction items with
    | nil => cases fails
    | cons first rest ih =>
      rw [List.mapM_cons] at fails
      rcases bind_eq_error.mp fails with head | ⟨result, head, fails⟩
      · exact ⟨[], first, rest, rfl, head, List.forall_mem_nil _⟩
      · rcases bind_eq_error.mp fails with tail | ⟨results, -, fails⟩
        · obtain ⟨front, item, back, rfl, fails, accepted⟩ := ih tail
          exact ⟨first :: front, item, back, rfl, fails,
            List.forall_mem_cons.mpr ⟨⟨result, head⟩, accepted⟩⟩
        · cases fails
  · rintro ⟨front, item, back, rfl, fails, accepted⟩
    induction front with
    | nil => rw [List.nil_append, List.mapM_cons, fails, error_bind]
    | cons first front ih =>
      obtain ⟨⟨result, head⟩, later⟩ := List.forall_mem_cons.mp accepted
      rw [List.cons_append, List.mapM_cons, head, ih later, ok_bind, error_bind]

theorem exists_mapM_eq_error {item : α} (member : item ∈ items)
    (fails : read item = .error error) : ∃ first, items.mapM read = .error first := by
  induction items with
  | nil => cases member
  | cons head rest ih =>
    rw [List.mapM_cons]
    cases reads : read head with
    | error cause => exact ⟨cause, error_bind cause _⟩
    | ok result =>
      rcases List.mem_cons.mp member with rfl | later
      · cases fails.symm.trans reads
      · obtain ⟨first, fails⟩ := ih later
        exact ⟨first, by rw [fails, ok_bind, error_bind]⟩

end Except
