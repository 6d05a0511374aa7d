import Mathlib.Data.List.Forall2

/-!
# Computations that may fail

What is known of the parts of an `Except` computation that returned: `?` in
sequence, and `collect` over a list. Where a computation carries a state, its
result may be seen through a view of that state (`through`), part by part.
-/

namespace Fallible

variable {ε : Type*} {α β : Type}

theorem bind_eq_ok {x : Except ε α} {f : α → Except ε β} {b : β} :
    x >>= f = .ok b ↔ ∃ a, x = .ok a ∧ f a = .ok b := by
  cases x with
  | error e => exact ⟨nofun, nofun⟩
  | ok a => exact ⟨fun h => ⟨a, rfl, h⟩, fun ⟨_, rfl, h⟩ => h⟩

theorem ok_bind (a : α) (f : α → Except ε β) : (Except.ok a >>= f) = f a := rfl

theorem forall₂_of_mapM {f : α → Except ε β} {as : List α} {bs : List β}
    (h : as.mapM f = .ok bs) : List.Forall₂ (fun a b => f a = .ok b) as bs := by
  induction as generalizing bs with
  | nil =>
    cases h
    exact .nil
  | cons a as ih =>
    rw [List.mapM_cons] at h
    obtain ⟨b, head, h⟩ := bind_eq_ok.1 h
    obtain ⟨rest, tail, h⟩ := bind_eq_ok.1 h
    cases h
    exact .cons head (ih tail)

/-! ## A view of the state -/

section
variable {σ τ : Type} {view : σ → τ}

/-- A result with its state, which is seen through a view. -/
def through (view : σ → τ) (result : Except ε (α × σ)) : Except ε (α × τ) :=
  result.map fun success => (success.1, view success.2)

@[simp] theorem through_ok (a : α) (s : σ) : through view (.ok (a, s) : Except ε (α × σ)) = .ok (a, view s) := rfl

@[simp] theorem through_error (error : ε) : through view (.error error : Except ε (α × σ)) = .error error := rfl

/-- A computation that goes on with the state of its first part. -/
theorem bind_view {x : Except ε τ} {y : Except ε σ} {f : τ → Except ε (α × τ)} {k : σ → Except ε (α × σ)}
    (first : x = y.map view) (rest : ∀ s, y = .ok s → f (view s) = through view (k s)) :
    (x >>= f) = through view (y >>= k) := by
  subst first
  cases y with
  | error e => rfl
  | ok s => exact rest s rfl

/-- A computation that goes on with the value and the state of its first part. -/
theorem bind_through {x : Except ε (β × τ)} {y : Except ε (β × σ)} {f : β × τ → Except ε (α × τ)}
    {k : β × σ → Except ε (α × σ)} (first : x = through view y)
    (rest : ∀ b s, y = .ok (b, s) → f (b, view s) = through view (k (b, s))) :
    (x >>= f) = through view (y >>= k) := by
  subst first
  cases y with
  | error e => rfl
  | ok success => exact rest success.1 success.2 rfl

/-- A computation whose first part does not touch the state. -/
theorem bind_same {x : Except ε β} {f : β → Except ε (α × τ)} {k : β → Except ε (α × σ)}
    (rest : ∀ b, x = .ok b → f b = through view (k b)) : (x >>= f) = through view (x >>= k) := by
  cases x with
  | error e => rfl
  | ok b => exact rest b rfl

end

end Fallible
