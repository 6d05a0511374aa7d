import LanChat.Base.Transition

/-!
# Noninterference by unwinding

Some actions of a system are hidden from an observer. An unwinding relates the states of two
runs that the observer cannot tell apart: a hidden action of the first run keeps them related,
and any other is matched by the same action of the second. Then the second run can do
without the hidden actions (`Unwinding.purged`): the observer learns nothing of them.
-/

namespace Transition

variable {σ α : Type*}

/-- The actions that are not hidden, in order. -/
def purge (hidden : α → Bool) (actions : List α) : List α := actions.filter fun action => !hidden action

theorem purge_hidden {hidden : α → Bool} {action : α} (isHidden : hidden action = true) (actions : List α) :
    purge hidden (action :: actions) = purge hidden actions :=
  List.filter_cons_of_neg (by simp [isHidden])

theorem purge_shown {hidden : α → Bool} {action : α} (isShown : hidden action = false) (actions : List α) :
    purge hidden (action :: actions) = action :: purge hidden actions :=
  List.filter_cons_of_pos (by simp [isShown])

/-- Related states stay related when the first takes a hidden action alone, and when both take one that is shown. -/
structure Unwinding (step : σ → α → Option σ) (ok : σ → α → Prop) (hidden : α → Bool) (Related : σ → σ → Prop) :
    Prop where
  unseen : ∀ {s s' t : σ} {action : α}, Related s s' → ok s action → hidden action = true →
    step s action = some t → Related t s'
  matched : ∀ {s s' t : σ} {action : α}, Related s s' → ok s action → hidden action = false →
    step s action = some t → ∃ t', step s' action = some t' ∧ Related t t'

/-- **The purged run.** Without the hidden actions the same run is possible from a related state,
and it ends in a related state. -/
theorem Unwinding.purged {step : σ → α → Option σ} {ok : σ → α → Prop} {hidden : α → Bool}
    {Related : σ → σ → Prop} (unwinding : Unwinding step ok hidden Related) {s s' t : σ} {actions : List α}
    (run : Run step ok s actions t) (related : Related s s') :
    ∃ t', Run step anyAction s' (purge hidden actions) t' ∧ Related t t' := by
  induction run generalizing s' with
  | nil s => exact ⟨s', .nil s', related⟩
  | @cons s u t action actions allowed taken _ ih =>
    cases isHidden : hidden action with
    | true =>
      obtain ⟨t', rest, ends⟩ := ih (unwinding.unseen related allowed isHidden taken)
      exact ⟨t', by rwa [purge_hidden isHidden], ends⟩
    | false =>
      obtain ⟨u', step', related'⟩ := unwinding.matched related allowed isHidden taken
      obtain ⟨t', rest, ends⟩ := ih related'
      exact ⟨t', by rw [purge_shown isHidden]; exact .cons trivial step' rest, ends⟩

end Transition
