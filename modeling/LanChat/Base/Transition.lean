import Mathlib.Data.List.Basic

/-!
# Runs of a partial transition function

A system is a function `step : σ → α → Option σ`: an action is refused
(`none`) or leads to one next state. A `Run` is a list of accepted actions,
each of which meets a side condition `ok` in the state before it. Taking
`ok := fun _ _ => True` gives all runs. `Run.preserves` is the induction every
safety result uses: what each accepted action preserves holds at the end.
-/

namespace Transition

variable {σ α : Type*}

/-- `Run step ok s as t`: the actions `as` lead from `s` to `t`, and each of
them meets `ok` in the state it is taken from. -/
inductive Run (step : σ → α → Option σ) (ok : σ → α → Prop) : σ → List α → σ → Prop where
  | nil (s : σ) : Run step ok s [] s
  | cons {s t u : σ} {a : α} {as : List α} :
      ok s a → step s a = some t → Run step ok t as u → Run step ok s (a :: as) u

/-- No side condition on the actions of a run. -/
def anyAction (_ : σ) (_ : α) : Prop := True

/-- The state after a list of actions, `none` if one of them is refused or
fails the check of a side condition. -/
def exec (step : σ → α → Option σ) (check : σ → Bool) : σ → List α → Option σ
  | s, [] => some s
  | s, a :: as => if check s then (step s a).bind fun t => exec step check t as else none

/-- A transition function that refuses the actions which fail a check. -/
def guarded (step : σ → α → Option σ) (check : σ → α → Bool) (s : σ) (a : α) : Option σ :=
  if check s a then step s a else none

section
variable {step : σ → α → Option σ} {ok ok' : σ → α → Prop}

/-- **The run rule.** A property that every allowed step preserves holds at
the end of every run from a state that has it. -/
theorem Run.preserves {I : σ → Prop}
    (preserve : ∀ s a t, I s → ok s a → step s a = some t → I t)
    {s t : σ} {as : List α} (run : Run step ok s as t) (start : I s) : I t := by
  induction run with
  | nil => exact start
  | cons allowed taken _ ih => exact ih (preserve _ _ _ start allowed taken)

/-- Runs compose. -/
theorem Run.append {s t u : σ} {as bs : List α} (first : Run step ok s as t)
    (second : Run step ok t bs u) : Run step ok s (as ++ bs) u := by
  induction first with
  | nil => exact second
  | cons allowed taken _ ih => exact .cons allowed taken (ih second)

/-- A run extended by one more step. -/
theorem Run.snoc {s t u : σ} {as : List α} {a : α} (run : Run step ok s as t)
    (allowed : ok t a) (taken : step t a = some u) : Run step ok s (as ++ [a]) u :=
  run.append (.cons allowed taken (.nil u))

/-- A weaker side condition admits the same run. -/
theorem Run.mono (weaker : ∀ s a, ok s a → ok' s a) {s t : σ} {as : List α}
    (run : Run step ok s as t) : Run step ok' s as t := by
  induction run with
  | nil => exact .nil _
  | cons allowed taken _ ih => exact .cons (weaker _ _ allowed) taken ih

/-- A side condition that the actions meet by themselves. -/
theorem Run.of_actions {s t : σ} {as : List α} (run : Run step ok s as t)
    (meets : ∀ a ∈ as, ∀ s, ok' s a) : Run step ok' s as t := by
  induction run with
  | nil => exact .nil _
  | cons _ taken _ ih =>
    rw [List.forall_mem_cons] at meets
    exact .cons (meets.1 _) taken (ih meets.2)

/-- Executing the actions one after the other gives a run, whose side condition
the check implies. -/
theorem run_of_exec {check : σ → Bool} (sound : ∀ s a, check s = true → ok s a) {s t : σ}
    {as : List α} (h : exec step check s as = some t) : Run step ok s as t := by
  induction as generalizing s with
  | nil => cases h; exact .nil _
  | cons a as ih =>
    unfold exec at h
    split at h
    · rename_i passes
      obtain ⟨u, taken, rest⟩ := Option.bind_eq_some_iff.1 h
      exact .cons (sound s a passes) taken (ih rest)
    · cases h

/-- A list of actions that can be executed, and what a check finds at its end. -/
theorem exists_run {s : σ} (actions : List α) (check : σ → Bool)
    (h : (exec step (fun _ => true) s actions).any check = true) :
    ∃ t, Run step anyAction s actions t ∧ check t = true := by
  obtain ⟨t, ran, checked⟩ := (Option.any_eq_true ..).1 h
  exact ⟨t, run_of_exec (fun _ _ _ => trivial) ran, checked⟩

/-- **The simulation rule.** Where each allowed step of one system is matched by a run of another,
so is every run of allowed steps. -/
theorem Run.simulates {τ β : Type*} {step' : τ → β → Option τ} {ok'' : τ → β → Prop} {R : σ → τ → Prop}
    (simulate : ∀ s a t u, R s u → ok s a → step s a = some t →
      ∃ bs v, Run step' ok'' u bs v ∧ R t v)
    {s t : σ} {u : τ} {as : List α} (run : Run step ok s as t) (start : R s u) :
    ∃ bs v, Run step' ok'' u bs v ∧ R t v := by
  induction run generalizing u with
  | nil => exact ⟨[], u, .nil u, start⟩
  | cons allowed taken _ ih =>
    obtain ⟨bs, v, first, related⟩ := simulate _ _ _ _ start allowed taken
    obtain ⟨cs, v', second, related⟩ := ih related
    exact ⟨bs ++ cs, v', first.append second, related⟩

/-- A run of the actions that pass a check is a run, whose side condition the check implies. -/
theorem Run.of_guarded {check : σ → α → Bool} (sound : ∀ s a, check s a = true → ok s a) {s t : σ}
    {as : List α} (run : Run (guarded step check) ok' s as t) : Run step ok s as t := by
  induction run with
  | nil => exact .nil _
  | cons _ taken _ ih =>
    unfold guarded at taken
    split at taken
    · rename_i passes
      exact .cons (sound _ _ passes) taken ih
    · cases taken

end

end Transition
