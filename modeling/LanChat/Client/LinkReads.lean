import LanChat.Client.OneLink

/-!
# What a link task has read

`link_io` reads in one branch of a `tokio::select!` and takes what its hub hands it
in the other. When it writes while it holds part of a frame, the read is dropped
with the bytes it has taken, and from then on the task reads off the frame
boundaries. The pair of clients with where each link task stands; without a
dropped read it behaves as the pair does with frames that are read whole.
-/

namespace LanChat

open Transition

/-- Where a link task stands: between two frames, inside the next one, or off the frame
boundaries. -/
inductive ReadPoint where
  | between
  | inside
  | astray
deriving DecidableEq, Repr

/-- The select takes its other branch. -/
def ReadPoint.dropped : ReadPoint → ReadPoint
  | between => between
  | inside | astray => astray

structure LinkWorld extends World where
  reading : ℕ → Side → ReadPoint

/-- `begin`: the first bytes of a frame are taken. A task that is astray takes frames for a part of
what it waits for (`swallow`) until something it has read fails (`fail`). -/
inductive LinkAction where
  | pair (action : PairAction)
  | begin (c : ℕ) (s : Side)
  | swallow (c : ℕ) (s : Side)
  | fail (c : ℕ) (s : Side)
deriving DecidableEq, Repr

namespace LinkWorld

variable (duo : Duo) (v : LinkWorld)

def mark (c : ℕ) (s : Side) (point : ReadPoint) : LinkWorld :=
  { v with reading := Function.update v.reading c (Function.update (v.reading c) s point) }

@[simp] theorem mark_toWorld (c : ℕ) (s : Side) (point : ReadPoint) :
    (v.mark c s point).toWorld = v.toWorld := rfl

/-- The running link task at `s` of a connection, at one point of its reading. -/
def task (c : ℕ) (s : Side) (point : ReadPoint) : Option Connection :=
  v.connections[c]?.filter fun k => (k.ends s).state = .running ∧ v.reading c s = point

def step (v : LinkWorld) : LinkAction → Option LinkWorld
  | .pair (.read c s) =>
    if v.reading c s = .astray then none
    else (v.toWorld.step duo (.read c s)).map fun w => (mk w v.reading).mark c s .between
  | .pair (.write c s) =>
    (v.toWorld.step duo (.write c s)).map fun w => (mk w v.reading).mark c s (v.reading c s).dropped
  | .pair action => (v.toWorld.step duo action).map fun w => mk w v.reading
  | .begin c s => do
    let k ← v.task c s .between
    if k.wire s = [] then none
    return v.mark c s .inside
  | .swallow c s => do
    let k ← v.task c s .astray
    let rest ← (k.wire s).tail?
    return mk (v.toWorld.setConnection c (k.setWire s rest)) v.reading
  | .fail c s => do
    let k ← v.task c s .astray
    return mk ((v.toWorld.setConnection c (k.close s)).post s
      (.disconnected (k.ends s).linkId (duo.session s.other))) v.reading

/-- No link task writes while it holds part of a frame. -/
def Untorn : LinkAction → Prop
  | .pair (.write c s) => v.reading c s ≠ .inside
  | _ => True

instance : (action : LinkAction) → Decidable (v.Untorn action)
  | .pair (.write c s) => inferInstanceAs (Decidable (v.reading c s ≠ .inside))
  | .pair (.send ..) | .pair (.take _) | .pair (.report _) | .pair (.accept ..) | .pair (.read ..)
  | .pair (.stop ..) | .begin .. | .swallow .. | .fail .. => inferInstanceAs (Decidable True)

/-- No link task is off the frame boundaries. -/
def InStep : Prop := ∀ c s, v.reading c s ≠ .astray

section
variable {duo v} {v' : LinkWorld} {action : LinkAction} {c : ℕ} {s : Side} {point : ReadPoint}

theorem InStep.mark (inStep : v.InStep) (point_ne : point ≠ .astray) : (v.mark c s point).InStep := by
  intro d t
  by_cases same : d = c
  · subst same
    by_cases own : t = s
    · subst own
      simpa [LinkWorld.mark] using point_ne
    · simpa [LinkWorld.mark, Function.update_of_ne own] using inStep d t
  · simpa [LinkWorld.mark, Function.update_of_ne same] using inStep d t

theorem InStep.no_task (inStep : v.InStep) : v.task c s .astray = none := by
  simp [task, inStep c s]

/-- **A frame at a time.** Where no read is dropped, a step of the link tasks and hubs is a step of
the pair of clients, or changes nothing of it. -/
theorem step_pair (h : v.step duo action = some v') (untorn : v.Untorn action) (inStep : v.InStep) :
    v'.InStep ∧ (v'.toWorld = v.toWorld ∨
      ∃ pair, action = .pair pair ∧ v.toWorld.step duo pair = some v'.toWorld) := by
  cases action with
  | begin c s =>
    simp only [step, bind, Option.bind_eq_some_iff] at h
    obtain ⟨k, -, h⟩ := h
    split at h
    · cases h
    · cases h
      exact ⟨inStep.mark nofun, .inl rfl⟩
  | swallow c s => simp [step, inStep.no_task] at h
  | fail c s => simp [step, inStep.no_task] at h
  | pair action =>
    have inside : ∀ w, (mk w v.reading).InStep := fun _ => inStep
    cases action with
    | read c s =>
      simp only [step, if_neg (inStep c s)] at h
      obtain ⟨w, taken, rfl⟩ := Option.map_eq_some_iff.1 h
      exact ⟨(inside w).mark nofun, .inr ⟨_, rfl, taken⟩⟩
    | write c s =>
      obtain ⟨w, taken, rfl⟩ := Option.map_eq_some_iff.1 h
      refine ⟨(inside w).mark ?_, .inr ⟨_, rfl, taken⟩⟩
      -- the task stands between two frames, where its read has taken nothing yet
      cases point : v.reading c s with
      | between => nofun
      | inside => exact absurd point untorn
      | astray => exact absurd point (inStep c s)
    | send | take | report | accept | stop =>
      obtain ⟨w, taken, rfl⟩ := Option.map_eq_some_iff.1 h
      exact ⟨inside w, .inr ⟨_, rfl, taken⟩⟩

/-- A run in which no read is dropped is a run of the pair of clients, whose actions meet a side
condition that its own actions meet. -/
theorem pair_run {ok : World → PairAction → Prop} {actions : List LinkAction} {start : LinkWorld}
    (run : Run (step duo) (fun v action => v.Untorn action ∧
      ∀ pair, action = .pair pair → ok v.toWorld pair) start actions v) (inStep : start.InStep) :
    ∃ pairs, Run (World.step duo) ok start.toWorld pairs v.toWorld := by
  obtain ⟨pairs, w, ran, -, rfl⟩ : ∃ pairs w, Run (World.step duo) ok start.toWorld pairs w ∧
      v.InStep ∧ v.toWorld = w := run.simulates (R := fun v w => v.InStep ∧ v.toWorld = w)
    (fun v action v' w ⟨inStep, same⟩ ⟨untorn, allowed⟩ h => by
      subst same
      obtain ⟨inStep', unseen | ⟨pair, rfl, taken⟩⟩ := step_pair h untorn inStep
      · exact ⟨[], v.toWorld, .nil _, inStep', unseen⟩
      · exact ⟨[pair], v'.toWorld, .cons (allowed pair rfl) taken (.nil _), inStep', rfl⟩)
    ⟨inStep, rfl⟩
  exact ⟨pairs, ran⟩

end

end LinkWorld

end LanChat
