import LanChat.Base.Transition

/-!
# What a run sends

Steps of a system that send items to readers. An item is known under its key, waits for
some steps and is then sent (`Dispatches`). Over a run every item that became known is sent
or still waiting, none is sent twice, and a reader that appends what each step sends has
appended what the run sends (`sentOver`): all such readers have the same items in the
same order.
-/

namespace Transition

variable {σ α ι κ : Type*}

/-- Everything the actions send, in order. -/
def sentOver (step : σ → α → Option σ) (sends : σ → α → Option ι) : σ → List α → List ι
  | _, [] => []
  | s, a :: as => (sends s a).toList ++ ((step s a).elim [] fun t => sentOver step sends t as)

section
variable {step : σ → α → Option σ} {ok : σ → α → Prop} {sends : σ → α → Option ι}
variable {s t : σ} {a : α} {as bs : List α} {x y : ι}

theorem sentOver_cons (taken : step s a = some t) :
    sentOver step sends s (a :: as) = (sends s a).toList ++ sentOver step sends t as := by
  rw [sentOver, taken]
  rfl

theorem mem_sentOver_cons (taken : step s a = some t) :
    x ∈ sentOver step sends s (a :: as) ↔ sends s a = some x ∨ x ∈ sentOver step sends t as := by
  rw [sentOver_cons taken, List.mem_append, Option.mem_toList]

/-- What holds of all that a step can send holds of all that a run sends. -/
theorem forall_sentOver {P : ι → Prop} (each : ∀ s a x, sends s a = some x → P x) :
    ∀ x ∈ sentOver step sends s as, P x := by
  induction as generalizing s with
  | nil => simp [sentOver]
  | cons a as ih =>
    intro x sent
    rcases List.mem_append.1 sent with now | later
    · exact each s a x (Option.mem_toList.1 now)
    · cases taken : step s a with
      | none =>
        rw [taken] at later
        cases later
      | some t =>
        rw [taken] at later
        exact ih x later

theorem Run.sentOver_append (run : Run step ok s as t) :
    sentOver step sends s (as ++ bs) = sentOver step sends s as ++ sentOver step sends t bs := by
  induction run with
  | nil => rfl
  | cons _ taken _ ih => rw [List.cons_append, sentOver_cons taken, sentOver_cons taken, ih, List.append_assoc]

/-- An invariant may join the side condition. -/
theorem Run.within {I : σ → Prop} (preserve : ∀ s a t, I s → ok s a → step s a = some t → I t)
    (run : Run step ok s as t) (start : I s) : Run step (fun s a => ok s a ∧ I s) s as t := by
  induction run with
  | nil => exact .nil _
  | cons allowed taken _ ih => exact .cons ⟨allowed, start⟩ taken (ih (preserve _ _ _ start allowed taken))

/-- **A reader** that appends what each step sends has appended what the run sends. -/
theorem Run.read {Reads : σ → List ι → Prop}
    (reads : ∀ s a t log', ok s a → step s a = some t → Reads t log' →
      ∃ log, Reads s log ∧ log' = log ++ (sends s a).toList)
    (run : Run step ok s as t) {log' : List ι} (now : Reads t log') :
    ∃ log, Reads s log ∧ log' = log ++ sentOver step sends s as := by
  induction run with
  | nil => exact ⟨log', now, (List.append_nil _).symm⟩
  | cons allowed taken _ ih =>
    obtain ⟨later, then', rfl⟩ := ih now
    obtain ⟨log, before, rfl⟩ := reads _ _ _ _ allowed taken then'
    exact ⟨log, before, by rw [sentOver_cons taken, List.append_assoc]⟩

/-- Items that are known, wait, and are then sent. -/
structure Dispatches (step : σ → α → Option σ) (ok : σ → α → Prop) (sends : σ → α → Option ι)
    (key : ι → κ) (known : σ → κ → Prop) (waiting : σ → ι → Prop) : Prop where
  /-- What is known stays known, and what waits is known. -/
  keeps {s t : σ} {a : α} {k : κ} (allowed : ok s a) (taken : step s a = some t) : known s k → known t k
  waited {s : σ} {a : α} {x : ι} (allowed : ok s a) : waiting s x → known s (key x)
  /-- What becomes known waits, under a key that is new. -/
  arrives {s t : σ} {a : α} {k : κ} (allowed : ok s a) (taken : step s a = some t) :
    known t k → known s k ∨ ∃ x, waiting t x ∧ key x = k
  fresh {s t : σ} {a : α} {x : ι} (allowed : ok s a) (taken : step s a = some t) :
    waiting t x → waiting s x ∨ ¬ known s (key x)
  /-- What waits goes on waiting until it is sent, and is sent once. -/
  leaves {s t : σ} {a : α} {x : ι} (allowed : ok s a) (taken : step s a = some t) :
    waiting s x → waiting t x ∨ sends s a = some x
  sent {s t : σ} {a : α} {x : ι} (allowed : ok s a) (taken : step s a = some t) : sends s a = some x → waiting s x
  once {s t : σ} {a : α} {x y : ι} (allowed : ok s a) (taken : step s a = some t) :
    sends s a = some x → waiting t y → key y ≠ key x

namespace Dispatches

variable {key : ι → κ} {known : σ → κ → Prop} {waiting : σ → ι → Prop} {k : κ}
variable (dispatches : Dispatches step ok sends key known waiting)
include dispatches

theorem waits_until_sent (run : Run step ok s as t) (waits : waiting s x) :
    waiting t x ∨ x ∈ sentOver step sends s as := by
  induction run with
  | nil => exact .inl waits
  | cons allowed taken _ ih =>
    rw [mem_sentOver_cons taken]
    rcases dispatches.leaves allowed taken waits with still | now
    · exact (ih still).imp_right .inr
    · exact .inr (.inl now)

/-- **Nothing is lost.** What became known in a run is waiting or was sent. -/
theorem complete (run : Run step ok s as t) (now : known t k) (notBefore : ¬ known s k) :
    ∃ x, key x = k ∧ (waiting t x ∨ x ∈ sentOver step sends s as) := by
  induction run with
  | nil => exact absurd now notBefore
  | @cons s u t a as allowed taken rest ih =>
    by_cases soon : known u k
    · rcases dispatches.arrives allowed taken soon with before | ⟨x, waits, same⟩
      · exact absurd before notBefore
      · refine ⟨x, same, (dispatches.waits_until_sent rest waits).imp_right fun sent => ?_⟩
        exact (mem_sentOver_cons taken).2 (.inr sent)
    · obtain ⟨x, same, done⟩ := ih now soon
      exact ⟨x, same, done.imp_right fun sent => (mem_sentOver_cons taken).2 (.inr sent)⟩

/-- What is sent was waiting or became known on the way. -/
theorem origin (run : Run step ok s as t) (sent : x ∈ sentOver step sends s as) :
    known t (key x) ∧ (waiting s x ∨ ¬ known s (key x)) := by
  induction run with
  | nil => cases sent
  | cons allowed taken rest ih =>
    have stays : ∀ {u v : σ} {cs : List α}, Run step ok u cs v → known u (key x) → known v (key x) := by
      intro u v cs run before
      induction run with
      | nil => exact before
      | cons allowed taken _ ih => exact ih (dispatches.keeps allowed taken before)
    rcases (mem_sentOver_cons taken).1 sent with now | later
    · have waits := dispatches.sent allowed taken now
      exact ⟨stays rest (dispatches.keeps allowed taken (dispatches.waited allowed waits)), .inl waits⟩
    · obtain ⟨known, waits | new⟩ := ih later
      · exact ⟨known, dispatches.fresh allowed taken waits⟩
      · exact ⟨known, .inr fun before => new (dispatches.keeps allowed taken before)⟩

/-- **Nothing is sent twice.** -/
theorem nodup (run : Run step ok s as t) : ((sentOver step sends s as).map key).Nodup := by
  induction run with
  | nil => exact List.nodup_nil
  | @cons s u t a as allowed taken rest ih =>
    rw [sentOver_cons taken]
    cases now : sends s a with
    | none => exact ih
    | some x =>
      rw [Option.toList_some, List.singleton_append, List.map_cons, List.nodup_cons]
      refine ⟨fun again => ?_, ih⟩
      obtain ⟨y, sent, same⟩ := List.mem_map.1 again
      rcases (dispatches.origin rest sent).2 with waits | new
      · exact dispatches.once allowed taken now waits same
      · rw [same] at new
        exact new (dispatches.keeps allowed taken (dispatches.waited allowed (dispatches.sent allowed taken now)))

end Dispatches

end

end Transition
