import LanChat.Server.Gateway

/-!
# The rate limiter

`FixedWindowRateLimiter` and the session loop that it drives. Instants are
nanoseconds, and both readings of the clock in one call are the instant at which
the message arrives. The number of calls in a window is a `u32`, which wraps.
-/

namespace LanChat

/-- One second. -/
def second : ℕ := 1000000000

structure FixedWindowRateLimiter where
  windowStarted : ℕ
  used : UInt32
deriving DecidableEq

namespace FixedWindowRateLimiter

def new (now : ℕ) : FixedWindowRateLimiter := ⟨now, 0⟩

def allow (limiter : FixedWindowRateLimiter) (now : ℕ) : Bool × FixedWindowRateLimiter :=
  let limiter : FixedWindowRateLimiter :=
    if second ≤ now - limiter.windowStarted then ⟨now, 0⟩ else limiter
  let used := limiter.used + 1
  (used.toNat ≤ maxClientMessagesPerSecond, { limiter with used })

/-- The arrivals with their answers. -/
def decisions (limiter : FixedWindowRateLimiter) : List ℕ → List (ℕ × Bool)
  | [] => []
  | now :: later => (now, (limiter.allow now).1) :: (limiter.allow now).2.decisions later

end FixedWindowRateLimiter

/-- An allowed message of an interval. -/
def allowedIn (a b : ℕ) (decision : ℕ × Bool) : Bool :=
  decision.2 && decide (a ≤ decision.1) && decide (decision.1 ≤ b)

/-- An interval of one second has at most twice the limit allowed, and a message is refused only
after the limit was allowed in the second before it. -/
structure RateBounded (decisions : List (ℕ × Bool)) : Prop where
  interval : ∀ a b, b ≤ a + second → decisions.countP (allowedIn a b) ≤ 2 * maxClientMessagesPerSecond
  refusals : ∀ before now after, decisions = before ++ (now, false) :: after →
    maxClientMessagesPerSecond ≤ before.countP fun d => d.2 && decide (now < d.1 + second)

/-! ## Windows that do not wrap -/

/-- The limiter with a counter that has no bound. -/
structure RateWindow where
  started : ℕ
  used : ℕ

namespace RateWindow

def allow (window : RateWindow) (now : ℕ) : Bool × RateWindow :=
  let window : RateWindow := if second ≤ now - window.started then ⟨now, 0⟩ else window
  (window.used + 1 ≤ maxClientMessagesPerSecond, { window with used := window.used + 1 })

def decisions (window : RateWindow) : List ℕ → List (ℕ × Bool)
  | [] => []
  | now :: later => (now, (window.allow now).1) :: (window.allow now).2.decisions later

variable {window : RateWindow} {arrivals : List ℕ} {a b now : ℕ}

/-- What a call can be: the first of a window, or one more of it. -/
theorem allow_cases (window : RateWindow) (now : ℕ) :
    (window.started + second ≤ now ∧ window.allow now = (true, ⟨now, 1⟩)) ∨
    (now < window.started + second ∧ window.used < maxClientMessagesPerSecond ∧
      window.allow now = (true, ⟨window.started, window.used + 1⟩)) ∨
    (now < window.started + second ∧ maxClientMessagesPerSecond ≤ window.used ∧
      window.allow now = (false, ⟨window.started, window.used + 1⟩)) := by
  have positive : 0 < second := by decide
  by_cases expired : second ≤ now - window.started
  · refine .inl ⟨by omega, ?_⟩
    simp only [allow, expired, if_true]
    rfl
  · by_cases room : window.used < maxClientMessagesPerSecond
    · refine .inr (.inl ⟨by omega, room, ?_⟩)
      simp only [allow, expired, if_false, Nat.succ_le_iff.2 room, decide_true]
    · refine .inr (.inr ⟨by omega, by omega, ?_⟩)
      have full : ¬ window.used + 1 ≤ maxClientMessagesPerSecond := by omega
      simp only [allow, expired, if_false, full, decide_false]

/-- How many messages of an interval are still to be allowed, by where the interval ends: a
window gives what is left of it, and the interval reaches into two windows at most. -/
structure Budget (window : RateWindow) (a b n : ℕ) : Prop where
  before : b < window.started → n = 0
  inside : b < window.started + second → n ≤ maxClientMessagesPerSecond - window.used
  next : b < window.started + 2 * second →
    n ≤ maxClientMessagesPerSecond - window.used + maxClientMessagesPerSecond
  always : n ≤ 2 * maxClientMessagesPerSecond

theorem budget (short : b ≤ a + second) (later : ∀ now ∈ arrivals, window.started ≤ now)
    (sorted : arrivals.Pairwise (· ≤ ·)) :
    window.Budget a b ((window.decisions arrivals).countP (allowedIn a b)) := by
  induction arrivals generalizing window with
  | nil => exact ⟨fun _ => rfl, fun _ => Nat.zero_le _, fun _ => Nat.zero_le _, Nat.zero_le _⟩
  | cons now arrivals ih =>
    obtain ⟨started, later⟩ := List.forall_mem_cons.1 later
    obtain ⟨first, sorted⟩ := List.pairwise_cons.1 sorted
    have limit : maxClientMessagesPerSecond = 24 := rfl
    have positive : 0 < second := by decide
    rw [decisions, List.countP_cons]
    obtain ⟨expired, allowed⟩ | ⟨inWindow, room, allowed⟩ | ⟨inWindow, full, refused⟩ :=
      window.allow_cases now
    · rw [allowed]
      obtain ⟨before, inside, next, always⟩ := @ih ⟨now, 1⟩ first sorted
      dsimp only at before inside next
      have counts : allowedIn a b (now, true) = true ↔ a ≤ now ∧ now ≤ b := by simp [allowedIn]
      simp only [counts] at *
      constructor <;> intros <;> split <;> omega
    · rw [allowed]
      obtain ⟨before, inside, next, always⟩ := @ih ⟨window.started, window.used + 1⟩ later sorted
      dsimp only at before inside next
      have counts : allowedIn a b (now, true) = true ↔ a ≤ now ∧ now ≤ b := by simp [allowedIn]
      simp only [counts] at *
      constructor <;> intros <;> split <;> omega
    · rw [refused]
      obtain ⟨before, inside, next, always⟩ := @ih ⟨window.started, window.used + 1⟩ later sorted
      dsimp only at before inside next
      have none : allowedIn a b (now, false) = false := rfl
      simp only [none] at *
      constructor <;> intros <;> simp only [Bool.false_eq_true, if_false] <;> omega

/-- **A refusal has a reason**: as many messages as the limit were allowed in the second before
it. `past` are the decisions before these. -/
theorem refused {past before after : List (ℕ × Bool)}
    (held : min window.used maxClientMessagesPerSecond ≤
      past.countP fun d => d.2 && decide (window.started ≤ d.1))
    (later : ∀ now ∈ arrivals, window.started ≤ now)
    (sorted : arrivals.Pairwise (· ≤ ·))
    (h : window.decisions arrivals = before ++ (now, false) :: after) :
    maxClientMessagesPerSecond ≤ (past ++ before).countP fun d => d.2 && decide (now < d.1 + second) := by
  induction arrivals generalizing window past before with
  | nil =>
    rw [decisions] at h
    cases before <;> cases h
  | cons first arrivals ih =>
    obtain ⟨started, later⟩ := List.forall_mem_cons.1 later
    obtain ⟨least, sorted⟩ := List.pairwise_cons.1 sorted
    rw [decisions] at h
    cases before with
    | nil =>
      obtain ⟨decided, -⟩ := List.cons.inj h
      obtain ⟨rfl, answer⟩ := Prod.mk.inj decided
      obtain ⟨-, allowed⟩ | ⟨-, -, allowed⟩ | ⟨inWindow, full, -⟩ := window.allow_cases first
      · rw [allowed] at answer
        cases answer
      · rw [allowed] at answer
        cases answer
      · rw [List.append_nil]
        rw [Nat.min_eq_right full] at held
        refine held.trans (List.countP_mono_left fun d _ counted => ?_)
        simp only [Bool.and_eq_true, decide_eq_true_eq] at counted ⊢
        exact ⟨counted.1, by omega⟩
    | cons decision before =>
      obtain ⟨rfl, rest⟩ := List.cons.inj h
      rw [List.append_cons]
      obtain ⟨expired, allowed⟩ | ⟨inWindow, room, allowed⟩ | ⟨inWindow, full, refused⟩ :=
        window.allow_cases first
      · rw [allowed] at rest ⊢
        refine @ih ⟨first, 1⟩ _ _ ?_ least sorted rest
        simp
      · rw [allowed] at rest ⊢
        refine @ih ⟨window.started, window.used + 1⟩ _ _ ?_ later sorted rest
        simp only [List.countP_append, List.countP_singleton, started, decide_true, Bool.and_self, if_true]
        omega
      · rw [refused] at rest ⊢
        refine @ih ⟨window.started, window.used + 1⟩ _ _ ?_ later sorted rest
        simp only [List.countP_append, List.countP_singleton, Bool.false_and, Bool.false_eq_true,
          if_false]
        omega

theorem bounded_new {start : ℕ} (sorted : (start :: arrivals).Pairwise (· ≤ ·)) :
    RateBounded (RateWindow.decisions ⟨start, 0⟩ arrivals) := by
  obtain ⟨later, sorted⟩ := List.pairwise_cons.1 sorted
  refine ⟨fun a b short => (budget short later sorted).always, fun before now after h => ?_⟩
  exact @refused ⟨start, 0⟩ arrivals now [] before after (Nat.zero_le _) later sorted h

end RateWindow

namespace FixedWindowRateLimiter

variable {limiter : FixedWindowRateLimiter} {arrivals : List ℕ}

/-- The arrivals in the second from `start` on. -/
def arrivalsFrom (start : ℕ) (arrivals : List ℕ) : ℕ :=
  arrivals.countP fun now => decide (start ≤ now) && decide (now < start + second)

/-- Fewer messages in any second than the counter can count. -/
def NoFlood (arrivals : List ℕ) : Prop := ∀ start, arrivalsFrom start arrivals < 2 ^ 32

/-- The window of a limiter. -/
def window (limiter : FixedWindowRateLimiter) : RateWindow := ⟨limiter.windowStarted, limiter.used.toNat⟩

/-- While the counter does not wrap, it counts. -/
theorem allow_window {now : ℕ}
    (few : limiter.window.started + second ≤ now ∨ limiter.window.used + 1 < 2 ^ 32) :
    (limiter.allow now).1 = (limiter.window.allow now).1 ∧
      (limiter.allow now).2.window = (limiter.window.allow now).2 := by
  by_cases expired : second ≤ now - limiter.windowStarted
  · simp only [allow, window, RateWindow.allow, expired, if_true]
    exact ⟨rfl, rfl⟩
  · have counts : (limiter.used + 1).toNat = limiter.used.toNat + 1 := by
      have positive : 0 < second := by decide
      have one : (1 : UInt32).toNat = 1 := rfl
      rw [UInt32.toNat_add, one]
      simp only [window] at few
      exact Nat.mod_eq_of_lt (by omega)
    simp only [allow, window, RateWindow.allow, expired, if_false, counts]
    exact ⟨trivial, trivial⟩

theorem decisions_window (few : limiter.window.used + arrivalsFrom limiter.window.started arrivals < 2 ^ 32)
    (later : ∀ now ∈ arrivals, limiter.window.started ≤ now) (sorted : arrivals.Pairwise (· ≤ ·))
    (noFlood : NoFlood arrivals) : limiter.decisions arrivals = limiter.window.decisions arrivals := by
  induction arrivals generalizing limiter with
  | nil => rfl
  | cons now arrivals ih =>
    obtain ⟨started, later⟩ := List.forall_mem_cons.1 later
    obtain ⟨least, sorted⟩ := List.pairwise_cons.1 sorted
    have fewer : NoFlood arrivals := fun start =>
      ((List.sublist_cons_self now arrivals).countP_le).trans_lt (noFlood start)
    have counted : ∀ start ≤ now, now < start + second →
        arrivalsFrom start (now :: arrivals) = arrivalsFrom start arrivals + 1 := by
      intro start low high
      rw [arrivalsFrom, List.countP_cons_of_pos (by simp [low, high]), arrivalsFrom]
    have positive : 0 < second := by decide
    -- the window after the call has room for the arrivals that are left in it
    have next : (limiter.allow now).1 = (limiter.window.allow now).1 ∧
        (limiter.allow now).2.window = (limiter.window.allow now).2 ∧
        (limiter.window.allow now).2.used + arrivalsFrom (limiter.window.allow now).2.started arrivals <
          2 ^ 32 ∧ ∀ t ∈ arrivals, (limiter.window.allow now).2.started ≤ t := by
      obtain ⟨expired, allowed⟩ | ⟨inWindow, -, allowed⟩ | ⟨inWindow, -, allowed⟩ :=
        limiter.window.allow_cases now
      · obtain ⟨answer, window⟩ := allow_window (.inl expired)
        have flood := noFlood now
        have here := counted now le_rfl (by omega)
        rw [allowed] at answer window ⊢
        exact ⟨answer, window, by simp only; omega, least⟩
      all_goals
        have here := counted _ started inWindow
        obtain ⟨answer, window⟩ := allow_window (.inr (by omega : limiter.window.used + 1 < 2 ^ 32))
        rw [allowed] at answer window ⊢
        exact ⟨answer, window, by simp only; omega, later⟩
    obtain ⟨answer, window, few, later⟩ := next
    rw [decisions, RateWindow.decisions, answer, ← window, ih (by rwa [window]) (by rwa [window]) sorted fewer]

/-- From its start the limiter decides as the one with an unbounded counter. -/
theorem decisions_new {start : ℕ} (sorted : (start :: arrivals).Pairwise (· ≤ ·)) (noFlood : NoFlood arrivals) :
    (new start).decisions arrivals = RateWindow.decisions ⟨start, 0⟩ arrivals := by
  obtain ⟨later, sorted⟩ := List.pairwise_cons.1 sorted
  refine decisions_window ?_ later sorted noFlood
  show 0 + arrivalsFrom start arrivals < 2 ^ 32
  rw [Nat.zero_add]
  exact noFlood start

end FixedWindowRateLimiter

/-! ## The session loop -/

/-- What the loop does with a message: it handles it, answers that the rate is exceeded, or ends. -/
inductive LoopOutcome where
  | handled
  | limited
  | ended
deriving DecidableEq

structure SessionLoop where
  limiter : FixedWindowRateLimiter
  violations : ℕ

namespace SessionLoop

def receive (loop : SessionLoop) (now : ℕ) : LoopOutcome × SessionLoop :=
  let (allowed, limiter) := loop.limiter.allow now
  if allowed then (.handled, ⟨limiter, 0⟩)
  else if maxConsecutiveRateViolations ≤ loop.violations + 1 then (.ended, ⟨limiter, loop.violations + 1⟩)
  else (.limited, ⟨limiter, loop.violations + 1⟩)

/-- The outcomes, up to the end of the loop. -/
def run (loop : SessionLoop) : List ℕ → List LoopOutcome
  | [] => []
  | now :: later => match loop.receive now with
    | (.ended, _) => [.ended]
    | (outcome, loop) => outcome :: loop.run later

end SessionLoop

/-- The refusals at the end of some answers, after `n` refusals. -/
def refusedInARow (n : ℕ) (answers : List Bool) : ℕ :=
  answers.foldl (fun n allowed => if allowed then 0 else n + 1) n

/-- The rate errors since the last message that was handled, after `n` of them. -/
def errorsInARow (n : ℕ) (outcomes : List LoopOutcome) : ℕ := outcomes.foldl (fun n outcome => match outcome with
  | .handled => 0
  | .limited => n + 1
  | .ended => n) n

/-- **What the answers of the limiter do to the loop**, after `n` refusals in a row: it handles what
is allowed, ends at the fifth refusal in a row and at no other message, and sends at most four rate
errors in a row. -/
structure LoopLaw (n : ℕ) (answers : List Bool) (outcomes : List LoopOutcome) : Prop where
  handles : outcomes.map (· == .handled) = answers.take outcomes.length
  early : ∀ m < outcomes.length, refusedInARow n (answers.take m) < maxConsecutiveRateViolations
  ends : .ended ∈ outcomes →
    refusedInARow n (answers.take outcomes.length) = maxConsecutiveRateViolations
  goesOn : .ended ∉ outcomes →
    outcomes.length = answers.length ∧ refusedInARow n answers < maxConsecutiveRateViolations
  errors : ∀ m, errorsInARow n (outcomes.take m) < maxConsecutiveRateViolations

namespace LoopLaw

variable {n : ℕ} {answers : List Bool} {outcomes : List LoopOutcome}

theorem nil (few : n < maxConsecutiveRateViolations) : LoopLaw n [] [] :=
  ⟨rfl, nofun, nofun, fun _ => ⟨rfl, few⟩, fun m => by rwa [List.take_nil]⟩

/-- A message that is handled starts the count again. -/
theorem handled (few : n < maxConsecutiveRateViolations) (law : LoopLaw 0 answers outcomes) :
    LoopLaw n (true :: answers) (.handled :: outcomes) := by
  refine ⟨?_, fun m small => ?_, fun ended => ?_, fun ended => ?_, fun m => ?_⟩
  · rw [List.map_cons, law.handles]
    rfl
  · cases m with
    | zero => exact few
    | succ m => exact law.early m (by simpa using small)
  · exact law.ends (by simpa using ended)
  · obtain ⟨length, few⟩ := law.goesOn (by simpa using ended)
    exact ⟨by simp [length], few⟩
  · cases m with
    | zero => exact few
    | succ m => exact law.errors m

/-- One more refusal. -/
theorem limited (few : n + 1 < maxConsecutiveRateViolations) (law : LoopLaw (n + 1) answers outcomes) :
    LoopLaw n (false :: answers) (.limited :: outcomes) := by
  refine ⟨?_, fun m small => ?_, fun ended => ?_, fun ended => ?_, fun m => ?_⟩
  · rw [List.map_cons, law.handles]
    rfl
  · cases m with
    | zero => exact Nat.lt_of_succ_lt few
    | succ m => exact law.early m (by simpa using small)
  · exact law.ends (by simpa using ended)
  · obtain ⟨length, few⟩ := law.goesOn (by simpa using ended)
    exact ⟨by simp [length], few⟩
  · cases m with
    | zero => exact Nat.lt_of_succ_lt few
    | succ m => exact law.errors m

/-- The refusal that ends the loop. -/
theorem ended (last : n + 1 = maxConsecutiveRateViolations) : LoopLaw n (false :: answers) [.ended] := by
  refine ⟨rfl, fun m small => ?_, fun _ => last, fun goesOn => absurd List.mem_cons_self goesOn, fun m => ?_⟩
  · obtain rfl : m = 0 := by simpa using small
    exact Nat.lt_of_succ_le last.le
  · have unchanged : errorsInARow n ([LoopOutcome.ended].take m) = n := by cases m <;> simp [errorsInARow]
    rw [unchanged]
    exact Nat.lt_of_succ_le last.le

end LoopLaw

namespace SessionLoop

/-- What the loop can do with a message. -/
theorem receive_cases (loop : SessionLoop) (now : ℕ) :
    ((loop.limiter.allow now).1 = true ∧ loop.receive now = (.handled, ⟨(loop.limiter.allow now).2, 0⟩)) ∨
    ((loop.limiter.allow now).1 = false ∧ loop.violations + 1 < maxConsecutiveRateViolations ∧
      loop.receive now = (.limited, ⟨(loop.limiter.allow now).2, loop.violations + 1⟩)) ∨
    ((loop.limiter.allow now).1 = false ∧ maxConsecutiveRateViolations ≤ loop.violations + 1 ∧
      loop.receive now = (.ended, ⟨(loop.limiter.allow now).2, loop.violations + 1⟩)) := by
  by_cases allowed : (loop.limiter.allow now).1 = true
  · exact .inl ⟨allowed, by simp [receive, allowed]⟩
  · rw [Bool.not_eq_true] at allowed
    by_cases last : maxConsecutiveRateViolations ≤ loop.violations + 1
    · exact .inr (.inr ⟨allowed, last, by simp [receive, allowed, last]⟩)
    · exact .inr (.inl ⟨allowed, by omega, by simp [receive, allowed, last]⟩)

theorem run_law {loop : SessionLoop} {arrivals : List ℕ}
    (few : loop.violations < maxConsecutiveRateViolations) :
    LoopLaw loop.violations ((loop.limiter.decisions arrivals).map Prod.snd) (loop.run arrivals) := by
  induction arrivals generalizing loop with
  | nil => exact .nil few
  | cons now arrivals ih =>
    rw [FixedWindowRateLimiter.decisions, List.map_cons, run]
    obtain ⟨allowed, received⟩ | ⟨refused, more, received⟩ | ⟨refused, last, received⟩ :=
      loop.receive_cases now
    · rw [received, allowed]
      exact .handled few (@ih ⟨_, 0⟩ (Nat.succ_pos 4))
    · rw [received, refused]
      exact .limited more (@ih ⟨_, loop.violations + 1⟩ more)
    · rw [received, refused]
      exact .ended (by omega)

/-- While the loop runs, the counter does not wrap: a window has at most four messages over the limit. -/
theorem decisions_run {loop : SessionLoop} {arrivals : List ℕ}
    (few : loop.violations < maxConsecutiveRateViolations)
    (used : loop.limiter.used.toNat ≤ maxClientMessagesPerSecond + loop.violations) :
    (loop.limiter.decisions arrivals).take (loop.run arrivals).length =
      loop.limiter.window.decisions (arrivals.take (loop.run arrivals).length) := by
  induction arrivals generalizing loop with
  | nil => rfl
  | cons now arrivals ih =>
    have limits : maxClientMessagesPerSecond = 24 ∧ maxConsecutiveRateViolations = 5 := ⟨rfl, rfl⟩
    obtain ⟨answer, window⟩ := @FixedWindowRateLimiter.allow_window loop.limiter now
      (.inr (by show loop.limiter.used.toNat + 1 < 2 ^ 32; omega))
    have counter : (loop.limiter.allow now).2.used.toNat = (loop.limiter.window.allow now).2.used := by
      rw [← window]
      rfl
    have decided : (loop.limiter.allow now).1 =
        decide ((loop.limiter.allow now).2.used.toNat ≤ maxClientMessagesPerSecond) := rfl
    rw [FixedWindowRateLimiter.decisions, run]
    obtain ⟨allowed, received⟩ | ⟨refused, more, received⟩ | ⟨refused, last, received⟩ :=
      loop.receive_cases now
    · have inLimit : (loop.limiter.allow now).2.used.toNat ≤ maxClientMessagesPerSecond := by
        simpa only [decided, decide_eq_true_eq] using allowed
      rw [received, List.length_cons, List.take_succ_cons, List.take_succ_cons, RateWindow.decisions, answer,
        ← window]
      exact congrArg _ (@ih ⟨_, 0⟩ (Nat.succ_pos 4) inLimit)
    · have inLimit : (loop.limiter.allow now).2.used.toNat ≤
          maxClientMessagesPerSecond + (loop.violations + 1) := by
        rw [counter]
        obtain ⟨-, next⟩ | ⟨-, -, next⟩ | ⟨-, -, next⟩ := loop.limiter.window.allow_cases now
        all_goals
          rw [next]
          simp only [FixedWindowRateLimiter.window]
          omega
      rw [received, List.length_cons, List.take_succ_cons, List.take_succ_cons, RateWindow.decisions, answer,
        ← window]
      exact congrArg _ (@ih ⟨_, loop.violations + 1⟩ more inLimit)
    · rw [received, List.length_singleton, List.take_succ_cons, List.take_succ_cons, List.take_zero,
        List.take_zero, RateWindow.decisions, answer]
      rfl

/-- The gateway's step for a received message is this loop, which tells it whether the message
starts a window. -/
theorem onMessage_receive (gateway : Gateway) (groupId : Uuid) (me : Session) (loop : SessionLoop) (now : ℕ)
    (message : ClientMessage) (few : loop.limiter.used.toNat + 1 < 2 ^ 32) :
    let next := (loop.receive now).2
    let task := (gateway.onMessage groupId me loop.limiter.used.toNat loop.violations message
      (decide (second ≤ now - loop.limiter.windowStarted))).task
    match (loop.receive now).1 with
    | .handled => ∃ handler, task = .serving groupId me next.limiter.used.toNat next.violations handler
    | .limited => task = .serving groupId me next.limiter.used.toNat next.violations none
    | .ended => task = .leaving groupId me := by
  have counts : (if second ≤ now - loop.limiter.windowStarted then 0 else loop.limiter.used.toNat) + 1 =
      (loop.limiter.allow now).2.used.toNat := by
    have window := (@FixedWindowRateLimiter.allow_window loop.limiter now (.inr few)).2
    have used : (loop.limiter.allow now).2.used.toNat = (loop.limiter.window.allow now).2.used := by
      rw [← window]
      rfl
    rw [used]
    by_cases expired : second ≤ now - loop.limiter.windowStarted
    · simp only [FixedWindowRateLimiter.window, RateWindow.allow, expired, if_true]
    · simp only [FixedWindowRateLimiter.window, RateWindow.allow, expired, if_false]
  have answer : (loop.limiter.allow now).1 =
      decide ((loop.limiter.allow now).2.used.toNat ≤ maxClientMessagesPerSecond) := rfl
  simp only [Gateway.onMessage, decide_eq_true_eq, counts, receive, answer]
  by_cases allowed : (loop.limiter.allow now).2.used.toNat ≤ maxClientMessagesPerSecond
  · simp only [allowed, if_true, if_neg (Nat.not_lt.2 allowed)]
    split
    · exact ⟨none, rfl⟩
    · exact ⟨some _, rfl⟩
  · simp only [allowed, if_false, if_pos (Nat.lt_of_not_le allowed)]
    by_cases last : maxConsecutiveRateViolations ≤ loop.violations + 1
    · simp only [if_pos last]
      rfl
    · simp only [if_neg last]
      rfl

end SessionLoop

/-- **The rate is bounded.** Of arrivals in order, with fewer than 2 ^ 32 in any second, an interval
of one second has at most twice the limit allowed, and a message is refused only after the limit was
allowed in the second before it. A session loop handles what the limiter allows and ends at the
fifth refusal in a row, and so its decisions are bounded whatever arrives. -/
theorem rate_limiter_bounds (start : ℕ) (arrivals : List ℕ)
    (sorted : (start :: arrivals).Pairwise (· ≤ ·)) :
    let decisions := (FixedWindowRateLimiter.new start).decisions arrivals
    let outcomes := SessionLoop.run ⟨.new start, 0⟩ arrivals
    (FixedWindowRateLimiter.NoFlood arrivals → RateBounded decisions) ∧
      RateBounded (decisions.take outcomes.length) ∧ LoopLaw 0 (decisions.map Prod.snd) outcomes := by
  intro decisions outcomes
  refine ⟨fun noFlood => ?_, ?_, @SessionLoop.run_law ⟨.new start, 0⟩ arrivals (Nat.succ_pos 4)⟩
  · have same : decisions = RateWindow.decisions ⟨start, 0⟩ arrivals :=
      FixedWindowRateLimiter.decisions_new sorted noFlood
    rw [same]
    exact RateWindow.bounded_new sorted
  · have same : decisions.take outcomes.length =
        RateWindow.decisions ⟨start, 0⟩ (arrivals.take outcomes.length) :=
      @SessionLoop.decisions_run ⟨.new start, 0⟩ arrivals (Nat.succ_pos 4) (Nat.zero_le _)
    rw [same]
    exact RateWindow.bounded_new (sorted.sublist ((List.take_sublist _ _).cons_cons start))

/-- Thirty messages at once: the last six are refused, and the loop ends before the last. -/
theorem rate_limiter_bounds_burst :
    ((FixedWindowRateLimiter.new 0).decisions (List.replicate 30 0)).countP (allowedIn 0 second) ≤
      2 * maxClientMessagesPerSecond := by
  have noFlood : FixedWindowRateLimiter.NoFlood (List.replicate 30 0) := fun start =>
    (List.countP_le_length.trans_eq List.length_replicate).trans_lt (by decide)
  exact ((rate_limiter_bounds 0 _ (by decide)).1 noFlood).interval 0 second (by decide)

/-! ## The counter wraps -/

namespace FixedWindowRateLimiter

/-- The limiter after the arrivals. -/
def after (limiter : FixedWindowRateLimiter) (arrivals : List ℕ) : FixedWindowRateLimiter :=
  arrivals.foldl (fun limiter now => (limiter.allow now).2) limiter

theorem decisions_append {limiter : FixedWindowRateLimiter} {earlier later : List ℕ} :
    limiter.decisions (earlier ++ later) =
      limiter.decisions earlier ++ (limiter.after earlier).decisions later := by
  induction earlier generalizing limiter with
  | nil => rfl
  | cons now earlier ih =>
    rw [List.cons_append, decisions, decisions, ih]
    rfl

theorem after_replicate {used : UInt32} {n : ℕ} :
    (⟨0, used⟩ : FixedWindowRateLimiter).after (List.replicate n 0) = ⟨0, used + UInt32.ofNat n⟩ := by
  induction n generalizing used with
  | zero => simp [after]
  | succ n ih =>
    have first : ((⟨0, used⟩ : FixedWindowRateLimiter).allow 0).2 = ⟨0, used + 1⟩ := rfl
    rw [List.replicate_succ, after, List.foldl_cons, first, ← after, ih, UInt32.add_assoc,
      Nat.add_comm n 1, UInt32.ofNat_add]
    rfl

/-- 24 messages are allowed; the `n` after them take the counter to its last value, and it starts
again with the 25 after those. -/
theorem allowed_flood {n : ℕ} (wraps : (0 + UInt32.ofNat 24 + UInt32.ofNat n : UInt32) = -1) :
    49 ≤ ((new 0).decisions (List.replicate (24 + (n + 25)) 0)).countP (allowedIn 0 0) := by
  have first : ((⟨0, 0⟩ : FixedWindowRateLimiter).decisions (List.replicate 24 0)).countP
      (allowedIn 0 0) = 24 := by decide
  have last : ((⟨0, -1⟩ : FixedWindowRateLimiter).decisions (List.replicate 25 0)).countP
      (allowedIn 0 0) = 25 := by decide
  rw [← List.replicate_append_replicate, ← List.replicate_append_replicate, decisions_append,
    decisions_append, new, after_replicate, after_replicate, wraps, List.countP_append, List.countP_append,
    first, last]
  omega

end FixedWindowRateLimiter

/-- With 2 ^ 32 messages at one instant the counter starts again, and more than twice the limit
is allowed. -/
theorem rate_counter_wraps : ¬ ∀ (start : ℕ) (arrivals : List ℕ), (start :: arrivals).Pairwise (· ≤ ·) →
    ∀ a b, b ≤ a + second → ((FixedWindowRateLimiter.new start).decisions arrivals).countP
      (allowedIn a b) ≤ 2 * maxClientMessagesPerSecond := by
  intro claim
  obtain ⟨n, wraps⟩ : ∃ n, (0 + UInt32.ofNat 24 + UInt32.ofNat n : UInt32) = -1 :=
    ⟨2 ^ 32 - 25, by decide⟩
  have inOrder : (0 :: List.replicate (24 + (n + 25)) 0).Pairwise (· ≤ ·) := by
    rw [← List.replicate_succ]
    exact List.pairwise_replicate.2 (.inr le_rfl)
  have few := claim 0 _ inOrder 0 0 (Nat.zero_le _)
  have many := FixedWindowRateLimiter.allowed_flood wraps
  have limit : maxClientMessagesPerSecond = 24 := rfl
  omega

end LanChat
