import LanChat.Client.Direct
import LanChat.Client.Sanitize
import LanChat.Crypto.Frame
import LanChat.Server.RateLimit

/-!
# The session loops

The three session loops (`enter_group`, `finish_connection`, `link_io`) read frames in one
branch of a `tokio::select!`. When another branch completes first, the read in progress is
dropped with everything it has already taken off the socket. A loop ends in any of its
branches.
-/

namespace LanChat

open Framing

/-- What the other branches find when they are ready: a message of the queue that is handed on, one
that cannot be, or the end of the queue; and for the gateway a change of the kick channel without a
reason, with one, or the end of that channel. -/
inductive SelectBranch where
  | sent
  | unsent
  | queueClosed
  | unkicked
  | kicked (reason : KickReason)
  | revoked
deriving DecidableEq, Repr

/-- The branch ends the loop. -/
def SelectBranch.breaks : SelectBranch → Bool
  | sent | unkicked => false
  | unsent | queueClosed | kicked _ | revoked => true

/-- One thing a session loop sees: bytes from the network, or another branch
that is ready before the read completes. -/
inductive SelectEvent where
  | chunk (bytes : List UInt8)
  | ready (branch : SelectBranch)
deriving DecidableEq, Repr

/-- A ready branch drops the read in progress, and may end the loop. -/
def SelectEvent.onReader : SelectEvent → Event UInt8
  | .chunk bytes => .arrive bytes
  | .ready branch => if branch.breaks then .stop else .abandon

/-- The bytes the network has delivered. -/
def receivedBytes : List SelectEvent → List UInt8 :=
  List.flatMap fun
    | .chunk bytes => bytes
    | .ready _ => []

/-- A session loop by its reading branch: how the `i`-th frame of the connection is decrypted and
parsed, and whether the loop goes on after the `i`-th message. -/
structure SelectLoop (M : Type*) where
  decode : ℕ → List UInt8 → Option M
  goesOn : ℕ → M → Bool

/-! ## The three loops -/

/-- The session loop of the gateway before its `i`-th message, which arrives at `clock i`. -/
def SessionLoop.before (start : ℕ) (clock : ℕ → ℕ) : ℕ → SessionLoop
  | 0 => ⟨.new start, 0⟩
  | i + 1 => ((SessionLoop.before start clock i).receive (clock i)).2

/-- `enter_group` ends at too many messages over the rate limit in a row. -/
def enterGroupLoop (decode : ℕ → List UInt8 → Option ClientMessage) (start : ℕ) (clock : ℕ → ℕ) :
    SelectLoop ClientMessage where
  decode := decode
  goesOn i _ := ((SessionLoop.before start clock i).receive (clock i)).1 != .ended

/-- `finish_connection` ends at unsafe data, and when nobody takes its events. -/
def finishConnectionLoop (decode : ℕ → List UInt8 → Option ServerMessage) (listening : ℕ → Bool) :
    SelectLoop ServerMessage where
  decode := decode
  goesOn i message := match sanitizeServerMessage message with
    | .ok _ => listening i
    | .error _ => false

def maxDirectMessagesPerSecond : ℕ := 32

structure LinkWindow where
  started : ℕ
  messages : ℕ

/-- One more message of a link, and whether its rate is within the limit. -/
def LinkWindow.count (window : LinkWindow) (now : ℕ) : Bool × LinkWindow :=
  let window : LinkWindow := if second ≤ now - window.started then ⟨now, 0⟩ else window
  let messages := window.messages + 1
  (messages ≤ maxDirectMessagesPerSecond, { window with messages })

def LinkWindow.before (start : ℕ) (clock : ℕ → ℕ) : ℕ → LinkWindow
  | 0 => ⟨start, 0⟩
  | i + 1 => ((LinkWindow.before start clock i).count (clock i)).2

/-- `link_io` ends at a second hello, over its rate limit, and when the hub is gone. -/
def linkIoLoop (decode : ℕ → List UInt8 → Option DirectWireMessage) (start : ℕ) (clock : ℕ → ℕ)
    (listening : ℕ → Bool) : SelectLoop DirectWireMessage where
  decode := decode
  goesOn i
    | .chat _ _ _ => ((LinkWindow.before start clock i).count (clock i)).1 && listening i
    | .hello _ _ _ => false

/-! ## What a loop obtains -/

/-- The frames a session loop obtains from its successive `read_json` calls. -/
def sessionFrames {M : Type*} (loop : SelectLoop M) (events : List SelectEvent) : List (List UInt8) :=
  (Reader.after (readJson loop.decode loop.goesOn) (events.map SelectEvent.onReader)).frames

/-- The frames of a connection that `write_raw_frame` accepts and the other
side can decode in order. -/
structure ValidFrames {M : Type*} (decode : ℕ → List UInt8 → Option M)
    (frames : List (List UInt8)) : Prop where
  written : ∀ f ∈ frames, (writeRawFrame f maxCiphertextFrame).isSome
  decoded : ∀ i f, frames[i]? = some f → (decode i f).isSome

/-- Every other branch becomes ready where a whole number of frames has
arrived, and one that ends the loop only after the last. -/
def ReadyBetweenFrames (frames : List (List UInt8)) (events : List SelectEvent) : Prop :=
  ∀ before branch later, events = before ++ .ready branch :: later →
    ∃ j ≤ frames.length, receivedBytes before = (frames.take j).flatMap frameBytes ∧
      (branch.breaks = true → j = frames.length)

/-- The reading branch goes on after every frame before the last. -/
def SelectLoop.ServesAll {M : Type*} (loop : SelectLoop M) (frames : List (List UInt8)) : Prop :=
  ∀ i f message, frames[i]? = some f → i + 1 < frames.length → loop.decode i f = some message →
    loop.goesOn i message = true

section
variable {M : Type*} {loop : SelectLoop M} {frames : List (List UInt8)} {events : List SelectEvent}

theorem delivered_onReader (events : List SelectEvent) :
    delivered (events.map SelectEvent.onReader) = receivedBytes events := by
  rw [delivered, receivedBytes, List.flatMap_map]
  congr 1
  funext e
  cases e with
  | chunk bytes => rfl
  | ready branch => cases branch <;> rfl

/-- An event of the mapped schedule comes from an event of the loop. -/
theorem onReader_split {pre post : List (Event UInt8)} {e : Event UInt8}
    (split : events.map SelectEvent.onReader = pre ++ e :: post) :
    ∃ before s later, events = before ++ s :: later ∧ s.onReader = e ∧
      before.map SelectEvent.onReader = pre := by
  obtain ⟨before, rest, rfl, hpre, hrest⟩ := List.map_eq_append_iff.1 split
  obtain ⟨s, later, rfl, hs, _⟩ := List.map_eq_cons_iff.1 hrest
  exact ⟨before, s, later, rfl, hs, hpre⟩

theorem onReader_ready {s : SelectEvent} (other : ∀ piece, s.onReader ≠ .arrive piece) :
    ∃ branch, s = .ready branch := by
  cases s with
  | chunk bytes => exact absurd rfl (other bytes)
  | ready branch => exact ⟨branch, rfl⟩

/-- The two spellings of the condition on a schedule agree. -/
theorem cutsBetween_iff :
    CutsBetween frameBytes frames (events.map SelectEvent.onReader) ↔ ReadyBetweenFrames frames events := by
  constructor
  · intro cuts before branch later split
    have mapped : events.map SelectEvent.onReader = before.map SelectEvent.onReader ++
        (SelectEvent.ready branch).onReader :: later.map SelectEvent.onReader := by
      rw [split, List.map_append, List.map_cons]
    rw [← delivered_onReader]
    cases breaks : branch.breaks with
    | true =>
      rw [SelectEvent.onReader, if_pos breaks] at mapped
      refine ⟨frames.length, le_rfl, ?_, fun _ => rfl⟩
      rw [List.take_length]
      exact cuts.stop _ _ mapped
    | false =>
      rw [SelectEvent.onReader, if_neg (by simp [breaks])] at mapped
      obtain ⟨j, boundary⟩ := cuts.abandon _ _ mapped
      refine ⟨min j frames.length, Nat.min_le_right _ _, ?_, nofun⟩
      rw [boundary, ← List.take_take, List.take_length]
  · intro between
    constructor
    · intro pre post split
      obtain ⟨before, s, later, split, hs, rfl⟩ := onReader_split split
      have other : ∀ piece, s.onReader ≠ .arrive piece := by simp [hs]
      obtain ⟨branch, rfl⟩ := onReader_ready other
      obtain ⟨j, _, boundary, _⟩ := between before branch later split
      exact ⟨j, by rw [delivered_onReader, boundary]⟩
    · intro pre post split
      obtain ⟨before, s, later, split, hs, rfl⟩ := onReader_split split
      have other : ∀ piece, s.onReader ≠ .arrive piece := by simp [hs]
      obtain ⟨branch, rfl⟩ := onReader_ready other
      obtain ⟨j, _, boundary, last⟩ := between before branch later split
      have breaks : branch.breaks = true := by
        by_contra goes
        rw [SelectEvent.onReader, if_neg goes] at hs
        cases hs
      rw [delivered_onReader, boundary, last breaks, List.take_length]

theorem goesOn_iff (valid : ValidFrames loop.decode frames) :
    GoesOn (readJson loop.decode loop.goesOn) frameBytes frames ↔ loop.ServesAll frames := by
  have lasts : ∀ i f, frames[i]? = some f → (readJson loop.decode loop.goesOn i (frameBytes f) = .last f ↔
      ∃ message, loop.decode i f = some message ∧ loop.goesOn i message = false) :=
    fun i f found => readJson_last (valid.written f (List.mem_of_getElem? found))
  constructor
  · intro goesOn i f message found more decoded
    by_contra stops
    have last := goesOn i f found ((lasts i f found).2 ⟨message, decoded, by simpa using stops⟩)
    omega
  · intro serves i f found last
    obtain ⟨message, decoded, stops⟩ := (lasts i f found).1 last
    have inside : i < frames.length := (List.getElem?_eq_some_iff.1 found).1
    by_contra more
    rw [serves i f message found (by omega) decoded] at stops
    cases stops

/-- **Framed reading under `select!`.** Once the network has delivered the frames a peer wrote, the
session loop has obtained exactly these frames if and only if no other branch became ready inside a
frame, none ended the loop before the last frame, and the reading branch did not end it either. -/
theorem session_frames_exact_iff (loop : SelectLoop M) (frames : List (List UInt8)) (events : List SelectEvent)
    (valid : ValidFrames loop.decode frames)
    (arrived : receivedBytes events = frames.flatMap frameBytes) :
    sessionFrames loop events = frames ↔ ReadyBetweenFrames frames events ∧ loop.ServesAll frames := by
  rw [← cutsBetween_iff, ← goesOn_iff valid]
  refine frames_exact_iff (fun f _ => frameBytes_ne_nil f) (fun i f found => ?_) readJson_exact _ ?_
  · exact readJson_readAs (valid.written f (List.mem_of_getElem? found)) (valid.decoded i f found)
  · rw [delivered_onReader, arrived]

end

/-- A gateway whose client only sends pings, all at once. -/
def pingLoop : SelectLoop ClientMessage := enterGroupLoop (fun _ _ => some .ping) 0 fun _ => 0

/-- The condition is met by a schedule whose other branches win between the
frames, wherever the network cuts these. -/
theorem session_frames_exact_iff_two_frames :
    sessionFrames pingLoop [.chunk [0], .chunk [2, 7, 8, 0], .chunk [1, 9], .ready .sent,
      .ready (.kicked .banned)] = [[7, 8], [9]] := by
  refine (session_frames_exact_iff pingLoop [[7, 8], [9]] _ ⟨by decide, fun _ _ _ => rfl⟩ (by decide)).2 ⟨?_, ?_⟩
  · intro before branch later split
    match before with
    | [] | [_] | [_, _] => simp at split
    | [_, _, _] =>
      simp only [List.cons_append, List.nil_append, List.cons.injEq] at split
      obtain ⟨rfl, rfl, rfl, -⟩ := split
      exact ⟨2, by decide, by decide, fun _ => rfl⟩
    | [_, _, _, _] =>
      simp only [List.cons_append, List.nil_append, List.cons.injEq] at split
      obtain ⟨rfl, rfl, rfl, rfl, -⟩ := split
      exact ⟨2, by decide, by decide, fun _ => rfl⟩
    | _ :: _ :: _ :: _ :: _ :: rest => simp at split
  · intro i f message _ more _
    simp only [List.length_cons, List.length_nil] at more
    obtain rfl : i = 0 := by omega
    have within : (((SessionLoop.before 0 fun _ => 0) 0).receive 0).1 ≠ .ended := by decide
    simpa [pingLoop, enterGroupLoop] using within

/-- Nothing but a message to send is ready beside the frames, and some of them are not obtained. -/
def LosesFrames {M : Type*} (loop : SelectLoop M) (frames : List (List UInt8))
    (events : List SelectEvent) : Prop :=
  ValidFrames loop.decode frames ∧ receivedBytes events = frames.flatMap frameBytes ∧
    (∀ branch, .ready branch ∈ events → branch = .sent) ∧ sessionFrames loop events ≠ frames

/-- A peer writes one frame of two bytes. The network delivers its length and
its payload apart, and an outbound message is ready in between: none of the
three loops obtains the frame. -/
theorem session_frame_lost_after_length :
    ∃ frames events, LosesFrames pingLoop frames events ∧
      LosesFrames (finishConnectionLoop (fun _ _ => some .pong) fun _ => true) frames events ∧
      LosesFrames (linkIoLoop (fun _ _ => some (.chat ⟨1⟩ 0 "hi")) 0 (fun _ => 0) fun _ => true)
        frames events := by
  refine ⟨[[7, 8]], [.chunk [0, 2], .ready .sent, .chunk [7, 8]], ?_, ?_, ?_⟩ <;>
    exact ⟨⟨by decide, fun _ _ _ => rfl⟩, by decide, by simp, by decide⟩

end LanChat
