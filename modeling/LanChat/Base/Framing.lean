import Mathlib.Algebra.GroupWithZero.Nat
import Mathlib.Data.List.Infix
import Mathlib.Algebra.BigOperators.Group.List.Basic

/-!
# Cutting a stream into frames, one element at a time

A reader takes the elements of a stream as they arrive and holds them until
they make up a whole frame. What the held elements amount to is decided by a
`verdict`, which may depend on the number of frames read before. A read in
progress can be abandoned (`Reader.abandon`): what it holds is then gone,
although the stream has already moved past it.

A reader that is only abandoned between frames stays aligned with them
(`Aligned.feed`), and every element of the stream is accounted for: it is part
of a frame that was read, still held, or lost (`Reader.consumed_feed`). The two
give exactly when a schedule of arrivals and abandonments reads every frame
(`frames_exact_iff`). A verdict can end the reading with a frame, which then is
the last one read.
-/

namespace Framing

/-- What a piece of the stream is, seen as the beginning of a frame. Nothing is read after
the `last` frame. -/
inductive Verdict (φ : Type*) where
  | more
  | done (frame : φ)
  | last (frame : φ)
  | bad

/-- The frame of a verdict. -/
def Verdict.frame? {φ : Type*} : Verdict φ → Option φ
  | done f | last f => some f
  | more | bad => none

/-- A reader: the elements the read in progress has taken, the frames read so
far, the elements lost to abandoned reads, and whether reading has ended. -/
structure Reader (β φ : Type*) where
  held : List β
  frames : List φ
  lost : ℕ
  ended : Bool

variable {β φ : Type*}

namespace Reader

/-- Nothing read yet. -/
def start : Reader β φ := ⟨[], [], 0, false⟩

/-- Take one element of the stream. A bad piece ends the reading. -/
def take (verdict : ℕ → List β → Verdict φ) (r : Reader β φ) (b : β) : Reader β φ :=
  if r.ended then r
  else match verdict r.frames.length (r.held ++ [b]) with
    | .more => { r with held := r.held ++ [b] }
    | .done f => { r with held := [], frames := r.frames ++ [f] }
    | .last f => { r with held := [], frames := r.frames ++ [f], ended := true }
    | .bad => { r with held := r.held ++ [b], ended := true }

/-- Take the elements of a piece of the stream in order. -/
def feed (verdict : ℕ → List β → Verdict φ) (r : Reader β φ) (bs : List β) : Reader β φ :=
  bs.foldl (take verdict) r

/-- Abandon the read in progress. -/
def abandon (r : Reader β φ) : Reader β φ :=
  if r.ended then r else { r with held := [], lost := r.lost + r.held.length }

/-- End the reading. -/
def stop (r : Reader β φ) : Reader β φ := { r with ended := true }

variable {verdict : ℕ → List β → Verdict φ}

@[simp] theorem feed_nil (r : Reader β φ) : r.feed verdict [] = r := rfl

@[simp] theorem feed_cons (r : Reader β φ) (b : β) (bs : List β) :
    r.feed verdict (b :: bs) = (r.take verdict b).feed verdict bs := rfl

theorem take_ended {r : Reader β φ} (h : r.ended = true) (b : β) : r.take verdict b = r := by
  simp [take, h]

theorem feed_ended {r : Reader β φ} (h : r.ended = true) (bs : List β) :
    r.feed verdict bs = r := by
  induction bs with
  | nil => rfl
  | cons b bs ih => rw [feed_cons, take_ended h, ih]

theorem abandon_ended {r : Reader β φ} (h : r.ended = true) : r.abandon = r := by
  simp [abandon, h]

theorem abandon_idle {r : Reader β φ} (h : r.held = []) : r.abandon = r := by
  simp only [abandon, h, List.length_nil, Nat.add_zero]
  split
  · rfl
  · rw [← h]

/-! ## Every element is accounted for -/

/-- The elements the reader has taken off the stream: those of the frames it
has read (`size` of each), those it holds, and those it lost. -/
def consumed (size : φ → ℕ) (r : Reader β φ) : ℕ :=
  (r.frames.map size).sum + r.held.length + r.lost

/-- A verdict that reports a frame does so on exactly `size` elements. -/
def Sized (verdict : ℕ → List β → Verdict φ) (size : φ → ℕ) : Prop :=
  ∀ i w f, (verdict i w).frame? = some f → w.length = size f

theorem consumed_take {size : φ → ℕ} (sized : Sized verdict size) (r : Reader β φ) (b : β) :
    (r.take verdict b).consumed size = r.consumed size + if r.ended then 0 else 1 := by
  unfold take
  cases ended : r.ended with
  | true => simp
  | false =>
    cases v : verdict r.frames.length (r.held ++ [b]) with
    | more => simp [consumed]; omega
    | bad => simp [consumed]; omega
    | done f | last f =>
      have length := sized r.frames.length (r.held ++ [b]) f (by rw [v]; rfl)
      simp [consumed] at length ⊢
      omega

/-- A reader never takes more off the stream than it was fed. -/
theorem consumed_feed {size : φ → ℕ} (sized : Sized verdict size) (r : Reader β φ) (bs : List β) :
    (r.feed verdict bs).consumed size ≤ r.consumed size + bs.length := by
  induction bs generalizing r with
  | nil => simp
  | cons b bs ih =>
    have first := consumed_take sized r b
    have rest := ih (r.take verdict b)
    simp only [feed_cons, List.length_cons]
    split at first <;> omega

/-- What a reader fed while it had not ended takes is exactly what it was fed,
if it has not ended afterwards either. -/
theorem consumed_feed_eq {size : φ → ℕ} (sized : Sized verdict size) (r : Reader β φ)
    (bs : List β) (open' : (r.feed verdict bs).ended = false) :
    (r.feed verdict bs).consumed size = r.consumed size + bs.length := by
  induction bs generalizing r with
  | nil => simp
  | cons b bs ih =>
    have live : r.ended = false := by
      by_contra ended
      rw [feed_ended (by simpa using ended)] at open'
      exact ended open'
    rw [feed_cons] at open' ⊢
    rw [ih _ open', consumed_take sized, live, List.length_cons]
    simp
    omega

@[simp] theorem consumed_abandon (size : φ → ℕ) (r : Reader β φ) :
    r.abandon.consumed size = r.consumed size := by
  unfold abandon consumed
  split <;> simp
  omega

@[simp] theorem consumed_stop (size : φ → ℕ) (r : Reader β φ) :
    r.stop.consumed size = r.consumed size := rfl

/-- Frames are only ever added. -/
theorem frames_take (r : Reader β φ) (b : β) : r.frames <+: (r.take verdict b).frames := by
  unfold take
  split
  · exact List.prefix_rfl
  · split
    · exact List.prefix_rfl
    · exact List.prefix_append _ _
    · exact List.prefix_append _ _
    · exact List.prefix_rfl

theorem frames_feed (r : Reader β φ) (bs : List β) : r.frames <+: (r.feed verdict bs).frames := by
  induction bs generalizing r with
  | nil => exact List.prefix_rfl
  | cons b bs ih => exact (frames_take r b).trans (ih _)

theorem lost_feed (r : Reader β φ) (bs : List β) : r.lost ≤ (r.feed verdict bs).lost := by
  induction bs generalizing r with
  | nil => exact le_rfl
  | cons b bs ih =>
    refine le_trans (le_of_eq ?_) (ih (r.take verdict b))
    unfold take
    split
    · rfl
    · split <;> rfl

@[simp] theorem frames_abandon (r : Reader β φ) : r.abandon.frames = r.frames := by
  unfold abandon
  split <;> rfl

@[simp] theorem frames_stop (r : Reader β φ) : r.stop.frames = r.frames := rfl

end Reader

/-! ## A reader that stays aligned with the frames -/

/-- `encode f` is read as the frame `f` in place `i`: the whole of it, and no
proper beginning of it. -/
structure ReadAs (verdict : ℕ → List β → Verdict φ) (encode : φ → List β) (i : ℕ) (f : φ) :
    Prop where
  whole : verdict i (encode f) = .done f ∨ verdict i (encode f) = .last f
  partly : ∀ w, w <+: encode f → w ≠ encode f → verdict i w = .more

/-- The reader has read the first `k` frames and holds a proper beginning of
the next; together these are what the stream has `delivered`. -/
structure Aligned (encode : φ → List β) (frames : List φ) (delivered : List β)
    (r : Reader β φ) (k : ℕ) : Prop where
  live : r.ended = false
  read : r.frames = frames.take k
  delivered : delivered = (frames.take k).flatMap encode ++ r.held
  position : (k = frames.length ∧ r.held = []) ∨
    ∃ f, frames[k]? = some f ∧ r.held <+: encode f ∧ r.held.length < (encode f).length

section
variable {verdict : ℕ → List β → Verdict φ} {encode : φ → List β} {frames : List φ}

theorem take_succ_flatMap {k : ℕ} {f : φ} (h : frames[k]? = some f) :
    (frames.take (k + 1)).flatMap encode = (frames.take k).flatMap encode ++ encode f := by
  rw [List.take_add_one, h]
  simp

theorem flatMap_split {k : ℕ} {f : φ} (h : frames[k]? = some f) :
    frames.flatMap encode =
      (frames.take k).flatMap encode ++ (encode f ++ (frames.drop (k + 1)).flatMap encode) := by
  conv_lhs => rw [← List.take_append_drop (k + 1) frames, List.flatMap_append]
  rw [take_succ_flatMap h, List.append_assoc]

/-- Before anything has arrived the reader is aligned. -/
theorem Aligned.start (nonempty : ∀ f ∈ frames, encode f ≠ []) :
    Aligned encode frames [] Reader.start 0 where
  live := rfl
  read := rfl
  delivered := rfl
  position := by
    cases frames with
    | nil => exact .inl ⟨rfl, rfl⟩
    | cons f fs =>
      exact .inr ⟨f, rfl, List.nil_prefix, List.length_pos_of_ne_nil (nonempty f (by simp))⟩

/-- The reading ends with no frame before the last. -/
def GoesOn (verdict : ℕ → List β → Verdict φ) (encode : φ → List β) (frames : List φ) : Prop :=
  ∀ i f, frames[i]? = some f → verdict i (encode f) = .last f → i + 1 = frames.length

/-- The reader has read every frame of what has been `delivered`, and ended. -/
structure Finished (encode : φ → List β) (frames : List φ) (delivered : List β) (r : Reader β φ) :
    Prop where
  ended : r.ended = true
  read : r.frames = frames
  delivered : delivered = frames.flatMap encode

/-- One more element of the stream keeps the reader aligned, or is the last one it reads. -/
theorem Aligned.take {delivered : List β} {r : Reader β φ} {k : ℕ} {b : β}
    (nonempty : ∀ f ∈ frames, encode f ≠ [])
    (readAs : ∀ i f, frames[i]? = some f → ReadAs verdict encode i f)
    (goesOn : GoesOn verdict encode frames) (h : Aligned encode frames delivered r k)
    (next : delivered ++ [b] <+: frames.flatMap encode) :
    (∃ k', Aligned encode frames (delivered ++ [b]) (r.take verdict b) k') ∨
      Finished encode frames (delivered ++ [b]) (r.take verdict b) := by
  rcases h.position with ⟨full, idle⟩ | ⟨f, hf, begun, inside⟩
  · -- everything has been delivered, so there is no next element
    have long := next.length_le
    rw [h.delivered, full, List.take_length, idle, List.append_nil, List.length_append,
      List.length_singleton] at long
    omega
  have lt : k < frames.length := (List.getElem?_eq_some_iff.1 hf).1
  have place : r.frames.length = k := by
    rw [h.read, List.length_take]
    exact Nat.min_eq_left lt.le
  have beginning : r.held ++ [b] <+: encode f := by
    rw [flatMap_split hf, h.delivered, List.append_assoc] at next
    exact List.prefix_of_prefix_length_le ((List.prefix_append_right_inj _).1 next)
      (List.prefix_append _ _) (by simpa using Nat.succ_le_of_lt inside)
  by_cases complete : r.held ++ [b] = encode f
  · have reached : delivered ++ [b] = (frames.take (k + 1)).flatMap encode := by
      rw [take_succ_flatMap hf, h.delivered, List.append_assoc, complete]
    have read : r.frames ++ [f] = frames.take (k + 1) := by simp [h.read, List.take_add_one, hf]
    rcases (readAs k f hf).whole with whole | whole
    · refine .inl ⟨k + 1, ?_⟩
      have taken : r.take verdict b = { r with held := [], frames := r.frames ++ [f] } := by
        simp [Reader.take, h.live, place, complete, whole]
      rw [taken]
      refine ⟨h.live, read, by simpa using reached, ?_⟩
      rcases Nat.lt_or_ge (k + 1) frames.length with more | last
      · refine .inr ⟨frames[k + 1], List.getElem?_eq_getElem more, List.nil_prefix, ?_⟩
        exact List.length_pos_of_ne_nil (nonempty _ (List.getElem_mem more))
      · exact .inl ⟨by omega, rfl⟩
    · -- the reading ends with this frame, so it is the last one
      have taken : r.take verdict b =
          { r with held := [], frames := r.frames ++ [f], ended := true } := by
        simp [Reader.take, h.live, place, complete, whole]
      have all := goesOn k f hf whole
      rw [all, List.take_length] at reached read
      rw [taken]
      exact .inr ⟨rfl, read, reached⟩
  · refine .inl ⟨k, ?_⟩
    have taken : r.take verdict b = { r with held := r.held ++ [b] } := by
      simp [Reader.take, h.live, place, (readAs k f hf).partly _ beginning complete]
    rw [taken]
    refine ⟨h.live, h.read, ?_, .inr ⟨f, hf, beginning, ?_⟩⟩
    · simp [h.delivered]
    · exact lt_of_le_of_ne beginning.length_le fun same =>
        complete (beginning.eq_of_length same)

/-- Nothing is left to be delivered to a reader that has finished. -/
theorem Finished.nothing {delivered bs : List β} {r : Reader β φ} (h : Finished encode frames delivered r)
    (next : delivered ++ bs <+: frames.flatMap encode) : bs = [] := by
  have long := next.length_le
  rw [List.length_append, h.delivered] at long
  exact List.length_eq_zero_iff.1 (by omega)

/-- **Alignment.** A piece of the stream keeps an aligned reader aligned, or it finishes. -/
theorem Aligned.feed {delivered : List β} {r : Reader β φ} {k : ℕ}
    (nonempty : ∀ f ∈ frames, encode f ≠ [])
    (readAs : ∀ i f, frames[i]? = some f → ReadAs verdict encode i f)
    (goesOn : GoesOn verdict encode frames) (bs : List β) (h : Aligned encode frames delivered r k)
    (next : delivered ++ bs <+: frames.flatMap encode) :
    (∃ k', Aligned encode frames (delivered ++ bs) (r.feed verdict bs) k') ∨
      Finished encode frames (delivered ++ bs) (r.feed verdict bs) := by
  induction bs generalizing delivered r k with
  | nil => exact .inl ⟨k, by simpa using h⟩
  | cons b bs ih =>
    rw [← List.singleton_append, ← List.append_assoc] at next ⊢
    rcases h.take nonempty readAs goesOn ((List.prefix_append _ _).trans next) with ⟨k', aligned⟩ | finished
    · exact ih aligned next
    · obtain rfl := finished.nothing next
      exact .inr (by simpa using finished)

theorem take_flatMap_split {j k : ℕ} (le : k ≤ j) :
    (frames.take j).flatMap encode =
      (frames.take k).flatMap encode ++ ((frames.take j).drop k).flatMap encode := by
  rw [← List.flatMap_append]
  congr 1
  conv_lhs => rw [← List.take_append_drop k (frames.take j), List.take_take, Nat.min_eq_left le]

/-- An aligned reader at the end of a whole number `j` of frames has read
exactly these and holds nothing. -/
theorem Aligned.at_boundary {delivered : List β} {r : Reader β φ} {k j : ℕ}
    (h : Aligned encode frames delivered r k)
    (boundary : delivered = (frames.take j).flatMap encode) : r.held = [] := by
  rcases h.position with ⟨_, idle⟩ | ⟨f, hf, _, inside⟩
  · exact idle
  have same := h.delivered.symm.trans boundary
  rcases Nat.lt_or_ge k j with lt | ge
  · -- frame `k` would be among the `j` frames, but less than all of it is held
    exfalso
    rw [take_flatMap_split (Nat.succ_le_of_lt lt), take_succ_flatMap hf, List.append_assoc] at same
    have lengths := congrArg List.length (List.append_cancel_left same)
    rw [List.length_append] at lengths
    omega
  · rw [take_flatMap_split ge, List.append_assoc] at same
    have lengths := congrArg List.length same
    simp only [List.length_append] at lengths
    exact List.length_eq_zero_iff.1 (by omega)

/-- An aligned reader that has been delivered every frame has read them all. -/
theorem Aligned.all_read {r : Reader β φ} {k : ℕ}
    (h : Aligned encode frames (frames.flatMap encode) r k) : r.frames = frames := by
  rcases h.position with ⟨full, _⟩ | ⟨f, hf, _, inside⟩
  · rw [h.read, full, List.take_length]
  · exfalso
    have same := h.delivered
    rw [flatMap_split hf] at same
    have lengths := congrArg List.length (List.append_cancel_left same)
    rw [List.length_append] at lengths
    omega

end

/-! ## Schedules -/

/-- What happens to a reader: a piece of the stream arrives, the read in
progress is abandoned, or the reading is ended from outside. -/
inductive Event (β : Type*) where
  | arrive (piece : List β)
  | abandon
  | stop

/-- The part of the stream that has arrived. -/
def delivered : List (Event β) → List β :=
  List.flatMap fun
    | .arrive piece => piece
    | .abandon | .stop => []

namespace Reader

def handle (verdict : ℕ → List β → Verdict φ) (r : Reader β φ) : Event β → Reader β φ
  | .arrive piece => r.feed verdict piece
  | .abandon => r.abandon
  | .stop => r.stop

/-- Nothing happens to a reader that has ended. -/
theorem handle_ended {verdict : ℕ → List β → Verdict φ} {r : Reader β φ} (h : r.ended = true)
    (e : Event β) : r.handle verdict e = r := by
  cases e with
  | arrive piece => exact feed_ended h piece
  | abandon => exact abandon_ended h
  | stop => simp only [handle, stop, ← h]

/-- The reader after a schedule. -/
def after (verdict : ℕ → List β → Verdict φ) (events : List (Event β)) : Reader β φ :=
  events.foldl (handle verdict) start

end Reader

@[simp] theorem delivered_append (es fs : List (Event β)) :
    delivered (es ++ fs) = delivered es ++ delivered fs := List.flatMap_append

@[simp] theorem delivered_nil : delivered ([] : List (Event β)) = [] := rfl

@[simp] theorem delivered_arrive (piece : List β) : delivered [.arrive piece] = piece := by
  simp [delivered]

@[simp] theorem delivered_abandon : delivered ([.abandon] : List (Event β)) = [] := rfl

@[simp] theorem delivered_stop : delivered ([.stop] : List (Event β)) = [] := rfl

/-- Every abandonment of a schedule falls where a whole number of frames has
arrived, and reading is only ended once all of them have. -/
structure CutsBetween (encode : φ → List β) (frames : List φ) (events : List (Event β)) :
    Prop where
  abandon : ∀ pre post, events = pre ++ .abandon :: post →
    ∃ j, delivered pre = (frames.take j).flatMap encode
  stop : ∀ pre post, events = pre ++ .stop :: post →
    delivered pre = frames.flatMap encode

theorem CutsBetween.of_append {encode : φ → List β} {frames : List φ} {es fs : List (Event β)}
    (h : CutsBetween encode frames (es ++ fs)) : CutsBetween encode frames es where
  abandon pre post split := h.abandon pre (post ++ fs) (by simp [split])
  stop pre post split := h.stop pre (post ++ fs) (by simp [split])

section
variable {verdict : ℕ → List β → Verdict φ} {encode : φ → List β} {frames : List φ}

@[simp] theorem Reader.after_append (es fs : List (Event β)) :
    Reader.after verdict (es ++ fs) = fs.foldl (Reader.handle verdict) (Reader.after verdict es) :=
  List.foldl_append

@[simp] theorem Reader.after_snoc (es : List (Event β)) (e : Event β) :
    Reader.after verdict (es ++ [e]) = (Reader.after verdict es).handle verdict e := by simp

/-- Cut only between frames, the reader is aligned with what has arrived, or
has ended with everything read. -/
theorem aligned_after (nonempty : ∀ f ∈ frames, encode f ≠ [])
    (readAs : ∀ i f, frames[i]? = some f → ReadAs verdict encode i f)
    (goesOn : GoesOn verdict encode frames) (events : List (Event β))
    (within : delivered events <+: frames.flatMap encode)
    (cuts : CutsBetween encode frames events) :
    (∃ k, Aligned encode frames (delivered events) (Reader.after verdict events) k) ∨
      Finished encode frames (delivered events) (Reader.after verdict events) := by
  induction events using List.reverseRecOn with
  | nil => exact .inl ⟨0, Aligned.start nonempty⟩
  | append_singleton es e ih =>
    rw [delivered_append] at within
    have before := ih ((List.prefix_append _ _).trans within) cuts.of_append
    rw [Reader.after_snoc, delivered_append]
    rcases before with ⟨k, aligned⟩ | finished
    · cases e with
      | arrive piece =>
        rw [delivered_arrive] at within ⊢
        exact aligned.feed nonempty readAs goesOn piece within
      | abandon =>
        obtain ⟨j, boundary⟩ := cuts.abandon es [] rfl
        have idle := aligned.at_boundary boundary
        refine .inl ⟨k, ?_⟩
        simpa [Reader.handle, Reader.abandon_idle idle] using aligned
      | stop =>
        have all := cuts.stop es [] rfl
        rw [all] at aligned ⊢
        exact .inr ⟨rfl, aligned.all_read, by simp⟩
    · rw [Reader.handle_ended finished.ended, finished.nothing within, List.append_nil]
      exact .inr finished

/-- What a schedule makes the reader take is at most what has arrived, and all
of it while the reading has not ended. -/
theorem consumed_after {size : φ → ℕ} (sized : Reader.Sized verdict size)
    (events : List (Event β)) :
    (Reader.after verdict events).consumed size ≤ (delivered events).length ∧
      ((Reader.after verdict events).ended = false →
        (Reader.after verdict events).consumed size = (delivered events).length) := by
  induction events using List.reverseRecOn with
  | nil => exact ⟨le_rfl, fun _ => rfl⟩
  | append_singleton es e ih =>
    rw [Reader.after_snoc, delivered_append, List.length_append]
    cases e with
    | arrive piece =>
      rw [delivered_arrive]
      refine ⟨(Reader.consumed_feed sized _ _).trans (Nat.add_le_add_right ih.1 _), fun live => ?_⟩
      have before : (Reader.after verdict es).ended = false := by
        by_contra ended
        rw [Reader.handle, Reader.feed_ended (by simpa using ended)] at live
        exact ended live
      rw [Reader.handle, Reader.consumed_feed_eq sized _ _ live, ih.2 before]
    | abandon =>
      simp only [Reader.handle, Reader.consumed_abandon, delivered_abandon, List.length_nil]
      refine ⟨ih.1, fun live => ih.2 ?_⟩
      by_contra ended
      rw [Reader.abandon_ended (by simpa using ended)] at live
      exact ended live
    | stop => exact ⟨ih.1, nofun⟩

theorem ended_foldl {r : Reader β φ} (h : r.ended = true) (es : List (Event β)) :
    es.foldl (Reader.handle verdict) r = r := by
  induction es with
  | nil => rfl
  | cons e es ih => rw [List.foldl_cons, Reader.handle_ended h, ih]

/-- Later events add frames and losses only. -/
theorem grows (verdict : ℕ → List β → Verdict φ) (r : Reader β φ) (es : List (Event β)) :
    r.frames <+: (es.foldl (Reader.handle verdict) r).frames ∧
      r.lost ≤ (es.foldl (Reader.handle verdict) r).lost := by
  induction es generalizing r with
  | nil => exact ⟨List.prefix_rfl, le_rfl⟩
  | cons e es ih =>
    have first : r.frames <+: (r.handle verdict e).frames ∧ r.lost ≤ (r.handle verdict e).lost := by
      cases e with
      | arrive piece => exact ⟨Reader.frames_feed r piece, Reader.lost_feed r piece⟩
      | abandon =>
        refine ⟨by simp [Reader.handle], ?_⟩
        simp only [Reader.handle, Reader.abandon]
        split <;> simp
      | stop => exact ⟨List.prefix_rfl, le_rfl⟩
    exact ⟨first.1.trans (ih _).1, first.2.trans (ih _).2⟩

/-- A reported frame is what was taken for it. -/
def Exact (verdict : ℕ → List β → Verdict φ) (encode : φ → List β) : Prop :=
  ∀ i w f, (verdict i w).frame? = some f → w = encode f

/-- The reading went on after the frames before the last one read, and after that one if it has
not ended. -/
def WentOn (verdict : ℕ → List β → Verdict φ) (encode : φ → List β) (r : Reader β φ) : Prop :=
  ∀ i f, r.frames[i]? = some f → i + 1 < r.frames.length ∨ r.ended = false → verdict i (encode f) = .done f

theorem WentOn.take {r : Reader β φ} (exact : Exact verdict encode) (wentOn : WentOn verdict encode r) (b : β) :
    WentOn verdict encode (r.take verdict b) := by
  unfold Reader.take
  split
  · exact wentOn
  · rename_i live
    have earlier : ∀ i f, r.frames[i]? = some f → verdict i (encode f) = .done f :=
      fun i f found => wentOn i f found (.inr (by simpa using live))
    cases v : verdict r.frames.length (r.held ++ [b]) with
    | more | bad => exact fun i f found _ => earlier i f found
    | done g =>
      intro i f found _
      rcases Nat.lt_or_ge i r.frames.length with old | new
      · exact earlier i f (by rwa [List.getElem?_append_left old] at found)
      · -- the frame that was read just now
        rw [List.getElem?_append_right new] at found
        obtain ⟨place, rfl⟩ : i - r.frames.length = 0 ∧ g = f := by
          cases place : i - r.frames.length with
          | zero => exact ⟨rfl, by simpa [place] using found⟩
          | succ n => simp [place] at found
        obtain rfl : i = r.frames.length := by omega
        rw [← exact r.frames.length (r.held ++ [b]) g (by rw [v]; rfl), v]
    | last g =>
      intro i f found before
      have old : i < r.frames.length := by simpa using before
      exact earlier i f (by rwa [List.getElem?_append_left old] at found)

theorem WentOn.feed {r : Reader β φ} (exact : Exact verdict encode) (wentOn : WentOn verdict encode r)
    (bs : List β) : WentOn verdict encode (r.feed verdict bs) := by
  induction bs generalizing r with
  | nil => exact wentOn
  | cons b bs ih => exact ih (wentOn.take exact b)

theorem wentOn_after (exact : Exact verdict encode) (events : List (Event β)) :
    WentOn verdict encode (Reader.after verdict events) := by
  induction events using List.reverseRecOn with
  | nil => exact nofun
  | append_singleton es e ih =>
    rw [Reader.after_snoc]
    cases e with
    | arrive piece => exact ih.feed exact piece
    | abandon =>
      simp only [Reader.handle, Reader.abandon]
      split <;> exact ih
    | stop => exact fun i f found before => ih i f found (before.imp_right nofun)

/-- The size of a frame on the stream. -/
def encodedSize (encode : φ → List β) (f : φ) : ℕ := (encode f).length

theorem sum_encodedSize (encode : φ → List β) (fs : List φ) :
    (fs.map (encodedSize encode)).sum = (fs.flatMap encode).length := by
  rw [List.length_flatMap]
  rfl

/-- A reader that has read every frame has been delivered the whole stream. -/
theorem delivered_all_of_read (sized : Reader.Sized verdict (encodedSize encode))
    {events : List (Event β)} (within : delivered events <+: frames.flatMap encode)
    (read : (Reader.after verdict events).frames = frames) :
    delivered events = frames.flatMap encode := by
  have most := (consumed_after sized events).1
  rw [Reader.consumed, read, sum_encodedSize] at most
  exact within.eq_of_length (le_antisymm within.length_le (by omega))

/-- A reader that holds nothing and has lost nothing has been delivered the
frames it has read. -/
theorem delivered_of_idle (sized : Reader.Sized verdict (encodedSize encode))
    {events : List (Event β)} (within : delivered events <+: frames.flatMap encode)
    (read : (Reader.after verdict events).frames <+: frames)
    (live : (Reader.after verdict events).ended = false)
    (idle : (Reader.after verdict events).held = []) (kept : (Reader.after verdict events).lost = 0) :
    ∃ j, delivered events = (frames.take j).flatMap encode := by
  refine ⟨(Reader.after verdict events).frames.length, ?_⟩
  have all := (consumed_after sized events).2 live
  rw [Reader.consumed, idle, kept, sum_encodedSize] at all
  rw [← List.prefix_iff_eq_take.1 read]
  have whole : (Reader.after verdict events).frames.flatMap encode <+: frames.flatMap encode := by
    obtain ⟨rest, split⟩ := read
    exact ⟨rest.flatMap encode, by rw [← List.flatMap_append, split]⟩
  have lengths : (delivered events).length =
      ((Reader.after verdict events).frames.flatMap encode).length := by simpa using all.symm
  exact (List.prefix_of_prefix_length_le within whole lengths.le).eq_of_length lengths

/-- The state in front of an event of a schedule that reads every frame: what
has arrived is a beginning of the stream, nothing is lost to the event, and
reading ends there only with every frame read. -/
theorem at_event (sized : Reader.Sized verdict (encodedSize encode)) {events : List (Event β)}
    (all : delivered events = frames.flatMap encode)
    (read : (Reader.after verdict events).frames = frames) {pre post : List (Event β)}
    {e : Event β} (split : events = pre ++ e :: post) :
    delivered pre <+: frames.flatMap encode ∧
      ((Reader.after verdict pre).handle verdict e).lost = 0 ∧
      (Reader.after verdict pre).frames <+: frames ∧
      (((Reader.after verdict pre).handle verdict e).ended = true →
        ((Reader.after verdict pre).handle verdict e).frames = frames) := by
  have most := (consumed_after sized events).1
  rw [Reader.consumed, read, sum_encodedSize, all] at most
  have final : Reader.after verdict events =
      post.foldl (Reader.handle verdict) ((Reader.after verdict pre).handle verdict e) := by
    rw [split, Reader.after_append, List.foldl_cons]
  have later := grows verdict ((Reader.after verdict pre).handle verdict e) post
  have here := grows verdict (Reader.after verdict pre) [e]
  rw [← final, read] at later
  refine ⟨?_, by omega, here.1.trans later.1, fun ended => ?_⟩
  · rw [← all, split, delivered_append]
    exact List.prefix_append _ _
  · rw [ended_foldl ended] at final
    rw [← final, read]

/-- **Exactness.** Delivered a stream of frames, a schedule makes the reader
read exactly these frames if and only if no read is abandoned inside a frame
and reading is not ended before the last, neither from outside nor by a frame. -/
theorem frames_exact_iff (nonempty : ∀ f ∈ frames, encode f ≠ [])
    (readAs : ∀ i f, frames[i]? = some f → ReadAs verdict encode i f)
    (exact : Exact verdict encode) (events : List (Event β))
    (all : delivered events = frames.flatMap encode) :
    (Reader.after verdict events).frames = frames ↔
      CutsBetween encode frames events ∧ GoesOn verdict encode frames := by
  have sized : Reader.Sized verdict (encodedSize encode) :=
    fun i w f reported => congrArg List.length (exact i w f reported)
  constructor
  · intro read
    refine ⟨⟨?_, ?_⟩, ?_⟩
    · intro pre post split
      obtain ⟨within, kept, earlier, finished⟩ := at_event sized all read split
      cases live : (Reader.after verdict pre).ended with
      | true =>
        rw [Reader.handle_ended live] at finished
        refine ⟨frames.length, ?_⟩
        rw [List.take_length]
        exact delivered_all_of_read sized within (finished live)
      | false =>
        simp only [Reader.handle, Reader.abandon, live, Bool.false_eq_true, if_false] at kept
        exact delivered_of_idle sized within earlier live
          (List.length_eq_zero_iff.1 (by omega)) (by omega)
    · intro pre post split
      obtain ⟨within, _, _, finished⟩ := at_event sized all read split
      exact delivered_all_of_read sized within (finished rfl)
    · intro i f found last
      have wentOn := wentOn_after exact events
      rw [WentOn, read] at wentOn
      by_contra more
      have inside : i + 1 < frames.length :=
        lt_of_le_of_ne (List.getElem?_eq_some_iff.1 found).1 more
      rw [wentOn i f found (.inl inside)] at last
      cases last
  · rintro ⟨cuts, goesOn⟩
    have within : delivered events <+: frames.flatMap encode := by rw [all]
    rcases aligned_after nonempty readAs goesOn events within cuts with ⟨k, aligned⟩ | finished
    · rw [all] at aligned
      exact aligned.all_read
    · exact finished.read

end

end Framing
