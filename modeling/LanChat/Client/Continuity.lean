import LanChat.Base.Segment
import LanChat.Client.Paging

/-!
# A view without holes

The view of a room beside the log of the room: history on joining, live messages,
and pages that end just below the message that Page Up asked with. A page is put
before whatever the view then shows.
-/

namespace LanChat

open Transition

/-- The messages of a room, numbered from 1, each with an id of its own. -/
structure RoomLog (r : String) where
  entries : List ChatRecord
  ofRoom : ∀ message ∈ entries, message.roomId = r
  numbered : ∀ (i : ℕ) (message : ChatRecord), entries[i]? = some message → message.sequence = i + 1
  distinct : (entries.map (·.messageId)).Nodup

/-- A stretch of a list that ends at `t`. -/
def EndsAt (l : List ChatRecord) (t : ℕ) (shown : List ChatRecord) : Prop := ∃ k, shown = l.segment k t

section
variable {l : List ChatRecord} {t : ℕ} {messages : List ChatRecord}

theorem endsAt_nil : EndsAt l t [] := ⟨t, (List.segment_eq_nil le_rfl).symm⟩

theorem EndsAt.drop (ends : EndsAt l t messages) (n : ℕ) : EndsAt l t (messages.drop n) := by
  obtain ⟨k, rfl⟩ := ends
  exact ⟨k + n, List.drop_segment n⟩

/-- The next message of the list. -/
theorem EndsAt.snoc {message : ChatRecord} (ends : EndsAt l t messages) (found : l[t]? = some message) :
    EndsAt l (t + 1) (messages ++ [message]) := by
  obtain ⟨k, rfl⟩ := ends
  by_cases le : k ≤ t
  · exact ⟨k, List.segment_snoc found le⟩
  · refine ⟨t, ?_⟩
    rw [List.segment_eq_nil (by omega), ← List.segment_snoc found le_rfl, List.segment_eq_nil le_rfl]

end

/-- `told` is how much of the log the client has been told of. -/
structure Feed where
  client : Paging
  told : ℕ

structure Delivery where
  event : PagingEvent
  told : ℕ

namespace Feed

def step (feed : Feed) (delivery : Delivery) : Option Feed :=
  (feed.client.step delivery.event).map fun client => ⟨client, delivery.told⟩

section
variable {r : String} (log : RoomLog r)

/-- What the gateway delivers of the room: history up to the end of the log, then one message after
the other, and pages that end just below what was asked. -/
def InOrder (feed : Feed) (delivery : Delivery) : Prop := match delivery.event with
  | .server (.chat message) => if message.roomId = r then
      log.entries[feed.told]? = some message ∧ delivery.told = feed.told + 1
    else delivery.told = feed.told
  | .server (.roomJoined room history) => if room.roomId = r then
      feed.told ≤ delivery.told ∧ delivery.told ≤ log.entries.length ∧
        ∃ k, history = log.entries.segment k delivery.told
    else delivery.told = feed.told
  | .page roomId before messages _ => delivery.told = feed.told ∧
      (roomId = r → ∃ k, messages = log.entries.segment k (before - 1))
  | _ => delivery.told = feed.told

end

/-- A page finds the view as it was asked for, or with more at its front. -/
def InFront (r : String) (feed : Feed) (delivery : Delivery) : Prop := match delivery.event with
  | .page roomId before messages _ => roomId = r → messages ≠ [] →
      ∃ first, (feed.client.app.shown r).head? = some first ∧ first.sequence ≤ before
  | _ => True

/-- The view shows a stretch of the log up to the last message that it was told of, and every request
was made for a message of this stretch. -/
structure Follows {r : String} (log : RoomLog r) (feed : Feed) : Prop where
  known : feed.told ≤ log.entries.length
  shows : EndsAt log.entries feed.told (feed.client.app.shown r)
  asked : ∀ before, (r, before) ∈ feed.client.unanswered → before ≤ feed.told

end Feed

namespace ChatApp

variable {app app' : ChatApp} {message : ServerMessage} {draw : Uuid} {key : KeyEvent} {action : ChatKeyAction}
  {r : String}

/-- The chat messages of a view. -/
def records (view : Option RoomView) : List ChatRecord :=
  ((view.map (·.items)).getD []).filterMap UiItem.record

theorem records_pushBounded (items : List UiItem) (item : UiItem) : ∃ n,
    (pushBounded items item).filterMap UiItem.record =
      (items.filterMap UiItem.record).drop n ++ item.record.toList := by
  have single : [item].filterMap UiItem.record = item.record.toList := by cases item <;> rfl
  rw [pushBounded, List.filterMap_append, single]
  split
  · cases items with
    | nil => exact ⟨0, rfl⟩
    | cons head items =>
      cases head with
      | chat message => exact ⟨1, rfl⟩
      | notice text => exact ⟨0, rfl⟩
  · exact ⟨0, rfl⟩

theorem shown_viewAfter : (app.handleServerMessage message).shown r = records (app.viewAfter r message) := by
  rw [shown, view_step, records]

theorem records_chat (messages : List ChatRecord) : (messages.map UiItem.chat).filterMap UiItem.record = messages := by
  rw [List.filterMap_map]
  exact List.filterMap_some

section
variable {l : List ChatRecord} {t : ℕ} {messages : List ChatRecord}

/-- An item at the end of a view, which may push out its first message. -/
theorem endsAt_push {t' : ℕ} {view : Option RoomView} {change : RoomView → RoomView} {item : UiItem}
    (ends : EndsAt l t (records view)) (pushes : ∀ room, (change room).items = pushBounded room.items item)
    (next : ∀ shown, EndsAt l t shown → EndsAt l t' (shown ++ item.record.toList)) :
    EndsAt l t' (records (view.map change)) := by
  cases view with
  | none => exact endsAt_nil
  | some room =>
    obtain ⟨n, pushed⟩ := records_pushBounded room.items item
    have after : records (some (change room)) = (records (some room)).drop n ++ item.record.toList := by
      simpa only [records, Option.map_some, Option.getD_some, pushes] using pushed
    rw [Option.map_some, after]
    exact next _ (ends.drop n)

/-- A live message of the room. -/
theorem endsAt_live {record : ChatRecord} (ends : EndsAt l t (app.shown r)) (own : record.roomId = r)
    (found : l[t]? = some record) : EndsAt l (t + 1) ((app.handleServerMessage (.chat record)).shown r) := by
  rw [shown_viewAfter, viewAfter, if_pos own]
  exact endsAt_push ends (fun _ => rfl) fun shown ends => ends.snoc found

theorem shown_joined {room : RoomSummary} {history : List ChatRecord} (own : room.roomId = r) :
    (app.handleServerMessage (.roomJoined room history)).shown r = history := by
  rw [shown_viewAfter, viewAfter, if_pos own]
  exact records_chat history

/-- A message that neither adds to the view at its end, nor replaces it, nor is a page of it. -/
theorem endsAt_other (ends : EndsAt l t (app.shown r)) (quiet : message.liveIn r = none)
    (joins : ∀ room history, message = .roomJoined room history → room.roomId ≠ r)
    (pages : ∀ roomId messages hasMore, message = .historyPage roomId messages hasMore → roomId ≠ r) :
    EndsAt l t ((app.handleServerMessage message).shown r) := by
  rw [shown_viewAfter]
  have noticed : ∀ {change : RoomView → RoomView} {text : String},
      (∀ room, (change room).items = pushBounded room.items (.notice text)) →
      EndsAt l t (records (app.rooms[r]?.map change)) := by
    intro change text pushes
    exact endsAt_push ends pushes fun shown ends => by simpa [UiItem.record] using ends
  cases message with
  | chat record =>
    have other : record.roomId ≠ r := by simpa [ServerMessage.liveIn] using quiet
    rw [viewAfter, if_neg other]
    exact ends
  | roomCreated room =>
    rw [viewAfter]
    split
    · cases found : app.rooms[r]? with
      | none => exact endsAt_nil
      | some view =>
        rw [shown, found] at ends
        exact ends
    · exact ends
  | roomJoined room history =>
    rw [viewAfter, if_neg (joins room history rfl)]
    exact ends
  | roomLeft roomId =>
    rw [viewAfter]
    split
    · cases found : app.rooms[r]? with
      | none => exact endsAt_nil
      | some view =>
        rw [shown, found] at ends
        rw [Option.filter_some]
        split
        · exact ends
        · exact endsAt_nil
    · exact ends
  | historyPage roomId messages hasMore =>
    rw [viewAfter, if_neg (pages roomId messages hasMore rfl)]
    exact ends
  | memberJoined member =>
    rw [viewAfter]
    split
    · exact noticed fun _ => rfl
    · exact ends
  | memberLeft sessionId =>
    simp only [viewAfter]
    split
    · split
      · exact noticed fun _ => rfl
      · exact ends
    · exact ends
  | _ => exact ends

/-- A page that meets the front of the view, or overlaps it. -/
theorem endsAt_page {j s k : ℕ} {hasMore : Bool} (distinct : (l.map (·.messageId)).Nodup)
    (shows : app.shown r = l.segment k t) (meets : k ≤ s) (high : s ≤ t) :
    EndsAt l t ((app.handleServerMessage (.historyPage r (l.segment j s) hasMore)).shown r) := by
  rw [shown_viewAfter, viewAfter, if_pos rfl]
  cases found : app.rooms[r]? with
  | none => exact endsAt_nil
  | some view =>
    have held : view.items.filterMap UiItem.record = l.segment k t := by
      rw [← shows, shown, found, Option.map_some, Option.getD_some]
    refine ⟨min j k, ?_⟩
    simp only [records, Option.map_some, Option.getD_some, List.filterMap_append, records_chat, held,
      RoomView.older]
    exact List.segment_prepend distinct meets high

/-- A page of no messages. -/
theorem shown_empty_page {hasMore : Bool} :
    (app.handleServerMessage (.historyPage r [] hasMore)).shown r = app.shown r := by
  rw [shown_viewAfter, viewAfter, if_pos rfl, shown]
  cases app.rooms[r]? <;> rfl

/-- A key clears the view or leaves its messages, and asks only with the first of them. -/
theorem endsAt_key (after : app.KeyAfter draw key app' action) (ends : EndsAt l t (app.shown r)) :
    EndsAt l t (app'.shown r) ∧ ∀ before limit, action = .send (.loadHistory r before limit) →
      ∃ first ∈ app.shown r, first.sequence = before := by
  have views := after.view r
  rw [shown]
  generalize app'.rooms[r]? = view at views
  cases views with
  | same => exact ⟨ends, fun before limit sent => absurd sent (by simp_all)⟩
  | cleared =>
    refine ⟨?_, by simp⟩
    cases app.rooms[r]? <;> exact endsAt_nil
  | visited =>
    refine ⟨?_, by simp⟩
    rw [shown] at ends
    cases found : app.rooms[r]? <;> simpa [found] using ends
  | @older room first asks =>
    have held : app.shown r = room.items.filterMap UiItem.record := by
      rw [shown, asks.found, Option.map_some, Option.getD_some]
    refine ⟨held ▸ ends, fun before limit sent => ⟨first, ?_, ?_⟩⟩
    · rw [held]
      exact List.mem_of_head? (List.head?_filterMap.trans asks.oldest)
    · injection sent with same
      injection same

end

end ChatApp

namespace Feed

variable {r : String} {log : RoomLog r} {feed feed' : Feed} {delivery : Delivery}

/-- A message shown was told of. -/
theorem Follows.sequence_le (follows : Follows log feed) {message : ChatRecord}
    (mem : message ∈ feed.client.app.shown r) : message.sequence ≤ feed.told := by
  obtain ⟨k, shows⟩ := follows.shows
  rw [shows] at mem
  obtain ⟨i, -, inside, found⟩ := List.mem_segment.1 mem
  rw [log.numbered i message found]
  exact inside

theorem follows_key (follows : Follows log feed) {draw : Uuid} {event : KeyEvent} {client : Paging}
    (taken : feed.client.step (.key draw event) = some client) : Follows log ⟨client, feed.told⟩ := by
  simp only [Paging.step] at taken
  obtain ⟨⟨app, action⟩, handled, taken⟩ := Option.bind_eq_some_iff.1 taken
  obtain ⟨ends, asks⟩ := ChatApp.endsAt_key (ChatApp.handleKey_effects _ handled) follows.shows
  cases action with
  | none =>
    cases taken
    exact ⟨follows.known, ends, follows.asked⟩
  | send message =>
    cases taken
    by_cases accepts : ({ feed.client with app } : Paging).Accepts
    · rw [Paging.send, ChatView.send_accepted accepts, if_pos accepts]
      refine ⟨follows.known, ends, fun before mem => ?_⟩
      obtain old | new := List.mem_append.1 mem
      · exact follows.asked before old
      · cases message with
        | loadHistory roomId asked limit =>
          obtain ⟨rfl, rfl⟩ : r = roomId ∧ before = asked := by simpa [ClientMessage.older] using new
          obtain ⟨first, shown, rfl⟩ := asks before limit rfl
          exact follows.sequence_le shown
        | _ => cases new
    · obtain ⟨status, refused⟩ := @ChatView.send_refused _ message accepts
      rw [Paging.send, refused, if_neg accepts]
      exact ⟨follows.known, ends, follows.asked⟩
  | back | quit => cases taken

theorem follows_page (follows : Follows log feed) {roomId : String} {before : ℕ} {messages : List ChatRecord}
    {hasMore : Bool} (asked : (roomId, before) ∈ feed.client.unanswered)
    (below : roomId = r → ∃ k, messages = log.entries.segment k (before - 1))
    (front : roomId = r → messages ≠ [] →
      ∃ first, (feed.client.app.shown r).head? = some first ∧ first.sequence ≤ before) :
    EndsAt log.entries feed.told
      ((feed.client.app.handleServerMessage (.historyPage roomId messages hasMore)).shown r) := by
  by_cases own : roomId = r
  · subst own
    by_cases none : messages = []
    · rw [none, ChatApp.shown_empty_page]
      exact follows.shows
    · obtain ⟨first, head, low⟩ := front rfl none
      obtain ⟨j, rfl⟩ := below rfl
      obtain ⟨k, shows⟩ := follows.shows
      rw [shows, List.head?_segment] at head
      split at head
      · -- the first message shown is the one after the first `k` of the log
        rw [log.numbered k first head] at low
        have high : before ≤ feed.told := follows.asked before asked
        exact ChatApp.endsAt_page log.distinct shows (by omega) (by omega)
      · cases head
  · exact ChatApp.endsAt_other follows.shows rfl nofun fun _ _ _ same => by
      injection same with room
      exact room ▸ own

theorem follows_step (follows : Follows log feed) (order : InOrder log feed delivery)
    (front : InFront r feed delivery) (taken : feed.step delivery = some feed') : Follows log feed' := by
  obtain ⟨event, told⟩ := delivery
  obtain ⟨client, moved, rfl⟩ := Option.map_eq_some_iff.1 taken
  cases event with
  | key draw event =>
    obtain rfl : told = feed.told := order
    exact follows_key follows moved
  | paste raw =>
    obtain rfl : told = feed.told := order
    cases moved
    have views : feed.client.app.SameViews { feed.client.app.paste raw with input := feed.client.app.input } :=
      ChatApp.paste_views raw
    have same : (feed.client.app.paste raw).shown r = feed.client.app.shown r :=
      ChatApp.shown_of_rooms views.rooms r
    exact ⟨follows.known, same ▸ follows.shows, follows.asked⟩
  | forward =>
    obtain rfl : told = feed.told := order
    simp only [Paging.step] at moved
    split at moved
    · cases moved
      exact ⟨follows.known, follows.shows, follows.asked⟩
    · cases moved
  | page roomId before messages hasMore =>
    obtain ⟨rfl, below⟩ := order
    simp only [Paging.step] at moved
    split at moved
    · next asked =>
      cases moved
      exact ⟨follows.known, follows_page follows asked below front,
        fun other mem => follows.asked other (List.mem_of_mem_erase mem)⟩
    · cases moved
  | failed roomId before code text =>
    obtain rfl : told = feed.told := order
    simp only [Paging.step] at moved
    split at moved
    · cases moved
      exact ⟨follows.known, ChatApp.endsAt_other follows.shows rfl (by simp) (by simp),
        fun other mem => follows.asked other (List.mem_of_mem_erase mem)⟩
    · cases moved
  | close | disconnected | drained =>
    obtain rfl : told = feed.told := order
    cases moved
    exact ⟨follows.known, follows.shows, follows.asked⟩
  | server message =>
    simp only [Paging.step] at moved
    split at moved
    · cases moved
    next live =>
    cases moved
    cases message with
    | chat record =>
      simp only [InOrder] at order
      split at order
      · next own =>
        obtain ⟨found, rfl⟩ := order
        refine ⟨(List.getElem?_eq_some_iff.1 found).1, ChatApp.endsAt_live follows.shows own found, ?_⟩
        exact fun before mem => Nat.le_succ_of_le (follows.asked before mem)
      · next other =>
        subst order
        exact ⟨follows.known, ChatApp.endsAt_other follows.shows (by simp [ServerMessage.liveIn, other])
          (by simp) (by simp), follows.asked⟩
    | roomJoined room history =>
      simp only [InOrder] at order
      split at order
      · next own =>
        obtain ⟨later, inside, ends⟩ := order
        exact ⟨inside, (ChatApp.shown_joined own) ▸ ends,
          fun before mem => (follows.asked before mem).trans later⟩
      · next other =>
        subst order
        refine ⟨follows.known, ChatApp.endsAt_other follows.shows rfl (fun _ _ same => ?_) (by simp),
          follows.asked⟩
        injection same with joined
        exact joined ▸ other
    | historyPage => exact absurd rfl live
    | _ =>
      obtain rfl : told = feed.told := order
      exact ⟨follows.known, ChatApp.endsAt_other follows.shows rfl (by simp) (by simp), follows.asked⟩

theorem step_told (taken : feed.step delivery = some feed') : feed'.told = delivery.told := by
  obtain ⟨client, -, rfl⟩ := Option.map_eq_some_iff.1 taken
  rfl

theorem follows_start {session : Welcome} {told : ℕ} (known : told ≤ log.entries.length)
    (opens : session.roomId = r → EndsAt log.entries told session.history) :
    Follows log ⟨.start session, told⟩ := by
  refine ⟨known, ?_, nofun⟩
  show EndsAt log.entries told (ChatApp.records (ChatApp.new session).rooms[r]?)
  cases found : (ChatApp.new session).rooms[r]? with
  | none => exact endsAt_nil
  | some view =>
    rw [ChatApp.records, Option.map_some, Option.getD_some, (ChatApp.view_new found).1]
    split
    · next own =>
      rw [ChatApp.records_chat]
      exact opens own
    · exact endsAt_nil

/-- Each message shown is the one after the message above it. -/
def Consecutive (messages : List ChatRecord) : Prop :=
  messages.IsChain fun earlier later => later.sequence = earlier.sequence + 1

theorem consecutive_entries : Consecutive log.entries := by
  refine List.isChain_iff_getElem.2 fun i inside => ?_
  rw [log.numbered i _ (List.getElem?_eq_getElem (Nat.lt_of_succ_lt inside)),
    log.numbered (i + 1) _ (List.getElem?_eq_getElem inside)]

/-- **A view has no holes**, in every run in which each page finds the first message of the view no
later than the one that Page Up asked with: what a room shows is numbered without a gap. -/
theorem view_without_holes {r : String} (log : RoomLog r) (session : Welcome) {told : ℕ}
    (known : told ≤ log.entries.length)
    (opens : session.roomId = r → EndsAt log.entries told session.history)
    {deliveries : List Delivery} {feed : Feed}
    (run : Run step (fun feed delivery => InOrder log feed delivery ∧ InFront r feed delivery)
      ⟨.start session, told⟩ deliveries feed) : Consecutive (feed.client.app.shown r) := by
  have follows : Follows log feed :=
    run.preserves (fun _ _ _ follows allowed taken => follows_step follows allowed.1 allowed.2 taken)
      (follows_start known opens)
  obtain ⟨k, shows⟩ := follows.shows
  rw [shows]
  exact List.isChain_segment consecutive_entries

/-- The first three messages of a room. -/
def greetings : RoomLog "general" where
  entries := [greeting 1, greeting 2, greeting 3]
  ofRoom := by decide
  numbered := by
    intro i message found
    match i with
    | 0 | 1 | 2 =>
      cases found
      rfl
    | i + 3 => cases found
  distinct := by decide

theorem late_history : EndsAt greetings.entries 2 lateWelcome.history := ⟨1, rfl⟩

/-- A late client asks for what is before its history. A live message arrives first, and then the
page, above the view. -/
theorem view_without_holes_live : ∃ feed : Feed,
    Run step (InOrder greetings) ⟨.start lateWelcome, 2⟩ [⟨.key ⟨0⟩ ⟨.pageUp, false⟩, 2⟩,
      ⟨.server (.chat (greeting 3)), 3⟩, ⟨.page "general" 2 [greeting 1] false, 3⟩] feed ∧
    (feed.client.app.shown "general").map (·.sequence) = [1, 2, 3] ∧
      Consecutive (feed.client.app.shown "general") := by
  let asked : Delivery := ⟨.key ⟨0⟩ ⟨.pageUp, false⟩, 2⟩
  let live : Delivery := ⟨.server (.chat (greeting 3)), 3⟩
  let page : Delivery := ⟨.page "general" 2 [greeting 1] false, 3⟩
  have whole : ((((⟨.start lateWelcome, 2⟩ : Feed).step asked).bind (·.step live)).bind fun second =>
      if (second.client.app.shown "general").head? = some (greeting 2) then second.step page else none).map
        (fun feed => (feed.client.app.shown "general").map (·.sequence)) = some [1, 2, 3] := by
    decide +kernel
  obtain ⟨feed, ran, shown⟩ := Option.map_eq_some_iff.1 whole
  obtain ⟨second, ran, last⟩ := Option.bind_eq_some_iff.1 ran
  obtain ⟨first, start, next⟩ := Option.bind_eq_some_iff.1 ran
  obtain ⟨front, last⟩ := Option.ite_none_right_eq_some.1 last
  have toldOne : first.told = 2 := step_told start
  have toldTwo : second.told = 3 := step_told next
  have liveOrder : InOrder greetings first live := by
    refine ⟨?_, ?_⟩ <;> rw [toldOne]
    rfl
  have pageOrder : InOrder greetings second page := ⟨toldTwo.symm, fun _ => ⟨0, rfl⟩⟩
  have inFront : InFront "general" second page := fun _ _ => ⟨greeting 2, front, le_rfl⟩
  have run : Run step (fun feed delivery => InOrder greetings feed delivery ∧ InFront "general" feed delivery)
      ⟨.start lateWelcome, 2⟩ [asked, live, page] feed :=
    .cons ⟨rfl, trivial⟩ start (.cons ⟨liveOrder, trivial⟩ next (.cons ⟨pageOrder, inFront⟩ last (.nil _)))
  exact ⟨feed, run.mono fun _ _ both => both.1, shown,
    view_without_holes greetings lateWelcome (by decide) (fun _ => late_history) run⟩

/-- A view that is cleared while a page is on its way has a hole when the page comes after a live
message. -/
theorem view_with_hole : ¬ ∀ (r : String) (log : RoomLog r) (session : Welcome) (told : ℕ)
    (deliveries : List Delivery) (feed : Feed), told ≤ log.entries.length →
    (session.roomId = r → EndsAt log.entries told session.history) →
    Run step (InOrder log) ⟨.start session, told⟩ deliveries feed →
    Consecutive (feed.client.app.shown r) := by
  intro claim
  let asked : Delivery := ⟨.key ⟨0⟩ ⟨.pageUp, false⟩, 2⟩
  let cleared : Delivery := ⟨.key ⟨0⟩ ⟨.char 'l', true⟩, 2⟩
  let live : Delivery := ⟨.server (.chat (greeting 3)), 3⟩
  let page : Delivery := ⟨.page "general" 2 [greeting 1] false, 3⟩
  have hole : (((((⟨.start lateWelcome, 2⟩ : Feed).step asked).bind (·.step cleared)).bind
      (·.step live)).bind (·.step page)).map (fun feed => (feed.client.app.shown "general").map (·.sequence)) =
      some [1, 3] := by
    decide +kernel
  obtain ⟨feed, ran, shown⟩ := Option.map_eq_some_iff.1 hole
  obtain ⟨third, ran, last⟩ := Option.bind_eq_some_iff.1 ran
  obtain ⟨second, ran, next⟩ := Option.bind_eq_some_iff.1 ran
  obtain ⟨first, start, clear⟩ := Option.bind_eq_some_iff.1 ran
  have toldOne : first.told = 2 := step_told start
  have toldTwo : second.told = 2 := step_told clear
  have toldThree : third.told = 3 := step_told next
  have pageOrder : InOrder greetings third page := ⟨toldThree.symm, fun _ => ⟨0, rfl⟩⟩
  have liveOrder : InOrder greetings second live := by
    refine ⟨?_, ?_⟩ <;> rw [toldTwo]
    rfl
  have run : Run step (InOrder greetings) ⟨.start lateWelcome, 2⟩ [asked, cleared, live, page] feed :=
    .cons rfl start (.cons toldOne.symm clear (.cons liveOrder next (.cons pageOrder last (.nil _))))
  have consecutive := claim "general" greetings lateWelcome 2 _ feed (by decide) (fun _ => late_history) run
  have numbers : ((feed.client.app.shown "general").map (·.sequence)).IsChain fun a b => b = a + 1 :=
    (List.isChain_map _).2 consecutive
  rw [shown] at numbers
  exact absurd numbers (by decide)

end Feed

end LanChat
