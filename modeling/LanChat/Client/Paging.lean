import LanChat.Client.Views

/-!
# Asking for older messages

`run_chat` with the queue of the view, and the requests for history that have no
answer yet. Page Up marks the room as loading before its request is queued, and
only a page takes the mark away.
-/

namespace LanChat

open Transition

/-- What a request for history asks for: the messages of a room before one. -/
def ClientMessage.older : ClientMessage → Option (String × ℕ)
  | .loadHistory roomId before _ => some (roomId, before)
  | _ => none

def ServerMessage.isHistory : ServerMessage → Bool
  | .historyPage _ _ _ => true
  | _ => false

/-- `unanswered` are the requests for history that the queue has taken and that have no answer. -/
structure Paging extends ChatView where
  unanswered : List (String × ℕ)

/-- An answer names the request that it is for. -/
inductive PagingEvent where
  | key (draw : Uuid) (event : KeyEvent)
  | paste (raw : String)
  | forward
  | page (roomId : String) (before : ℕ) (messages : List ChatRecord) (hasMore : Bool)
  | failed (roomId : String) (before : ℕ) (code text : String)
  | server (message : ServerMessage)
  | close
  | disconnected (reason : String)
  | drained

namespace Paging

def start (session : Welcome) : Paging := { ChatView.start session with unanswered := [] }

variable (p : Paging)

/-- `run_chat` hands the view's message to the queue of the connection. -/
def send (message : ClientMessage) : Paging :=
  { toChatView := p.toChatView.send message
    unanswered := if p.Accepts then p.unanswered ++ message.older.toList else p.unanswered }

def step : PagingEvent → Option Paging
  | .key draw event => do
    let (app, action) ← p.app.handleKey draw event
    match action with
    | .none => some { p with app }
    | .send message => some (({ p with app } : Paging).send message)
    -- the session is over
    | .back | .quit => none
  | .paste raw => some { p with app := p.app.paste raw }
  | .forward => match p.outgoing with
    | _ :: rest => some { p with outgoing := rest }
    | [] => none
  | .page roomId before messages hasMore =>
    if (roomId, before) ∈ p.unanswered then
      some { p with
        app := p.app.handleServerMessage (.historyPage roomId messages hasMore)
        unanswered := p.unanswered.erase (roomId, before) }
    else none
  | .failed roomId before code text =>
    if (roomId, before) ∈ p.unanswered then
      some { p with
        app := p.app.handleServerMessage (.error code text)
        unanswered := p.unanswered.erase (roomId, before) }
    else none
  | .server message =>
    if message.isHistory then none else some { p with app := p.app.handleServerMessage message }
  | .close => some { p with toChatView := p.toChatView.close }
  | .disconnected reason => some { p with app := p.app.handleServerEvent (.disconnected reason) }
  | .drained => some { p with toChatView := p.toChatView.drained }

/-- A request for the history of the room has no answer yet. -/
def Awaits (r : String) : Prop := ∃ before, (r, before) ∈ p.unanswered

end Paging

namespace ChatApp

variable (app : ChatApp)

/-- The mark of a room whose history is asked for. -/
def loading (r : String) : Bool := app.rooms[r]?.any (·.loadingHistory)

variable {app} {app' : ChatApp} {message : ServerMessage} {draw : Uuid} {key : KeyEvent} {action : ChatKeyAction}
  {r : String}

theorem loading_of_rooms (rooms : app'.rooms = app.rooms) : app'.loading r = app.loading r := by
  rw [loading, rooms, loading]

/-- No message sets the mark, and a page of the room takes it away. -/
theorem loading_step (marked : (app.handleServerMessage message).loading r = true) :
    app.loading r = true ∧ ∀ messages hasMore, message ≠ .historyPage r messages hasMore := by
  rw [loading, view_step] at marked
  have same : ∀ {change : RoomView → RoomView}, (app.rooms[r]?.map change).any (·.loadingHistory) = true →
      (∀ view, (change view).loadingHistory = view.loadingHistory) → app.loading r = true := by
    intro change marked keeps
    rw [Option.any_map] at marked
    simpa only [loading, Function.comp_def, keeps] using marked
  cases message with
  | chat message =>
    refine ⟨?_, by simp⟩
    simp only [viewAfter] at marked
    split at marked
    · exact same marked fun _ => rfl
    · exact marked
  | roomCreated room =>
    refine ⟨?_, by simp⟩
    simp only [viewAfter] at marked
    split at marked
    · rw [loading]
      cases found : app.rooms[r]? with
      | none =>
        rw [found] at marked
        cases marked
      | some view => simpa [found] using marked
    · exact marked
  | roomJoined room history =>
    refine ⟨?_, by simp⟩
    simp only [viewAfter] at marked
    split at marked
    · cases marked
    · exact marked
  | roomLeft roomId =>
    refine ⟨?_, by simp⟩
    simp only [viewAfter] at marked
    split at marked
    · rw [loading]
      cases found : app.rooms[r]? with
      | none =>
        rw [found] at marked
        cases marked
      | some view =>
        rw [found, Option.filter_some] at marked
        split at marked
        · exact marked
        · cases marked
    · exact marked
  | historyPage roomId messages hasMore =>
    simp only [viewAfter] at marked
    split at marked
    · cases found : app.rooms[r]? with
      | none =>
        rw [found] at marked
        cases marked
      | some view =>
        rw [found] at marked
        cases marked
    · next other =>
      refine ⟨marked, fun _ _ same => ?_⟩
      injection same with room
      exact other room
  | memberJoined member =>
    refine ⟨?_, by simp⟩
    simp only [viewAfter] at marked
    split at marked
    · exact same marked fun _ => rfl
    · exact marked
  | memberLeft sessionId =>
    refine ⟨?_, by simp⟩
    simp only [viewAfter] at marked
    split at marked
    · split at marked
      · exact same marked fun _ => rfl
      · exact marked
    · exact marked
  | _ => exact ⟨marked, by simp⟩

/-- Only the key that asks for the history of the room sets the mark. -/
theorem loading_key (after : app.KeyAfter draw key app' action) (marked : app'.loading r = true) :
    app.loading r = true ∨ ∃ room first, app.AsksOlder key.code r room first ∧
      action = .send (.loadHistory r first.sequence 100) := by
  have views := after.view r
  rw [loading] at marked
  generalize app'.rooms[r]? = view at views marked
  cases views with
  | same => exact .inl marked
  | cleared | visited =>
    rw [Option.any_map] at marked
    exact .inl marked
  | older asks => exact .inr ⟨_, _, asks, rfl⟩

end ChatApp

namespace Paging

variable {p p' : Paging} {event : PagingEvent}

/-- Every room that is marked as loading has a request without an answer. -/
def Waits (p : Paging) : Prop := ∀ r, p.app.loading r = true → p.Awaits r

/-- No request for history is refused by a queue that is full or closed, and none fails, unless another
one of its room has no answer. -/
def Kept (p : Paging) : PagingEvent → Prop
  | .key _ event => ∀ (r : String) (room : RoomView) (first : ChatRecord),
      p.app.AsksOlder event.code r room first →
      p.Accepts ∨ p.Awaits r
  | .failed roomId before _ _ =>
    p.app.loading roomId = true → ∃ other, (roomId, other) ∈ p.unanswered.erase (roomId, before)
  | _ => True

theorem waits_send {message : ClientMessage} (waits : ∀ r, p.app.loading r = true → p.Awaits r ∨
      p.Accepts ∧ ∃ before, message.older = some (r, before)) : (p.send message).Waits := by
  intro r marked
  by_cases accepts : p.Accepts
  · rw [send, ChatView.send_accepted accepts] at marked
    rw [Awaits, send, if_pos accepts]
    obtain ⟨before, mem⟩ | ⟨-, before, older⟩ := waits r marked
    · exact ⟨before, List.mem_append_left _ mem⟩
    · exact ⟨before, List.mem_append_right _ (by rw [older]; exact List.mem_singleton_self _)⟩
  · obtain ⟨status, refused⟩ := @ChatView.send_refused p.toChatView message accepts
    rw [send, refused] at marked
    rw [Awaits, send, if_neg accepts]
    exact (waits r marked).resolve_right fun taken => accepts taken.1

theorem waits_step (waits : p.Waits) (kept : p.Kept event) (taken : p.step event = some p') : p'.Waits := by
  cases event with
  | key draw event =>
    simp only [step] at taken
    obtain ⟨⟨app, action⟩, handled, taken⟩ := Option.bind_eq_some_iff.1 taken
    have after := ChatApp.handleKey_effects _ handled
    cases action with
    | none =>
      cases taken
      intro r marked
      obtain marked | ⟨_, _, _, sent⟩ := ChatApp.loading_key after marked
      · exact waits r marked
      · cases sent
    | send message =>
      cases taken
      refine waits_send fun r marked => ?_
      obtain marked | ⟨room, first, asks, sent⟩ := ChatApp.loading_key after marked
      · exact .inl (waits r marked)
      · obtain rfl := ChatKeyAction.send.inj sent
        obtain fits | awaits := kept r room first asks
        · exact .inr ⟨fits, _, rfl⟩
        · exact .inl awaits
    | back | quit => cases taken
  | paste raw =>
    cases taken
    have views : p.app.SameViews { p.app.paste raw with input := p.app.input } := ChatApp.paste_views raw
    intro r marked
    exact waits r ((ChatApp.loading_of_rooms views.rooms).symm.trans marked)
  | forward =>
    simp only [step] at taken
    split at taken
    · cases taken
      exact waits
    · cases taken
  | page roomId before messages hasMore =>
    simp only [step] at taken
    split at taken
    · cases taken
      intro r marked
      obtain ⟨marked, other⟩ := ChatApp.loading_step marked
      obtain ⟨asked, mem⟩ := waits r marked
      refine ⟨asked, (List.mem_erase_of_ne fun same => ?_).2 mem⟩
      obtain rfl : r = roomId := congrArg Prod.fst same
      exact other messages hasMore rfl
    · cases taken
  | failed roomId before code text =>
    simp only [step] at taken
    split at taken
    · cases taken
      intro r marked
      have marked : p.app.loading r = true := (ChatApp.loading_step marked).1
      by_cases own : r = roomId
      · subst own
        exact kept marked
      · obtain ⟨asked, mem⟩ := waits r marked
        refine ⟨asked, (List.mem_erase_of_ne fun same => own (congrArg Prod.fst same)).2 mem⟩
    · cases taken
  | server message =>
    simp only [step] at taken
    split at taken
    · cases taken
    · cases taken
      exact fun r marked => waits r (ChatApp.loading_step marked).1
  | close | disconnected | drained =>
    cases taken
    exact waits

theorem waits_start (session : Welcome) : (start session).Waits := by
  intro r marked
  obtain ⟨view, found, loading⟩ := (Option.any_eq_true _ _).1 marked
  rw [(ChatApp.view_new found).2] at loading
  cases loading

/-- **Paging is never stuck**, in every run in which a request is refused or fails only while another
one of its room has no answer: a room is marked as loading only while a request for its history has
no answer, and otherwise Page Up asks for the messages before the first one shown. -/
theorem paging_never_stuck (session : Welcome) {events : List PagingEvent} {p : Paging}
    (run : Run step Kept (start session) events p) (r : String) :
    (p.app.loading r = true → p.Awaits r) ∧
    ∀ (room : RoomView) (first : ChatRecord), p.app.Writing → p.app.active = .room r →
      p.app.rooms[r]? = some room → room.hasMoreHistory = true →
      room.items.findSome? UiItem.record = some first → ¬ p.Awaits r →
      ∀ draw control, ∃ app', p.app.handleKey draw ⟨.pageUp, control⟩ =
        some (app', .send (.loadHistory r first.sequence 100)) := by
  have waits : p.Waits :=
    run.preserves (fun _ _ _ waits kept taken => waits_step waits kept taken) (waits_start session)
  refine ⟨waits r, fun room first writing active found more oldest silent draw control => ?_⟩
  have unmarked : room.loadingHistory = false := by
    by_contra marked
    exact silent (waits r (by simpa [ChatApp.loading, found] using marked))
  have asks : p.app.AsksOlder .pageUp r room first :=
    ⟨rfl, writing, active, found, by rw [more, unmarked]; rfl, oldest⟩
  exact @ChatApp.AsksOlder.sends _ ⟨.pageUp, control⟩ draw _ _ _ asks

/-- Page Up of a late client, whose request is under way. -/
theorem paging_never_stuck_asked : ∃ p : Paging,
    (start lateWelcome).step (.key ⟨0⟩ ⟨.pageUp, false⟩) = some p ∧ p.Awaits "general" := by
  have asked : ((start lateWelcome).step (.key ⟨0⟩ ⟨.pageUp, false⟩)).map (fun p => p.app.loading "general") =
      some true := by
    decide +kernel
  obtain ⟨p, taken, marked⟩ := Option.map_eq_some_iff.1 asked
  have kept : (start lateWelcome).Kept (.key ⟨0⟩ ⟨.pageUp, false⟩) := fun _ _ _ _ => .inl (by decide)
  exact ⟨p, taken, (paging_never_stuck lateWelcome (.cons kept taken (.nil p)) "general").1 marked⟩

/-- A request that fails leaves its room marked, and Page Up asks no more. -/
theorem paging_stuck : ¬ ∀ (session : Welcome) (events : List PagingEvent) (p : Paging) (r : String),
    Run step anyAction (start session) events p → p.app.loading r = true → p.Awaits r := by
  intro claim
  have stuck : (exec step (fun _ => true) (start lateWelcome) [.key ⟨0⟩ ⟨.pageUp, false⟩, .forward,
      .failed "general" 2 "rate_limited" "maximum rate is 24 messages per second"]).map
        (fun p => (p.app.loading "general", p.unanswered)) = some (true, []) := by
    decide +kernel
  obtain ⟨p, ran, after⟩ := Option.map_eq_some_iff.1 stuck
  obtain ⟨marked, none⟩ := Prod.mk.inj after
  have run : Run step anyAction (start lateWelcome) _ p := run_of_exec (fun _ _ _ => trivial) ran
  obtain ⟨before, awaits⟩ := claim lateWelcome _ p "general" run marked
  rw [none] at awaits
  cases awaits

end Paging

end LanChat
