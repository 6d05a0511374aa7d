import LanChat.Base.Roster
import LanChat.Server.Sockets

/-!
# Who a client sees online

A client starts from the members of its `Welcome` and follows `MemberJoined` and
`MemberLeft`. A session is registered before it is announced, and removed before its
leave is; in between the other clients may or may not see it (`Present`). A session that
is removed because its `Welcome` could not be built or written is never announced as
having left, so the runs are those in which no admission is abandoned.
-/

namespace LanChat

open Transition Roster

/-- The session of a task whose arrival has been announced. -/
def Task.announced : Task → Option (Uuid × Session)
  | serving groupId me _ _ _ | leaving groupId me => some (groupId, me)
  | _ => none

/-- The members of the `Welcome` that a task is working on. -/
def Task.roster : Task → Option (List Peer)
  | loadingRooms _ _ _ members | loadingHistory _ _ _ members _ => some members
  | welcoming _ _ (.welcome welcome) => some welcome.members
  | _ => none

def Task.isAbandoning : Task → Bool
  | abandoning _ _ => true
  | _ => false

def ServerMessage.presence : ServerMessage → Option (Roster.Event Uuid)
  | .memberJoined member => some (.joined member.sessionId)
  | .memberLeft sessionId => some (.left sessionId)
  | _ => none

/-- The members a client starts from: those of the `Welcome` it has been sent, or is being sent. -/
inductive Conn.Starts (conn : Conn) (members : List Peer) : Prop where
  | preparing (roster : conn.task.roster = some members)
  | welcomed {welcome : Welcome} {rest : List ServerMessage} (phase : conn.task.phase = .welcomed)
      (seen : conn.seen = .welcome welcome :: rest) (same : welcome.members = members)

namespace Gateway

variable {prims : Primitives} {gateway gateway' : Gateway} {conn : Conn} {outcome : Outcome}

/-- The sessions of a group that have been announced. -/
def announced (gateway : Gateway) (g : Uuid) : Set Uuid :=
  {s | ∃ c ∈ gateway.conns, ∃ me, c.task.announced = some (g, me) ∧ me.peer.sessionId = s}

/-- The sessions of a group whose leave has not been announced. -/
def present (gateway : Gateway) (g : Uuid) : Set Uuid :=
  {s | ∃ c ∈ gateway.conns, c.task.groupId = some g ∧ c.task.sessionId = some s}

/-- Changes that say nothing of arrivals and departures. -/
def Discreet (changes : List Change) : Prop :=
  ∀ change ∈ changes, ∀ whom message, change = .send whom message → message.presence = none

/-- **The stages of a session.** -/
inductive Stage (gateway : Gateway) (conn : Conn) (outcome : Outcome) : Prop where
  | outside (before : conn.task.sessionId = none) (after : outcome.task.sessionId = none)
      (discreet : Discreet outcome.changes)
  | registers {g : Uuid} {entry : GroupEntry} {group : GroupState} {s : Uuid}
      (task : conn.task = .entering g entry) (fresh : gateway.isFreshSession s = true)
      (found : gateway.group g = some group) (registered : outcome = gateway.register group g entry s)
  | goesOn (session : outcome.task.session = conn.task.session) (inside : conn.task.session.isSome = true)
      (announced : outcome.task.announced = conn.task.announced)
      (roster : ∀ members, outcome.task.roster = some members → conn.task.roster = some members)
      (discreet : Discreet outcome.changes)
  | announces {g : Uuid} {me : Session} (task : conn.task = .announcing g me)
      (next : outcome.task = .serving g me 0 0 none)
      (changes : outcome.changes = [.send (.others me.peer.sessionId) (.memberJoined me.peer)])
  | leaves {g : Uuid} {me : Session} (task : conn.task = .leaving g me) (next : outcome.task = .farewell g me)
      (changes : outcome.changes = [.remove me.peer.sessionId])
  | parts {g : Uuid} {me : Session} (task : conn.task = .farewell g me) (next : outcome.task = .closed)
      (changes : outcome.changes = [.send .everyone (.memberLeft me.peer.sessionId)])
  | abandons (task : conn.task.isAbandoning = true)

theorem Discreet.nil : Discreet [] := by simp [Discreet]

theorem stage_outside (before : conn.task.sessionId = none) (after : outcome.task.sessionId = none)
    (changes : outcome.changes = []) : Stage gateway conn outcome :=
  .outside before after (by simp [Discreet, changes])

/-- Handlers tell of nobody's arrival or departure. -/
theorem discreet_block (quiet : QuietReplies conn) {g : Uuid} {me : Session} {used violations : ℕ}
    {handler : Handler} (task : conn.task = .serving g me used violations (some handler)) {group : GroupState}
    {changes : List Change} {next : Option Handler} (blocked : handler.block group me = some (changes, next)) :
    Discreet changes := by
  have plain : ∀ {message : ServerMessage}, message.tracked = false → message.presence = none := by
    intro message untracked
    cases message <;> first | rfl | cases untracked
  cases Handler.blocks blocked with
  | finished answers =>
    rcases answers with ⟨code, text, rfl⟩ | rfl
    · simp [Discreet, Handler.finish, ServerMessage.presence]
    · have untracked := plain (quiet _ (by rw [task]; rfl))
      intro change mem whom sent same
      subst same
      simp only [Handler.finish, List.mem_cons, Change.send.injEq, reduceCtorEq, List.not_mem_nil, or_false] at mem
      rw [mem.2]
      exact untracked
  | _ => simp [Discreet, ServerMessage.presence]

theorem sessionId_of_inLobby {task : Task} (lobby : task.inLobby = true ∨ task.isNaming = true) :
    task.sessionId = none := by
  cases task <;> first | rfl | simp [Task.inLobby, Task.isNaming] at lobby

/-- Without a session a step registers one, or goes on without. -/
theorem stage_of_outside {action : Action} (h : gateway.outcome prims conn action = some outcome)
    (before : conn.task.sessionId = none) : Stage gateway conn outcome := by
  cases taken h with
  | lobby _ after => exact stage_outside before (sessionId_of_inLobby (.inl after)) rfl
  | admits | creates | inserts | names => exact stage_outside before rfl rfl
  | registers task fresh found => exact .registers task fresh found rfl
  | inside session | removes session =>
    rw [Task.sessionId_of_session session] at before
    cases before
  | calls task | blocks task | parts task =>
    rw [task] at before
    cases before

theorem stage_serving {g : Uuid} {me : Session} {used violations : ℕ}
    (task : conn.task = .serving g me used violations none) {action : Action}
    (h : gateway.outcome prims conn action = some outcome) : Stage gateway conn outcome := by
  have goesOn : ∀ {used' violations' handler} {changes : List Change} {written : List ServerMessage},
      Discreet changes → Stage gateway conn
        { gateway.moveTo (.serving g me used' violations' handler) with changes, written } := by
    intro _ _ _ _ _ discreet
    exact .goesOn (by rw [task]; rfl) (by rw [task]; rfl) (by rw [task]; rfl) (by simp [Task.roster]) discreet
  have stops : ∀ {changes : List Change} {written : List ServerMessage}, Discreet changes →
      Stage gateway conn { gateway.moveTo (.leaving g me) with changes, written } := by
    intro _ _ discreet
    exact .goesOn (by rw [task]; rfl) (by rw [task]; rfl) (by rw [task]; rfl) (by simp [Task.roster]) discreet
  cases action with
  | accept | restart => cases h
  | receive id message newWindow =>
    simp only [Gateway.outcome, task, Option.some.injEq] at h
    subst h
    simp only [onMessage]
    generalize (if newWindow = true then 0 else used) + 1 = count
    split
    · split
      · exact stops .nil
      · exact goesOn (by simp [Discreet, ServerMessage.presence])
    · split
      · rename_i reply answers
        refine goesOn ?_
        rcases dispatch_answer answers with ⟨code, text, rfl⟩ | rfl <;> simp [Discreet, ServerMessage.presence]
      · exact goesOn .nil
  | advance => simp [Gateway.outcome, task, advance] at h
  | flush id =>
    simp only [Gateway.outcome, task] at h
    obtain ⟨client, -, h⟩ := Option.bind_eq_some_iff.1 h
    obtain ⟨message, -, h⟩ := Option.map_eq_some_iff.1 h
    subst h
    simp only
    split
    · exact stops (by simp [Discreet])
    · exact goesOn (by simp [Discreet])
  | kicked id =>
    simp only [Gateway.outcome, task] at h
    obtain ⟨reason, -, h⟩ := Option.map_eq_some_iff.1 h
    subst h
    exact stops .nil
  | disconnect id =>
    simp only [Gateway.outcome, task, Option.some.injEq] at h
    subst h
    exact stops .nil

theorem stage (quiet : QuietReplies conn) {action : Action}
    (h : gateway.outcome prims conn action = some outcome) : Stage gateway conn outcome := by
  cases task : conn.task with
  | loadingRooms g entry me members =>
    cases action with
    | advance id draw fault =>
      simp only [Gateway.outcome, task, advance, Option.some.injEq] at h
      subst h
      simp only [loadRooms]
      split <;> exact .goesOn (by rw [task]; rfl) (by rw [task]; rfl) (by rw [task]; rfl)
        (by simp [task, Task.roster]) .nil
    | _ => simp [Gateway.outcome, task] at h
  | loadingHistory g entry me members rooms =>
    cases action with
    | advance id draw fault =>
      simp only [Gateway.outcome, task, advance] at h
      obtain ⟨group, -, h⟩ := Option.map_eq_some_iff.1 h
      subst h
      simp only [loadHistory]
      split <;> exact .goesOn (by rw [task]; rfl) (by rw [task]; rfl) (by rw [task]; rfl)
        (by simp [task, Task.roster, welcomeOf]) .nil
    | _ => simp [Gateway.outcome, task] at h
  | welcoming g me message =>
    cases action with
    | advance id draw fault =>
      simp only [Gateway.outcome, task, advance, Option.some.injEq] at h
      subst h
      simp only [sendWelcome]
      split <;> exact .goesOn (by rw [task]; rfl) (by rw [task]; rfl) (by rw [task]; rfl)
        (by simp [task, Task.roster]) .nil
    | _ => simp [Gateway.outcome, task] at h
  | abandoning g me => exact .abandons (by rw [task]; rfl)
  | announcing g me =>
    cases action with
    | advance id draw fault =>
      simp only [Gateway.outcome, task, advance, Option.some.injEq] at h
      subst h
      exact .announces task rfl rfl
    | _ => simp [Gateway.outcome, task] at h
  | serving g me used violations handler =>
    cases handler with
    | none => exact stage_serving task h
    | some handler =>
      cases action with
      | advance id draw fault =>
        simp only [Gateway.outcome, task, advance] at h
        obtain ⟨group, -, h⟩ := Option.bind_eq_some_iff.1 h
        unfold serve at h
        split at h
        · cases h
          refine .goesOn (by rw [task]; rfl) (by rw [task]; rfl) (by rw [task]; rfl) (by simp [Task.roster]) ?_
          simp only [holds]
          split <;> simp [Discreet]
        · obtain ⟨⟨changes, next⟩, blocked, h⟩ := Option.map_eq_some_iff.1 h
          cases h
          exact .goesOn (by rw [task]; rfl) (by rw [task]; rfl) (by rw [task]; rfl) (by simp [Task.roster])
            (discreet_block quiet task blocked)
      | _ => simp [Gateway.outcome, task] at h
  | leaving g me =>
    cases action with
    | advance id draw fault =>
      simp only [Gateway.outcome, task, advance, Option.some.injEq] at h
      subst h
      exact .leaves task rfl rfl
    | _ => simp [Gateway.outcome, task] at h
  | farewell g me =>
    cases action with
    | advance id draw fault =>
      simp only [Gateway.outcome, task, advance, Option.some.injEq] at h
      subst h
      exact .parts task rfl rfl
    | _ => simp [Gateway.outcome, task] at h
  | _ => exact stage_of_outside h (by rw [task]; rfl)

/-! ## The feed of a session -/

end Gateway

/-- The arrivals and departures a channel has accepted. -/
def ClientEntry.feed (client : ClientEntry) : List (Roster.Event Uuid) :=
  client.news.filterMap ServerMessage.presence

namespace Gateway

variable {prims : Primitives} {gateway gateway' : Gateway} {conn : Conn} {outcome : Outcome}

theorem feed_discreet (tells : Tells conn outcome) (discreet : Discreet outcome.changes) (client : ClientEntry) :
    (client.applyAll outcome.changes).feed = client.feed := by
  obtain same | ⟨whom, message, sends, news⟩ := news_after tells client
  · rw [ClientEntry.feed, same]
    rfl
  · have silent := discreet _ sends whom message rfl
    rw [ClientEntry.feed, news, List.filterMap_append]
    simp [silent, ClientEntry.feed]

/-- A notice reaches a session that it is for, unless its channel is full. -/
theorem feed_told {client : ClientEntry} {whom : Recipients} {message : ServerMessage} {event : Roster.Event Uuid}
    (tracked : message.tracked = true) (reports : message.presence = some event) (isFor : whom.selects client = true)
    (kept : (client.applyAll [.send whom message]).sender.dropped = false) :
    (client.applyAll [.send whom message]).feed = client.feed ++ [event] := by
  rw [ClientEntry.applyAll_cons, ClientEntry.applyAll_nil] at *
  obtain news | ⟨-, dropped⟩ := @ClientEntry.news_send client whom message tracked
  · rw [ClientEntry.feed, news, if_pos isFor, List.filterMap_append]
    simp [reports, ClientEntry.feed]
  · rw [dropped] at kept
    cases kept

theorem feed_untold {client : ClientEntry} {whom : Recipients} {message : ServerMessage}
    (notFor : whom.selects client = false) : (client.applyAll [.send whom message]).feed = client.feed := by
  rw [ClientEntry.applyAll_cons, ClientEntry.applyAll_nil, ClientEntry.apply, notFor]
  rfl

/-! ## Who is announced and who is present -/

theorem announced_commit {g : Uuid}
    (kept : ∀ me, outcome.task.announced = some (g, me) → conn.task.announced = some (g, me))
    (mem : conn ∈ gateway.conns) : (gateway.commit conn outcome).announced g ⊆ gateway.announced g := by
  rintro s ⟨c, hc, me, announced, same⟩
  rcases mem_conns_commit hc with ⟨was, -⟩ | rfl
  · exact ⟨c, was, me, announced, same⟩
  · exact ⟨conn, mem, me, kept me announced, same⟩

theorem present_commit {g : Uuid} (kept : ∀ s, conn.task.groupId = some g → conn.task.sessionId = some s →
      outcome.task.groupId = some g ∧ outcome.task.sessionId = some s)
    (owned : Owned gateway) (mem : conn ∈ gateway.conns) :
    gateway.present g ⊆ (gateway.commit conn outcome).present g := by
  rintro s ⟨c, hc, inGroup, isSession⟩
  by_cases own : c.id = conn.id
  · obtain rfl := owned.eq_of_id hc mem own
    exact ⟨after c outcome, after_mem_commit mem, kept s inGroup isSession⟩
  · exact ⟨c, other_mem_commit hc own, inGroup, isSession⟩

theorem Task.session_of_announced {task : Task} {g : Uuid} {me : Session} (announced : task.announced = some (g, me)) :
    task.session = some (g, me) := by
  cases task <;> first | exact announced | cases announced

/-- **What clients see** of a group lies between who was announced and who is there. -/
structure Present (gateway : Gateway) : Prop where
  sessionIds : ∀ c ∈ gateway.conns, ∀ d ∈ gateway.conns, ∀ s, c.task.sessionId = some s →
    d.task.sessionId = some s → c = d
  view : ∀ c ∈ gateway.conns, ∀ g me client members, c.task.session = some (g, me) →
    gateway.Seat g me.peer.sessionId client → client.sender.dropped = false → c.Starts members →
    Between (insert me.peer.sessionId (gateway.announced g)) (gateway.present g)
      (Roster.after {s | ∃ member ∈ members, member.sessionId = s} client.feed)

theorem sessionIds_commit (present : Present gateway) (mem : conn ∈ gateway.conns)
    (stage : Stage gateway conn outcome) (carriesOn : conn.task.isAbandoning = false) :
    ∀ c ∈ (gateway.commit conn outcome).conns, ∀ d ∈ (gateway.commit conn outcome).conns, ∀ s,
      c.task.sessionId = some s → d.task.sessionId = some s → c = d := by
  -- the session id of the task afterwards is no other task's
  have apart : ∀ d ∈ gateway.conns, d.id ≠ conn.id → ∀ s, outcome.task.sessionId = some s →
      d.task.sessionId ≠ some s := by
    intro d hd other s now same
    have ofBefore : conn.task.sessionId = some s → False := by
      intro before
      exact other (congrArg Conn.id (present.sessionIds d hd conn mem s same before))
    cases stage with
    | outside _ after =>
      rw [after] at now
      cases now
    | registers _ fresh _ registered =>
      subst registered
      cases now
      exact (isFreshSession_iff.1 fresh).1 d hd same
    | goesOn session inside =>
      obtain ⟨⟨g, me⟩, before⟩ := Option.isSome_iff_exists.1 inside
      rw [Task.sessionId_of_session (session.trans before)] at now
      exact ofBefore ((Task.sessionId_of_session before).trans now)
    | announces task next | leaves task next =>
      rw [next] at now
      exact ofBefore (by rw [task]; exact now)
    | parts _ next =>
      rw [next] at now
      cases now
    | abandons abandoning =>
      rw [carriesOn] at abandoning
      cases abandoning
  intro c hc d hd s sc sd
  rcases mem_conns_commit hc with ⟨wasC, otherC⟩ | rfl <;> rcases mem_conns_commit hd with ⟨wasD, otherD⟩ | rfl
  · exact present.sessionIds c wasC d wasD s sc sd
  · exact absurd sc (apart c wasC otherC s sd)
  · exact absurd sd (apart d wasD otherD s sc)
  · rfl

/-- The members that a session starts from stay. -/
theorem starts_before (served : Served gateway) (mem : conn ∈ gateway.conns) {action : Action}
    (h : gateway.outcome prims conn action = some outcome)
    (roster : ∀ members, outcome.task.roster = some members → conn.task.roster = some members)
    {members : List Peer} (starts : (after conn outcome).Starts members) : conn.Starts members := by
  cases starts with
  | preparing now => exact .preparing (roster members now)
  | @welcomed welcome rest phase seen same =>
    change outcome.task.phase = .welcomed at phase
    rw [seen_after] at seen
    cases writes h with
    | other untracked _ stays =>
      have nothing : outcome.written.filter ServerMessage.tracked = [] :=
        List.filter_eq_nil_iff.2 fun message sent => by simp [untracked message sent]
      rw [nothing, List.append_nil] at seen
      refine .welcomed ?_ seen same
      simpa [phase, eq_comm] using stays
    | prepares _ _ _ now =>
      rw [now] at phase
      cases phase
    | welcome task _ _ written =>
      obtain ⟨session, rfl⟩ := served.wired.prepared conn mem _ (by rw [task]; rfl)
      rw [served.wired.early conn mem (by rw [task]; rfl), written] at seen
      cases seen
      exact .preparing (by rw [task, ← same]; rfl)
    | queued task =>
      obtain ⟨client, first, -, was⟩ := served.wired.seen served.seats mem (by rw [task]; rfl) (by rw [task]; rfl)
      rw [was] at seen
      cases seen
      exact .welcomed (by rw [task]; rfl) was same

/-! ## Steps of other sessions -/

/-- A step that announces nobody new in the group and takes nobody away from it. -/
theorem between_quiet (owned : Owned gateway) (mem : conn ∈ gateway.conns) {g self : Uuid} {view : Set Uuid}
    (between : Between (insert self (gateway.announced g)) (gateway.present g) view)
    (announced : ∀ me, outcome.task.announced = some (g, me) → conn.task.announced = some (g, me))
    (kept : ∀ s, conn.task.groupId = some g → conn.task.sessionId = some s →
      outcome.task.groupId = some g ∧ outcome.task.sessionId = some s) :
    Between (insert self ((gateway.commit conn outcome).announced g)) ((gateway.commit conn outcome).present g) view :=
  between.mono (Set.insert_subset_insert (announced_commit announced mem)) (present_commit kept owned mem)

/-- An announcement is of one session. -/
theorem announced_announces {g g' : Uuid} {me : Session} (next : outcome.task = .serving g' me 0 0 none) :
    (gateway.commit conn outcome).announced g ⊆ insert me.peer.sessionId (gateway.announced g) := by
  rintro s ⟨d, hd, me', announced, same⟩
  rcases mem_conns_commit hd with ⟨was, -⟩ | rfl
  · exact .inr ⟨d, was, me', announced, same⟩
  · change outcome.task.announced = _ at announced
    rw [next] at announced
    cases announced
    exact .inl same.symm

theorem session_announces {g g' : Uuid} {me : Session} (task : conn.task = .announcing g' me)
    (next : outcome.task = .serving g' me 0 0 none) : ∀ s, conn.task.groupId = some g →
      conn.task.sessionId = some s → outcome.task.groupId = some g ∧ outcome.task.sessionId = some s := by
  intro s inGroup isSession
  rw [task] at inGroup isSession
  rw [next]
  exact ⟨inGroup, isSession⟩

section
variable {g g' self : Uuid} {me' : Session} {client client' : ClientEntry} {view : Set Uuid}
  (owned : Owned gateway) (mem : conn ∈ gateway.conns)
  (now : client' = client.applyAll outcome.changes ∧ conn.task.groupId = some g ∨
    client' = client ∧ conn.task.groupId ≠ some g)
  (kept : client'.sender.dropped = false)
  (between : Between (insert self (gateway.announced g)) (gateway.present g) (Roster.after view client.feed))

include owned mem now kept between

/-- The clients of a group see a session that is announced in it. -/
theorem view_announces (task : conn.task = .announcing g' me') (next : outcome.task = .serving g' me' 0 0 none)
    (changes : outcome.changes = [.send (.others me'.peer.sessionId) (.memberJoined me'.peer)])
    (apart : client.peer.sessionId ≠ me'.peer.sessionId) :
    Between (insert self ((gateway.commit conn outcome).announced g)) ((gateway.commit conn outcome).present g)
      (Roster.after view client'.feed) := by
  rcases now with ⟨rfl, acts⟩ | ⟨rfl, elsewhere⟩
  · rw [task] at acts
    cases acts
    rw [changes] at kept ⊢
    have isFor : (Recipients.others me'.peer.sessionId).selects client = true := by
      simpa [Recipients.selects] using apart
    rw [feed_told rfl rfl isFor kept, Roster.after_append]
    refine between.join ?_ (present_commit (session_announces task next) owned mem) ?_
    · rw [Set.insert_comm]
      exact Set.insert_subset_insert (announced_announces next)
    · exact ⟨_, after_mem_commit mem, by rw [show (after conn outcome).task = _ from next]; rfl,
        by rw [show (after conn outcome).task = _ from next]; rfl⟩
  · refine between_quiet owned mem between (fun me announced => ?_) (session_announces task next)
    rw [next] at announced
    cases announced
    exact absurd (by rw [task]; rfl) elsewhere

/-- The clients of a group no longer see a session whose leave is told in it. -/
theorem view_parts (present : Present gateway) (task : conn.task = .farewell g' me') (next : outcome.task = .closed)
    (changes : outcome.changes = [.send .everyone (.memberLeft me'.peer.sessionId)])
    (apart : me'.peer.sessionId ≠ self) :
    Between (insert self ((gateway.commit conn outcome).announced g)) ((gateway.commit conn outcome).present g)
      (Roster.after view client'.feed) := by
  have silent : ∀ me, outcome.task.announced = some (g, me) → conn.task.announced = some (g, me) := by
    intro me announced
    rw [next] at announced
    cases announced
  rcases now with ⟨rfl, acts⟩ | ⟨rfl, elsewhere⟩
  · rw [changes] at kept ⊢
    rw [feed_told rfl rfl rfl kept, Roster.after_append]
    refine between.leave (Set.insert_subset_insert (announced_commit silent mem)) ?_ ?_
    · rintro (same | ⟨d, hd, me'', announced, same⟩)
      · exact apart same
      · have isSession := Task.sessionId_of_session (Task.session_of_announced announced)
        rcases mem_conns_commit hd with ⟨wasD, otherD⟩ | rfl
        · refine otherD (congrArg Conn.id (present.sessionIds d wasD conn mem _ isSession ?_))
          rw [task, same]
          rfl
        · change outcome.task.announced = _ at announced
          rw [next] at announced
          cases announced
    · rintro s ⟨d, hd, inGroup, isSession⟩
      by_cases own : d.id = conn.id
      · obtain rfl := owned.eq_of_id hd mem own
        rw [task] at isSession
        cases isSession
        exact .inl rfl
      · exact .inr ⟨d, other_mem_commit hd own, inGroup, isSession⟩
  · exact between_quiet owned mem between silent fun s inGroup _ => absurd inGroup elsewhere

end

/-- **What a client sees after another session's step.** -/
theorem view_other (present : Present gateway) (served : Served gateway) (mem : conn ∈ gateway.conns)
    {action : Action} (h : gateway.outcome prims conn action = some outcome) (stage : Stage gateway conn outcome)
    (carriesOn : conn.task.isAbandoning = false) {c : Conn} (hc : c ∈ gateway.conns) (other : c.id ≠ conn.id)
    {g : Uuid} {me : Session} (session : c.task.session = some (g, me)) {client' : ClientEntry}
    (seat : (gateway.commit conn outcome).Seat g me.peer.sessionId client') (kept : client'.sender.dropped = false)
    {members : List Peer} (starts : c.Starts members) :
    Between (insert me.peer.sessionId ((gateway.commit conn outcome).announced g))
      ((gateway.commit conn outcome).present g)
      (Roster.after {s | ∃ member ∈ members, member.sessionId = s} client'.feed) := by
  have told := tells (served.posted.replies conn mem) h
  obtain ⟨client, was, now⟩ := Seat.before h hc session seat
  have keptBefore : client.sender.dropped = false := by
    rcases now with ⟨rfl, -⟩ | ⟨rfl, -⟩
    · exact ClientEntry.dropped_applyAll kept
    · exact kept
  have between := present.view c hc g me client members session was keptBefore starts
  have quietly : Discreet outcome.changes → client'.feed = client.feed := by
    intro discreet
    rcases now with ⟨rfl, -⟩ | ⟨rfl, -⟩
    · exact feed_discreet told discreet client
    · rfl
  have ownId : client.peer.sessionId = me.peer.sessionId := by
    obtain ⟨_, _, -, -, same⟩ := was
    exact same
  have apart : ∀ s, conn.task.sessionId = some s → s ≠ me.peer.sessionId := by
    rintro s isSession rfl
    exact other (congrArg Conn.id (present.sessionIds c hc conn mem _ (Task.sessionId_of_session session) isSession))
  cases stage with
  | outside before after discreet =>
    rw [quietly discreet]
    refine between_quiet served.owned mem between (fun me' announced => ?_) fun s _ isSession => ?_
    · rw [Task.sessionId_of_session (Task.session_of_announced announced)] at after
      cases after
    · rw [before] at isSession
      cases isSession
  | registers task _ _ registered =>
    subst registered
    rw [quietly (by simp [Discreet, register])]
    refine between_quiet served.owned mem between (fun me' announced => by cases announced)
      fun s _ isSession => ?_
    rw [task] at isSession
    cases isSession
  | goesOn session' inside announced _ discreet =>
    obtain ⟨⟨g', me'⟩, before⟩ := Option.isSome_iff_exists.1 inside
    rw [quietly discreet]
    refine between_quiet served.owned mem between (fun me' now => announced ▸ now) fun s inGroup isSession => ?_
    rw [Task.groupId_of_session before] at inGroup
    rw [Task.sessionId_of_session before] at isSession
    rw [Task.groupId_of_session (session'.trans before), Task.sessionId_of_session (session'.trans before)]
    exact ⟨inGroup, isSession⟩
  | @announces g' me' task next changes =>
    refine view_announces served.owned mem now kept between task next changes ?_
    rw [ownId]
    exact (apart me'.peer.sessionId (by rw [task]; rfl)).symm
  | @leaves g' me' task next changes =>
    rw [quietly (by simp [Discreet, changes])]
    refine between_quiet served.owned mem between (fun me' announced => ?_) fun s inGroup isSession => ?_
    · rw [next] at announced
      cases announced
    · rw [task] at inGroup isSession
      rw [next]
      exact ⟨inGroup, isSession⟩
  | @parts g' me' task next changes =>
    exact view_parts served.owned mem now kept between present task next changes
      (apart me'.peer.sessionId (by rw [task]; rfl))
  | abandons abandoning =>
    rw [carriesOn] at abandoning
    cases abandoning

/-! ## Steps of the session itself -/

/-- A session that registers starts from the sessions that are there. -/
theorem between_registered (served : Served gateway) (known : Known gateway) (mem : conn ∈ gateway.conns)
    {g s : Uuid} {entry : GroupEntry} {group : GroupState} (task : conn.task = .entering g entry)
    (found : gateway.group g = some group) (registered : outcome = gateway.register group g entry s) :
    Between (insert s ((gateway.commit conn outcome).announced g)) ((gateway.commit conn outcome).present g)
      {t | ∃ member ∈ Table.orderBy (fun peer => textKey peer.nickname)
        (group.clients.map (·.peer) ++ [(entry.session s).peer]), member.sessionId = t} := by
  obtain ⟨inGroups, ofGroup⟩ := group_some found
  constructor
  · rintro t (rfl | ⟨c, hc, me, announced, rfl⟩)
    · exact ⟨(entry.session t).peer, Table.mem_orderBy.2 (List.mem_append_right _ (List.mem_singleton_self _)), rfl⟩
    · rcases mem_conns_commit hc with ⟨was, -⟩ | rfl
      · obtain ⟨client, group', inGroups', same, inGroup, ownId⟩ :=
          served.seats.taken c was g me (Task.session_of_announced announced)
        obtain rfl := known.eq_of_id inGroups inGroups' (ofGroup.trans same.symm)
        exact ⟨client.peer, Table.mem_orderBy.2 (List.mem_append_left _ (List.mem_map_of_mem inGroup)), ownId⟩
      · subst registered
        cases announced
  · rintro t ⟨member, isMember, rfl⟩
    rcases List.mem_append.1 (Table.mem_orderBy.1 isMember) with isClient | itself
    · obtain ⟨client, inGroup, rfl⟩ := List.mem_map.1 isClient
      obtain ⟨c, hc, me, session, same, -⟩ := served.owned.owners group inGroups client inGroup
      have other : c.id ≠ conn.id := by
        intro own
        rw [served.owned.eq_of_id hc mem own, task] at session
        cases session
      rw [ofGroup] at session
      exact ⟨c, other_mem_commit hc other, Task.groupId_of_session session, by
        rw [← same]
        exact Task.sessionId_of_session session⟩
    · obtain rfl := List.mem_singleton.1 itself
      subst registered
      exact ⟨_, after_mem_commit mem, rfl, rfl⟩

/-- **What a client sees after a step of its own session.** -/
theorem view_own (present : Present gateway) (served : Served gateway) (known : Known gateway)
    (mem : conn ∈ gateway.conns) {action : Action} (h : gateway.outcome prims conn action = some outcome)
    (stage : Stage gateway conn outcome) (carriesOn : conn.task.isAbandoning = false) {g : Uuid} {me : Session}
    (session : outcome.task.session = some (g, me)) {client' : ClientEntry}
    (seat : (gateway.commit conn outcome).Seat g me.peer.sessionId client') (kept : client'.sender.dropped = false)
    {members : List Peer} (starts : (after conn outcome).Starts members) :
    Between (insert me.peer.sessionId ((gateway.commit conn outcome).announced g))
      ((gateway.commit conn outcome).present g)
      (Roster.after {s | ∃ member ∈ members, member.sessionId = s} client'.feed) := by
  have told := tells (served.posted.replies conn mem) h
  -- a session that had its seat before
  have stays : conn.task.session = some (g, me) →
      (∀ members, outcome.task.roster = some members → conn.task.roster = some members) → ∃ client : ClientEntry,
      client' = client.applyAll outcome.changes ∧ client.peer.sessionId = me.peer.sessionId ∧
        Between (insert me.peer.sessionId (gateway.announced g)) (gateway.present g)
          (Roster.after {s | ∃ member ∈ members, member.sessionId = s} client.feed) := by
    intro before roster
    obtain ⟨client, was, ⟨rfl, -⟩ | ⟨-, elsewhere⟩⟩ := Seat.before h mem before seat
    · have ownId : client.peer.sessionId = me.peer.sessionId := by
        obtain ⟨_, _, -, -, same⟩ := was
        exact same
      exact ⟨client, rfl, ownId, present.view conn mem g me client members before was
        (ClientEntry.dropped_applyAll kept) (starts_before served mem h roster starts)⟩
    · exact absurd (Task.groupId_of_session before) elsewhere
  cases stage with
  | outside _ after =>
    rw [Task.sessionId_of_session session] at after
    cases after
  | @registers g' entry group s task fresh found registered =>
    have sameSession := session
    rw [registered] at sameSession
    cases sameSession
    have same : Table.orderBy (fun peer => textKey peer.nickname)
        (group.clients.map (·.peer) ++ [(entry.session s).peer]) = members := by
      cases starts with
      | preparing roster =>
        change outcome.task.roster = some members at roster
        rw [registered] at roster
        exact Option.some.inj roster
      | welcomed phase =>
        change outcome.task.phase = .welcomed at phase
        rw [registered] at phase
        cases phase
    have nothing : client'.feed = [] := by
      cases seatStep h seat with
      | own was =>
        obtain ⟨_, inGroups, -, isClient, taken⟩ := was
        exact absurd taken ((isFreshSession_iff.1 fresh).2 _ inGroups _ isClient)
      | other _ elsewhere => exact absurd (by rw [task]; rfl) elsewhere
      | registered _ _ _ _ now =>
        rw [now]
        rfl
    rw [nothing, ← same]
    exact between_registered served known mem task found registered
  | goesOn same inside announced roster discreet =>
    have before : conn.task.session = some (g, me) := same.symm.trans session
    obtain ⟨client, rfl, -, between⟩ := stays before roster
    rw [feed_discreet told discreet client]
    refine between_quiet served.owned mem between (fun me' now => announced ▸ now) fun s inGroup isSession => ?_
    rw [Task.sessionId_of_session before] at isSession
    exact ⟨Task.groupId_of_session session, (Task.sessionId_of_session session).trans isSession⟩
  | @announces g' me' task next changes =>
    have before : conn.task.session = some (g, me) := by
      rw [next] at session
      rw [task]
      exact session
    obtain ⟨client, rfl, ownId, between⟩ := stays before (by simp [next, Task.roster])
    have itself : me' = me := by
      rw [task] at before
      cases before
      rfl
    rw [changes, feed_untold (by simp [Recipients.selects, ownId, itself])]
    refine between.mono ?_ (present_commit (session_announces task next) served.owned mem)
    rw [← itself]
    exact Set.insert_subset (Set.mem_insert _ _) (announced_announces next)
  | leaves _ next | parts _ next =>
    rw [next] at session
    cases session
  | abandons abandoning =>
    rw [carriesOn] at abandoning
    cases abandoning

/-! ## Runs -/

theorem Present.commit (present : Present gateway) (served : Served gateway) (known : Known gateway)
    (mem : conn ∈ gateway.conns) {action : Action} (h : gateway.outcome prims conn action = some outcome)
    (carriesOn : conn.task.isAbandoning = false) : Present (gateway.commit conn outcome) := by
  have staged := stage (served.posted.replies conn mem) h
  constructor
  · exact sessionIds_commit present mem staged carriesOn
  · intro c hc g me client members session seat kept starts
    rcases mem_conns_commit hc with ⟨was, other⟩ | rfl
    · exact view_other present served mem h staged carriesOn was other session seat kept starts
    · exact view_own present served known mem h staged carriesOn session seat kept starts

theorem present_spawned (h : Spawned gateway) : Present gateway := by
  obtain ⟨conns, -⟩ := unseated_spawned h
  constructor <;> simp [conns]

/-- No session is removed because its `Welcome` could not be built or written. -/
def Admits (gateway : Gateway) (action : Action) : Prop :=
  ∀ c ∈ gateway.conns, action.actor = some c.id → c.task.isAbandoning = false

theorem present_step {action : Action} (present : Present gateway) (served : Served gateway) (known : Known gateway)
    (admits : Admits gateway action) (h : gateway.step prims action = some gateway') : Present gateway' := by
  rcases step_cases h with ⟨id, remote, -, -, rfl⟩ | ⟨-, rfl⟩ | ⟨conn, mem, acts, outcome, taken, rfl⟩
  · -- a new connection has no session
    have old : ∀ c ∈ gateway.conns ++ [{ id, remote, task := .hello, written := [] }], ∀ s,
        c.task.sessionId = some s → c ∈ gateway.conns := by
      intro c hc s isSession
      rcases List.mem_append.1 hc with was | new
      · exact was
      · rw [List.mem_singleton.1 new] at isSession
        cases isSession
    constructor
    · intro c hc d hd s sc sd
      exact present.sessionIds c (old c hc s sc) d (old d hd s sd) s sc sd
    · intro c hc g me client members session seat kept starts
      have was := old c hc _ (Task.sessionId_of_session session)
      refine (present.view c was g me client members session seat kept starts).mono
        (Set.insert_subset_insert ?_) ?_
      · rintro s ⟨d, hd, me', announced, same⟩
        have isSession := Task.sessionId_of_session (Task.session_of_announced announced)
        exact ⟨d, old d hd _ isSession, me', announced, same⟩
      · rintro s ⟨d, hd, inGroup, isSession⟩
        exact ⟨d, List.mem_append_left _ hd, inGroup, isSession⟩
  · constructor
    · intro c hc d hd s sc
      obtain ⟨c, -, rfl⟩ := List.mem_map.1 hc
      cases sc
    · intro c hc g me client members session
      obtain ⟨c, -, rfl⟩ := List.mem_map.1 hc
      cases session
  · exact present.commit served known mem taken (admits conn mem acts)

/-- What every run keeps of who is there and who has been told of it. -/
structure Attended (gateway : Gateway) : Prop where
  served : Served gateway
  known : Known gateway
  present : Present gateway

theorem attended_run {start : Gateway} {actions : List Action} (spawned : Spawned start)
    (run : Run (step prims) Admits start actions gateway) : Attended gateway := by
  refine run.preserves (fun before action after attended admits h => ?_)
    ⟨served_spawned spawned, known_spawned spawned, present_spawned spawned⟩
  exact ⟨served_step attended.served h, known_step attended.known h,
    present_step attended.present attended.served attended.known admits h⟩

end Gateway

/-! ## The member list of the chat view -/

theorem mem_members_foldl {app : ChatApp} {messages : List ServerMessage} {s : Uuid} :
    s ∈ (messages.foldl ChatApp.handleServerMessage app).members ↔
      s ∈ Roster.after {t | t ∈ app.members} (messages.filterMap ServerMessage.presence) := by
  induction messages generalizing app with
  | nil => rfl
  | cons message messages ih =>
    have step : {t | t ∈ (app.handleServerMessage message).members} =
        Roster.after {t | t ∈ app.members} (message.presence.toList) := by
      ext t
      rw [Set.mem_ofPred_eq, ChatApp.mem_members_step]
      cases message with
      | memberJoined member =>
        show _ ↔ t ∈ insert member.sessionId _
        rw [Set.mem_insert_iff, eq_comm]
        rfl
      | memberLeft left =>
        show _ ↔ t ∈ _ \ {left}
        rw [Set.mem_sdiff, Set.mem_singleton_iff, and_comm, eq_comm (a := t)]
        rfl
      | _ => rfl
    rw [List.foldl_cons, ih, step, ← Roster.after_append, List.filterMap_cons]
    cases message.presence <;> rfl

/-- Untracked messages tell a client of nobody. -/
theorem presence_tracked (messages : List ServerMessage) :
    (messages.filter ServerMessage.tracked).filterMap ServerMessage.presence =
      messages.filterMap ServerMessage.presence := by
  rw [List.filterMap_filter]
  congr 1
  funext message
  cases message <;> rfl

/-- **The member list of a client** that has read these messages. -/
theorem mem_members_clientOf {messages rest : List ServerMessage} {welcome : Welcome}
    (seen : messages.filter ServerMessage.tracked = .welcome welcome :: rest) :
    ∃ app, clientOf messages = some app ∧ ∀ s, s ∈ app.members ↔
      s ∈ Roster.after {t | ∃ member ∈ welcome.members, member.sessionId = t}
        (rest.filterMap ServerMessage.presence) := by
  obtain ⟨early, later, rfl, untracked, -, rfl⟩ := List.filter_eq_cons_iff.1 seen
  refine ⟨_, clientOf_welcome fun message mem other same => untracked message mem (by rw [same]; rfl), fun s => ?_⟩
  rw [mem_members_foldl, presence_tracked]
  have start : {t | t ∈ (ChatApp.new welcome).members} =
      {t | ∃ member ∈ welcome.members, member.sessionId = t} := by
    ext t
    exact ChatApp.mem_members_new
  rw [start]

namespace Gateway

variable {prims : Primitives} {gateway : Gateway} {conn : Conn} {g : Uuid}

/-- Every session of the group has been announced, and none is still to be seen off. -/
def AllTold (gateway : Gateway) (g : Uuid) : Prop :=
  ∀ c ∈ gateway.conns, c.task.groupId = some g → c.task.sessionId.isSome = true → c.task.announced.isSome = true

theorem announced_iff_seat (told : gateway.AllTold g) (served : Served gateway) {s : Uuid} :
    s ∈ gateway.announced g ↔ ∃ client, gateway.Seat g s client := by
  constructor
  · rintro ⟨c, hc, me, announced, rfl⟩
    exact served.seats.taken c hc g me (Task.session_of_announced announced)
  · rintro ⟨client, group, inGroups, rfl, inGroup, rfl⟩
    obtain ⟨c, hc, me, session, same, -⟩ := served.owned.owners group inGroups client inGroup
    obtain ⟨⟨g', me'⟩, announced⟩ := Option.isSome_iff_exists.1 (told c hc (Task.groupId_of_session session)
      (by rw [Task.sessionId_of_session session]; rfl))
    have again := Task.session_of_announced announced
    rw [session] at again
    cases again
    exact ⟨c, hc, me, announced, by rw [same]⟩

theorem present_subset_announced (told : gateway.AllTold g) : gateway.present g ⊆ gateway.announced g := by
  rintro s ⟨c, hc, inGroup, isSession⟩
  obtain ⟨⟨g', me⟩, announced⟩ := Option.isSome_iff_exists.1 (told c hc inGroup (by rw [isSession]; rfl))
  have session := Task.session_of_announced announced
  have group := (Task.groupId_of_session session).symm.trans inGroup
  cases group
  exact ⟨c, hc, me, announced, Option.some.inj ((Task.sessionId_of_session session).symm.trans isSession)⟩

/-- **The member lists converge.** In a run in which no admission is abandoned, a client that
has received what its channel holds shows every session that has been announced and nobody
whose leave has been announced; once all are told of, its list is the registry's. -/
theorem members_converge {start : Gateway} {actions : List Action} (spawned : Spawned start)
    (run : Run (step prims) Admits start actions gateway) (mem : conn ∈ gateway.conns) {me : Session}
    {client : ClientEntry} (session : conn.task.session = some (g, me)) (welcomed : conn.task.phase = .welcomed)
    (seat : gateway.Seat g me.peer.sessionId client) (kept : client.sender.dropped = false)
    (caughtUp : client.sender.taken = client.sender.log.length) :
    ∃ app, clientOf conn.written = some app ∧
      gateway.announced g ⊆ {s | s ∈ app.members} ∧ {s | s ∈ app.members} ⊆ gateway.present g ∧
      (gateway.AllTold g → ∀ s, s ∈ app.members ↔ ∃ client, gateway.Seat g s client) := by
  obtain ⟨served, known, present⟩ := attended_run spawned run
  obtain ⟨client', welcome, seat', seen⟩ := served.wired.seen served.seats mem session welcomed
  obtain rfl := served.seats.one g me.peer.sessionId client client' seat seat'
  rw [caughtUp, List.take_length] at seen
  obtain ⟨app, shows, members⟩ := mem_members_clientOf seen
  have between := present.view conn mem g me client welcome.members session seat kept (.welcomed welcomed seen rfl)
  have view : Roster.after {t | ∃ member ∈ welcome.members, member.sessionId = t} client.feed =
      {s | s ∈ app.members} := by
    ext s
    exact (members s).symm
  rw [view] at between
  have announced := (Set.subset_insert _ _).trans between.lower
  refine ⟨app, shows, announced, between.upper, fun told s => ?_⟩
  rw [← announced_iff_seat told served]
  have presence : {s | s ∈ app.members} = gateway.present g :=
    between.settled ((present_subset_announced told).trans (Set.subset_insert _ _))
  have settled : {s | s ∈ app.members} = gateway.announced g :=
    Set.Subset.antisymm (presence.subset.trans (present_subset_announced told)) announced
  rw [← settled]
  rfl

/-- The gateway of two once the founder has been told of the joiner. -/
def introduced : Gateway :=
  let token := generateCredential "admin" 10
  let issued := generateCredential "member" 30
  let founderEntry := memberEntry founder token [.memberJoined joiner.peer]
  let founderConn := memberConn 1 founder [] [founder.peer] (some ⟨token, none⟩) none
  { teamOfTwo with
    groups := [⟨team, [{ founderEntry with sender := { founderEntry.sender with taken := 1 } },
      memberEntry joiner issued []], [generalSummary], none⟩]
    conns := [{ founderConn with written := founderConn.written ++ [.memberJoined joiner.peer] },
      memberConn 2 joiner [team] [founder.peer, joiner.peer] none (some issued)] }

theorem run_introduced : Run (step .checksummed) Admits blank
    (founds ++ (authorizes 2 30 ++ enters 2 40) ++ [.flush 1]) introduced := by
  have noneAbandoned : ∀ gateway action, gateway.conns.all (fun c => !c.task.isAbandoning) = true →
      Admits gateway action := by
    intro gateway action admits c hc _
    simpa using List.all_eq_true.1 admits c hc
  exact run_of_exec noneAbandoned
    (by decide +kernel : exec (step .checksummed) (fun gateway => gateway.conns.all fun c => !c.task.isAbandoning)
      blank (founds ++ (authorizes 2 30 ++ enters 2 40) ++ [.flush 1]) = some introduced)

theorem members_converge_introduced : ∃ conn ∈ introduced.conns, conn.id = 1 ∧
    ∃ app, clientOf conn.written = some app ∧ ∀ s, s ∈ app.members ↔ ∃ client, introduced.Seat ⟨10⟩ s client := by
  refine ⟨_, List.mem_cons_self, rfl, ?_⟩
  obtain ⟨app, shows, -, -, exact⟩ := members_converge spawned_blank run_introduced List.mem_cons_self (g := ⟨10⟩)
    rfl rfl ⟨_, List.mem_cons_self, rfl, List.mem_cons_self, rfl⟩ rfl rfl
  refine ⟨app, shows, exact fun c hc _ _ => ?_⟩
  have told : introduced.conns.all (·.task.announced.isSome) = true := by decide +kernel
  exact List.all_eq_true.1 told c hc

end Gateway

end LanChat
