import LanChat.Server.Steps

/-!
# Runs of the gateway

The reachable states of the gateway, and the invariant that ties the registered
sessions to the connections that own them (`Owned`).
-/

namespace LanChat

open Transition

/-- A gateway just spawned on an empty database. -/
def Spawned (gateway : Gateway) : Prop :=
  ∃ key configuredName draw, spawnGateway (.empty key) configuredName draw = .ok gateway

/-- The states of the gateway, from a spawn through any steps. -/
def Reachable (prims : Primitives) (gateway : Gateway) : Prop :=
  ∃ start actions, Spawned start ∧ Run (Gateway.step prims) anyAction start actions gateway

namespace Gateway

variable {prims : Primitives} {gateway gateway' : Gateway} {conn : Conn} {outcome : Outcome}

/-! ## Sessions and changes -/

/-- The changes a handler's block can make. -/
def ofBlock : Change → Bool
  | .register _ | .remove _ | .hold _ _ _ | .receive _ => false
  | _ => true

theorem block_changes {group : GroupState} {me : Session} {handler : Handler} {changes : List Change}
    {next : Option Handler} (h : handler.block group me = some (changes, next)) :
    ∀ change ∈ changes, ofBlock change = true := by
  cases Handler.blocks h <;> simp [ofBlock, Handler.finish]

/-- Changes that neither register nor remove a session. -/
def KeepsSessions (changes : List Change) : Prop :=
  ∀ change ∈ changes, (∀ client, change ≠ .register client) ∧
    ∀ sessionId, change ≠ .remove sessionId

theorem KeepsSessions.nil : KeepsSessions [] := by simp [KeepsSessions]

/-- No block of a handler registers or removes a session. -/
theorem block_keeps {group : GroupState} {me : Session} {handler : Handler} {changes : List Change}
    {next : Option Handler} (h : handler.block group me = some (changes, next)) :
    KeepsSessions changes := by
  intro change mem
  have inBlock := block_changes h change mem
  refine ⟨?_, ?_⟩
  all_goals
    rintro _ rfl
    cases inBlock

theorem holds_keeps (groupId : Uuid) (me : Session) (handler : Handler) (reply : StoreReply) :
    KeepsSessions (gateway.holds prims groupId me handler reply) := by
  unfold holds
  split <;> simp [KeepsSessions]

/-- What a step does to the session of its task. -/
inductive SessionStep (gateway : Gateway) (conn : Conn) (outcome : Outcome) : Prop where
  | outside (before : conn.task.session = none) (after : outcome.task.session = none)
      (keeps : KeepsSessions outcome.changes)
  | registers {groupId : Uuid} {entry : GroupEntry} {group : GroupState} {sessionId : Uuid}
      (task : conn.task = .entering groupId entry)
      (fresh : gateway.isFreshSession sessionId = true) (found : gateway.group groupId = some group)
      (registered : outcome = gateway.register group groupId entry sessionId)
  | inside {groupId : Uuid} {me : Session} (before : conn.task.session = some (groupId, me))
      (after : outcome.task.session = some (groupId, me)) (keeps : KeepsSessions outcome.changes)
  | removes {groupId : Uuid} {me : Session} (before : conn.task.session = some (groupId, me))
      (after : outcome.task.session = none)
      (removed : outcome.changes = [.remove me.peer.sessionId])

theorem InsideChanges.keeps {task : Task} {me : Session} {changes : List Change}
    (speaks : InsideChanges task me changes) : KeepsSessions changes := by
  cases speaks <;> simp [KeepsSessions]

theorem Task.session_of_inLobby {task : Task} (lobby : task.inLobby = true) : task.session = none := by
  cases task <;> first | rfl | cases lobby

theorem Task.session_of_isNaming {task : Task} (naming : task.isNaming = true) : task.session = none := by
  cases task <;> first | rfl | cases naming

theorem sessionStep {action : Action} (h : gateway.outcome prims conn action = some outcome) :
    SessionStep gateway conn outcome := by
  cases taken h with
  | lobby before after =>
    exact .outside (before.elim Task.session_of_inLobby Task.session_of_isNaming)
      (Task.session_of_inLobby after) .nil
  | admits task | creates task | inserts task | names task =>
    exact .outside (by rw [task]; rfl) rfl .nil
  | registers task fresh found => exact .registers task fresh found rfl
  | inside before _ after _ speaks => exact .inside before after speaks.keeps
  | calls task => exact .inside (by rw [task]; rfl) rfl (holds_keeps _ _ _ _)
  | blocks task _ blocked => exact .inside (by rw [task]; rfl) rfl (block_keeps blocked)
  | removes before _ after => exact .removes before (by rcases after with rfl | rfl <;> rfl) rfl
  | parts task => exact .outside (by rw [task]; rfl) rfl (by simp [KeepsSessions])

theorem KeepsSessions.mem {changes : List Change} (keeps : KeepsSessions changes)
    {group : GroupState} {client' : ClientEntry}
    (h : client' ∈ (group.applyAll changes).clients) :
    ∃ client ∈ group.clients, client' = client.applyAll changes := by
  rcases GroupState.mem_applyAll h with old | ⟨before, new, after, rfl, -⟩
  · exact old
  · exact absurd rfl ((keeps (.register new) (by simp)).1 new)

/-! ## Sessions and their connections -/

/-- Every registered session belongs to one connection, whose task knows its
peer and its role, and no two connections share a session. -/
structure Owned (gateway : Gateway) : Prop where
  connIds : (gateway.conns.map Conn.id).Nodup
  sessionIds : ∀ c ∈ gateway.conns, ∀ d ∈ gateway.conns, ∀ g g' me me',
    c.task.session = some (g, me) → d.task.session = some (g', me') →
    me.peer.sessionId = me'.peer.sessionId → c = d
  owners : ∀ group ∈ gateway.groups, ∀ client ∈ group.clients, ∃ c ∈ gateway.conns, ∃ me,
    c.task.session = some (group.summary.groupId, me) ∧ me.peer = client.peer ∧
      me.role = client.role

theorem Owned.eq_of_id (owned : Owned gateway) {c d : Conn} (hc : c ∈ gateway.conns)
    (hd : d ∈ gateway.conns) (same : c.id = d.id) : c = d :=
  List.inj_on_of_nodup_map owned.connIds hc hd same

/-- The session of a task is that of its entry. -/
theorem Owned.peer_eq (owned : Owned gateway) {group : GroupState} {client : ClientEntry}
    {groupId : Uuid} {me : Session} (mem : conn ∈ gateway.conns)
    (session : conn.task.session = some (groupId, me)) (inGroup : group ∈ gateway.groups)
    (entry : client ∈ group.clients) (same : client.peer.sessionId = me.peer.sessionId) :
    client.peer = me.peer ∧ client.role = me.role ∧ group.summary.groupId = groupId := by
  obtain ⟨d, memd, me', session', peer, role⟩ := owned.owners group inGroup client entry
  obtain rfl := owned.sessionIds conn mem d memd groupId _ me me' session session' (by rw [peer, same])
  rw [session] at session'
  cases session'
  exact ⟨peer.symm, role.symm, rfl⟩

theorem isFreshSession_iff {sessionId : Uuid} : gateway.isFreshSession sessionId = true ↔
    (∀ c ∈ gateway.conns, c.task.sessionId ≠ some sessionId) ∧
    ∀ group ∈ gateway.groups, ∀ client ∈ group.clients, client.peer.sessionId ≠ sessionId := by
  simp [isFreshSession]

theorem Task.sessionId_of_session {task : Task} {g : Uuid} {me : Session}
    (session : task.session = some (g, me)) : task.sessionId = some me.peer.sessionId := by
  cases task <;> cases session <;> rfl

/-- A fresh id is that of no session. -/
theorem ne_of_isFreshSession {sessionId g : Uuid} {me : Session}
    (fresh : gateway.isFreshSession sessionId = true) (mem : conn ∈ gateway.conns)
    (session : conn.task.session = some (g, me)) : me.peer.sessionId ≠ sessionId := by
  have other := (isFreshSession_iff.1 fresh).1 conn mem
  rw [Task.sessionId_of_session session] at other
  exact fun same => other (congrArg some same)

theorem spawnGateway_ok {store : GatewayStore} {name : String} {draw : Draw}
    (h : spawnGateway store name draw = .ok gateway) :
    sanitizeGroupName name = .ok gateway.gatewayName ∧
      gateway.store = (store.gatewayId draw).2 ∧
      gateway.groups = loadGroups gateway.store ∧ gateway.conns = [] := by
  obtain ⟨gatewayName, sanitized, h⟩ := bind_eq_ok.1 h
  cases h
  exact ⟨sanitized, rfl, rfl, rfl⟩

theorem loadGroups_empty {store : GatewayStore} : ∀ group ∈ loadGroups store, group.clients = [] := by
  intro group mem
  obtain ⟨summary, -, rfl⟩ := List.mem_map.1 mem
  rfl

theorem owned_spawned (h : Spawned gateway) : Owned gateway := by
  obtain ⟨key, name, draw, h⟩ := h
  obtain ⟨-, -, groups, conns⟩ := spawnGateway_ok h
  refine ⟨by simp [conns], by simp [conns], fun group mem client entry => ?_⟩
  rw [groups] at mem
  simp [loadGroups_empty group mem] at entry

/-- Connections keep their identifiers. -/
theorem map_id_commit :
    (gateway.commit conn outcome).conns.map Conn.id = gateway.conns.map Conn.id := by
  simp only [commit, List.map_map]
  refine List.map_congr_left fun other _ => ?_
  simp only [Function.comp_apply]
  split
  · rename_i same
    exact same.symm
  · rfl

/-- Only a task that has created a group inserts one, without sessions. -/
theorem inserted_cases {action : Action} (h : gateway.outcome prims conn action = some outcome) :
    outcome.inserted = none ∨ ∃ client created, conn.task = .insertingGroup client created ∧
      outcome = gateway.insertGroup client created := by
  cases taken h with
  | inserts task => exact .inr ⟨_, _, task, rfl⟩
  | _ => exact .inl rfl

theorem inserted_clients {action : Action} (h : gateway.outcome prims conn action = some outcome) :
    ∀ group, outcome.inserted = some group → group.clients = [] := by
  intro group new
  rcases inserted_cases h with none | ⟨client, created, -, rfl⟩
  · rw [none] at new
    cases new
  · cases new
    rfl

theorem owned_commit (owned : Owned gateway) (mem : conn ∈ gateway.conns)
    (step : SessionStep gateway conn outcome)
    (inserted : ∀ group, outcome.inserted = some group → group.clients = []) :
    Owned (gateway.commit conn outcome) := by
  -- the new session of the task is its old one, or fresh
  have session_after : ∀ {g me}, outcome.task.session = some (g, me) →
      ∀ d ∈ gateway.conns, d.id ≠ conn.id → ∀ g' me', d.task.session = some (g', me') →
        me.peer.sessionId ≠ me'.peer.sessionId := by
    intro g me session d hd other g' me' session' same
    cases step with
    | outside _ after | removes _ after =>
      rw [after] at session
      cases session
    | registers task fresh found registered =>
      subst registered
      cases session
      exact ne_of_isFreshSession fresh hd session' same.symm
    | inside before after =>
      rw [after] at session
      cases session
      have := owned.sessionIds conn mem d hd _ g' me me' before session' same
      exact other (congrArg Conn.id this).symm
  -- the owner of an old session goes on owning it, unless it is this task
  have keepOwner : ∀ {group : GroupState} {client : ClientEntry}, group ∈ gateway.groups →
      client ∈ group.clients → conn.task.session = none ∨ outcome.task.session = conn.task.session ∨
        (∀ me, conn.task.session ≠ some (group.summary.groupId, me)) ∨
        (∀ g me, conn.task.session = some (g, me) → client.peer.sessionId ≠ me.peer.sessionId) →
      ∃ c ∈ (gateway.commit conn outcome).conns, ∃ me,
        c.task.session = some (group.summary.groupId, me) ∧ me.peer = client.peer ∧
          me.role = client.role := by
    intro group client inGroup entry keeps
    obtain ⟨c, hc, me, session, peer, role⟩ := owned.owners group inGroup client entry
    by_cases own : c.id = conn.id
    · obtain rfl := owned.eq_of_id hc mem own
      refine ⟨after c outcome, after_mem_commit mem, me, ?_, peer, role⟩
      rcases keeps with none | same | elsewhere | different
      · rw [none] at session
        cases session
      · exact same.trans session
      · exact absurd session (elsewhere me)
      · exact absurd (by rw [peer]) (different _ me session)
    · exact ⟨c, other_mem_commit hc own, me, session, peer, role⟩
  refine ⟨by rw [map_id_commit]; exact owned.connIds, ?_, ?_⟩
  · intro c hc d hd g g' me me' sc sd same
    rcases mem_conns_commit hc with ⟨hc, nc⟩ | rfl <;> rcases mem_conns_commit hd with ⟨hd, nd⟩ | rfl
    · exact owned.sessionIds c hc d hd g g' me me' sc sd same
    · exact absurd same.symm (session_after sd c hc nc g me sc)
    · exact absurd same (session_after sc d hd nd g' me' sd)
    · rfl
  · intro group' inGroup client' entry
    rcases mem_groups_commit inGroup with ⟨group, known, own, rfl⟩ | ⟨known, other⟩ | new
    · rw [GroupState.applyAll_summary]
      have ofOld : ∀ {client : ClientEntry}, client ∈ group.clients →
          client' = client.applyAll outcome.changes →
          (conn.task.session = none ∨ outcome.task.session = conn.task.session ∨
            (∀ g me, conn.task.session = some (g, me) →
              client.peer.sessionId ≠ me.peer.sessionId)) →
          ∃ c ∈ (gateway.commit conn outcome).conns, ∃ me,
            c.task.session = some (group.summary.groupId, me) ∧ me.peer = client'.peer ∧
              me.role = client'.role := by
        rintro client old rfl keeps
        rw [ClientEntry.applyAll_peer, ClientEntry.applyAll_role]
        exact keepOwner known old (keeps.imp_right fun h => h.imp_right .inr)
      cases step with
      | outside before _ keeps =>
        obtain ⟨client, old, rfl⟩ := keeps.mem entry
        exact ofOld old rfl (.inl before)
      | inside before after keeps =>
        obtain ⟨client, old, rfl⟩ := keeps.mem entry
        exact ofOld old rfl (.inr (.inl (after.trans before.symm)))
      | removes before _ removed =>
        rw [removed] at entry
        obtain ⟨entry, different⟩ := List.mem_filter.1 entry
        refine ofOld entry (by rw [removed]; rfl) (.inr (.inr fun g me session => ?_))
        rw [before] at session
        cases session
        exact of_decide_eq_true different
      | registers task fresh found registered =>
        subst registered
        rcases List.mem_append.1 entry with old | new
        · exact ofOld old rfl (.inl (by rw [task]; rfl))
        · obtain rfl := List.mem_singleton.1 new
          rw [task] at own
          cases own
          exact ⟨_, after_mem_commit mem, _, rfl, rfl, rfl⟩
    · refine keepOwner known entry (.inr (.inr (.inl fun me session => other ?_)))
      have : conn.task.groupId = conn.task.session.map (·.1) := by
        cases task : conn.task <;> rw [task] at session <;> first | rfl | cases session
      rw [this, session]
      rfl
    · rw [inserted group' new] at entry
      cases entry

theorem owned_step {action : Action} (owned : Owned gateway)
    (h : gateway.step prims action = some gateway') : Owned gateway' := by
  rcases step_cases h with ⟨id, remote, -, fresh, rfl⟩ | ⟨-, rfl⟩ | ⟨conn, mem, -, outcome, taken, rfl⟩
  · refine ⟨?_, ?_, ?_⟩
    · rw [List.map_append, List.map_singleton]
      refine List.Nodup.append owned.connIds (List.nodup_singleton id) ?_
      simpa [eq_comm] using fresh
    · have old : ∀ c ∈ gateway.conns ++ [{ id, remote, task := .hello, written := [] }],
          ∀ g me, c.task.session = some (g, me) → c ∈ gateway.conns := by
        intro c hc g me session
        rcases List.mem_append.1 hc with hc | hc
        · exact hc
        · rw [List.mem_singleton.1 hc] at session
          cases session
      exact fun c hc d hd g g' me me' sc sd same =>
        owned.sessionIds c (old c hc g me sc) d (old d hd g' me' sd) g g' me me' sc sd same
    · intro group inGroup client entry
      obtain ⟨c, hc, owner⟩ := owned.owners group inGroup client entry
      exact ⟨c, List.mem_append_left _ hc, owner⟩
  · refine ⟨?_, ?_, ?_⟩
    · rw [List.map_map]
      exact owned.connIds
    · intro c hc d hd g g' me me' sc
      obtain ⟨c, -, rfl⟩ := List.mem_map.1 hc
      cases sc
    · intro group inGroup client entry
      simp [loadGroups_empty group inGroup] at entry
  · exact owned_commit owned mem (sessionStep taken) (inserted_clients taken)

/-- The store changes by store operations only. -/
theorem store_cases {action : Action} (h : gateway.outcome prims conn action = some outcome) :
    outcome.store = gateway.store ∨ ∃ op, outcome.store = (gateway.store.perform prims op).2 := by
  have called : ∀ {store op fault}, store = (gateway.call prims op fault).2 →
      store = gateway.store ∨ ∃ op, store = (gateway.store.perform prims op).2 := by
    rintro _ op fault rfl
    cases fault with
    | true => exact .inl rfl
    | false => exact .inr ⟨op, rfl⟩
  cases taken h with
  | lobby _ _ lobbyCall =>
    cases lobbyCall with
    | none => exact .inl rfl
    | _ => exact called rfl
  | admits | creates | names | calls => exact called rfl
  | _ => exact .inl rfl

/-! ## Concrete runs

The first steps of clients, from which the examples of failing and of
successful runs are put together. -/

/-- What an action draws, numbered. -/
def drawn (n : ℕ) : Draw :=
  { id := ⟨BitVec.ofNat 128 n⟩, id₂ := ⟨BitVec.ofNat 128 (n + 1)⟩, random := BitVec.ofNat 256 n,
    random₂ := 0, nonce := 0, millis := 0 }

def blank : Gateway :=
  { gatewayId := ⟨1⟩, gatewayName := "lan",
    store := { GatewayStore.empty 0 with gatewayMeta := some ⟨1⟩ }, groups := [], conns := [] }

theorem spawned_blank : Spawned blank := ⟨0, "lan", drawn 1, by decide +kernel⟩

/-- A connection up to its `GatewayWelcome`. -/
def greets (id : ℕ) (nickname : String) : List Action :=
  [.accept id (.v4 10 0 0 1), .receive id (.hello protocolMin protocolMax nickname none none) false,
    .advance id (drawn 0) false]

/-- Any steps of one connection that draw nothing. -/
def advances (id n : ℕ) : List Action := List.replicate n (.advance id (drawn 0) false)

/-- Connection 1 creates the group 10, as its administrator 11 with session 20,
up to the session loop. -/
def founds : List Action :=
  greets 1 "Ana" ++ [.receive 1 (.createGroup "team" .isPublic) false, .advance 1 (drawn 10) false] ++
    advances 1 2 ++ [.advance 1 (drawn 20) false] ++ advances 1 4

/-- Connection `id` is authorized as a new member of group 10, and its admission
is still to be registered. -/
def authorizes (id memberId : ℕ) : List Action :=
  greets id "Bob" ++ [.receive id (.joinGroup ⟨10⟩ none) false] ++ advances id 1 ++
    [.advance id (drawn memberId) false]

/-- The admission is registered, up to the session loop. -/
def enters (id sessionId : ℕ) : List Action := .advance id (drawn sessionId) false :: advances id 4

/-- A chat message to the general room, up to its broadcast. -/
def posts (id messageId : ℕ) : List Action :=
  .receive id (.chat "general" ⟨BitVec.ofNat 128 messageId⟩ "hi") false :: advances id 3

/-- The founder of group 10, and the member that joins it next. -/
def founder : Session := ⟨⟨⟨20⟩, ⟨11⟩, "Ana", none⟩, .admin⟩

def joiner : Session := ⟨⟨⟨40⟩, ⟨30⟩, "Bob", none⟩, .member⟩

def team : GroupSummary := ⟨⟨10⟩, "team", .isPublic⟩

def generalSummary : RoomSummary := ⟨defaultRoomId, defaultRoomName, .isPublic⟩

/-- The row of a member and its entry, for the token it holds. -/
def memberRow (me : Session) (token : String) : MemberRow :=
  ⟨me.peer.memberId, ⟨10⟩, tokenHash .checksummed token, me.role, .active, me.peer.nickname⟩

def memberEntry (me : Session) (token : String) (log : List ServerMessage) : ClientEntry :=
  { peer := me.peer, role := me.role, sender := { log, taken := 0, dropped := false },
    joinedRooms := [defaultRoomId], kick := none, heldHash := tokenHash .checksummed token }

/-- The connection of a session that was shown these groups and these peers. -/
def memberConn (id : ℕ) (me : Session) (groups : List GroupSummary) (members : List Peer)
    (issuedCredentials : Option IssuedGroupCredentials) (issuedMemberToken : Option String) : Conn :=
  { id, remote := .v4 10 0 0 1, task := .serving ⟨10⟩ me 0 0 none,
    written := [.gatewayWelcome protocolMax ⟨1⟩ "lan" groups, .welcome
      { protocolVersion := protocolMax, groupId := ⟨10⟩, groupName := "team",
        accessMode := .isPublic, role := me.role, issuedCredentials, issuedMemberToken,
        roomId := defaultRoomId, roomName := defaultRoomName, rooms := [generalSummary],
        sessionId := me.peer.sessionId, members, history := [] }] }

/-- The gateway once group 10 is founded. -/
def founded : Gateway :=
  let token := generateCredential "admin" 10
  { blank with
    store := { blank.store with
      groups := [⟨⟨10⟩, "team", .isPublic, some (tokenHash .checksummed token), none⟩]
      rooms := [⟨defaultRoomId, ⟨10⟩, defaultRoomName, .isPublic, 1⟩]
      groupMembers := [memberRow founder token] }
    groups := [⟨team, [memberEntry founder token []], [generalSummary], none⟩]
    conns := [memberConn 1 founder [] [founder.peer] (some ⟨token, none⟩) none] }

/-- The gateway once the member has entered group 10. -/
def teamOfTwo : Gateway :=
  let token := generateCredential "admin" 10
  let issued := generateCredential "member" 30
  { founded with
    store := { founded.store with groupMembers := [memberRow founder token, memberRow joiner issued] }
    groups := [⟨team, [memberEntry founder token [.memberJoined joiner.peer],
      memberEntry joiner issued []], [generalSummary], none⟩]
    conns := [memberConn 1 founder [] [founder.peer] (some ⟨token, none⟩) none,
      memberConn 2 joiner [team] [founder.peer, joiner.peer] none (some issued)] }

/-- No handler is running and no message but of members entering is on a channel. -/
def isUndisturbed (gateway : Gateway) : Bool :=
  gateway.conns.all (·.task.handler.isNone) && gateway.groups.all fun group =>
    group.clients.all fun client => client.sender.log.all fun message =>
      message matches .memberJoined _

/-- A run in which the gateway stays undisturbed. -/
def Undisturbed (gateway : Gateway) (_ : Action) : Prop := gateway.isUndisturbed = true

theorem isUndisturbed_handler (h : gateway.isUndisturbed = true) (mem : conn ∈ gateway.conns) :
    conn.task.handler = none := by
  have idle := List.all_eq_true.1 (Bool.and_eq_true_iff.1 h).1 conn mem
  exact Option.isNone_iff_eq_none.1 idle

theorem run_founded : Run (step .checksummed) Undisturbed blank founds founded :=
  run_of_exec (fun _ _ undisturbed => undisturbed)
    (by decide +kernel : exec (step .checksummed) isUndisturbed blank founds = some founded)

theorem run_teamOfTwo : Run (step .checksummed) Undisturbed blank (founds ++ (authorizes 2 30 ++ enters 2 40)) teamOfTwo :=
  run_founded.append (run_of_exec (fun _ _ undisturbed => undisturbed) (by decide +kernel :
    exec (step .checksummed) isUndisturbed founded (authorizes 2 30 ++ enters 2 40) = some teamOfTwo))

theorem exists_reachable {prims : Primitives} {gateway : Gateway} (reachable : Reachable prims gateway)
    (actions : List Action) (check : Gateway → Bool)
    (h : (exec (step prims) (fun _ => true) gateway actions).any check = true) :
    ∃ gateway', Reachable prims gateway' ∧ check gateway' = true := by
  obtain ⟨start, before, spawned, run⟩ := reachable
  obtain ⟨gateway', ran, checked⟩ := (Option.any_eq_true _ _).1 h
  have after : Run (step prims) anyAction gateway actions gateway' :=
    run_of_exec (fun _ _ _ => trivial) ran
  exact ⟨gateway', ⟨start, before ++ actions, spawned, run.append after⟩, checked⟩

theorem reachable_founded : Reachable .checksummed founded :=
  ⟨blank, founds, spawned_blank, run_founded.mono fun _ _ _ => trivial⟩

theorem reachable_teamOfTwo : Reachable .checksummed teamOfTwo :=
  ⟨blank, _, spawned_blank, run_teamOfTwo.mono fun _ _ _ => trivial⟩

end Gateway

end LanChat
