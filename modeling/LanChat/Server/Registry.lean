import LanChat.Base.InFlight
import LanChat.Server.Seats
import LanChat.Storage.Names

/-!
# The registries and the store

The groups in memory and the rooms of each are caches of the tables of the
store. A group is committed by its creator and inserted later, and so is a room;
in between it is in flight with that connection. Up to what is in flight,
memory is what a restart would load (`Mirrored`), and the lock of room creation
makes the limit on rooms hold in the store as well.
-/

namespace LanChat

open Transition InFlight

/-- The handlers that hold the lock of room creation up to the insertion. -/
def Handler.creates : Handler → Bool
  | createCheck _ _ | createStore _ _ | createInsert _ => true
  | _ => false

theorem Handler.frees_of_isPlain {handler : Handler} (isPlain : handler.isPlain = true) :
    handler.creates = false ∧ ∀ room, handler ≠ .createInsert room := by
  cases handler <;> first | exact ⟨rfl, by simp⟩ | cases isPlain

/-- The groups a task has committed and not inserted. -/
def Task.pendingGroups : Task → List GroupSummary
  | insertingGroup _ created => [created.summary]
  | _ => []

/-- The rooms a task has committed and not inserted. -/
def Task.pendingRooms : Task → List (Uuid × RoomSummary)
  | insertingGroup _ created => [(created.summary.groupId, GatewayStore.generalRoom)]
  | serving groupId _ _ _ (some (.createInsert room)) => [(groupId, room)]
  | _ => []

/-- The rooms of a group in memory, with their group. -/
def GroupState.keyedRooms : GroupState → List (Uuid × RoomSummary) :=
  keyed (·.summary.groupId) GroupState.rooms

/-- Changes that leave the rooms and the lock of room creation alone, but for a
release by the session itself. -/
def KeepsRooms (me : Option Uuid) (changes : List Change) : Prop :=
  ∀ change ∈ changes, (∀ room, change ≠ .openRoom room) ∧ (∀ s, change ≠ .lockCreation s) ∧
    ∀ s, change = .unlockCreation s → me = some s

namespace Gateway

variable {prims : Primitives} {gateway gateway' : Gateway} {conn : Conn} {outcome : Outcome}

/-! ## The steps of the registries -/

/-- **What a step does to groups, rooms and the lock of room creation.** -/
inductive RegistryStep (gateway : Gateway) (conn : Conn) (outcome : Outcome) : Prop where
  | still (groups : outcome.store.groupTable = gateway.store.groupTable)
      (rooms : outcome.store.roomTable = gateway.store.roomTable) (inserted : outcome.inserted = none)
      (keeps : KeepsRooms (conn.task.session.map (·.2.peer.sessionId)) outcome.changes)
      (before : conn.task.pendingRooms = []) (after : outcome.task.pendingRooms = [])
      (frees : ∀ handler, outcome.task.handler = some handler → handler.creates = false)
  | commitsGroup {client : HelloClient} {created : CreatedGroup} (before : conn.task.pendingRooms = [])
      (next : outcome.task = .insertingGroup client created) (changes : outcome.changes = [])
      (inserted : outcome.inserted = none)
      (groups : outcome.store.groupTable = gateway.store.groupTable ++ [created.summary])
      (rooms : outcome.store.roomTable =
        gateway.store.roomTable ++ [(created.summary.groupId, GatewayStore.generalRoom)])
      (free : ∀ old ∈ gateway.store.groupTable, old.groupId ≠ created.summary.groupId)
  | insertsGroup {client : HelloClient} {created : CreatedGroup}
      (task : conn.task = .insertingGroup client created) (inserts : outcome = gateway.insertGroup client created)
  | locks {g : Uuid} {me : Session} {used violations : ℕ} {name : String} {visibility : RoomVisibility}
      {group : GroupState} (task : conn.task = .serving g me used violations (some (.createLock name visibility)))
      (found : gateway.group g = some group) (free : group.roomCreation = none)
      (next : outcome = { gateway.moveTo (.serving g me used violations (some (.createCheck name visibility))) with
        changes := [.lockCreation me.peer.sessionId] })
  | checks {g : Uuid} {me : Session} {used violations : ℕ} {name : String} {visibility : RoomVisibility}
      {group : GroupState} (task : conn.task = .serving g me used violations (some (.createCheck name visibility)))
      (found : gateway.group g = some group) (few : group.rooms.length < maxRooms)
      (next : outcome = gateway.moveTo (.serving g me used violations (some (.createStore name visibility))))
  | commitsRoom {g : Uuid} {me : Session} {used violations : ℕ} {name : String} {visibility : RoomVisibility}
      {room : RoomSummary} (task : conn.task = .serving g me used violations (some (.createStore name visibility)))
      (next : outcome.task = .serving g me used violations (some (.createInsert room)))
      (changes : outcome.changes = []) (inserted : outcome.inserted = none)
      (groups : outcome.store.groupTable = gateway.store.groupTable)
      (rooms : outcome.store.roomTable = gateway.store.roomTable ++ [(g, room)])
  | opensRoom {g : Uuid} {me : Session} {used violations : ℕ} {room : RoomSummary} {group : GroupState}
      (task : conn.task = .serving g me used violations (some (.createInsert room)))
      (found : gateway.group g = some group)
      (next : outcome = { gateway.moveTo (.serving g me used violations (some (.createAnnounce room))) with
        changes := [.openRoom room] })

theorem call_tables {op : StoreOp} {fault : Bool} (noGroup : op.newGroup = none) (noRoom : op.newRoom = none) :
    (gateway.call prims op fault).2.groupTable = gateway.store.groupTable ∧
      (gateway.call prims op fault).2.roomTable = gateway.store.roomTable := by
  cases fault with
  | true => exact ⟨rfl, rfl⟩
  | false => exact GatewayStore.tables_of_no_creation noGroup noRoom

/-- Only `createStore` calls for a room, and no handler for a group. -/
theorem storeCall_creates {groupId : Uuid} {me : Session} {draw : Draw} {handler : Handler} {op : StoreOp}
    (waits : handler.storeCall groupId me draw = some op) :
    op.newGroup = none ∧ ((∃ name visibility, handler = .createStore name visibility) ∨ op.newRoom = none) := by
  cases handler with
  | createStore name visibility =>
    cases waits
    exact ⟨rfl, .inl ⟨name, visibility, rfl⟩⟩
  | _ => cases waits <;> exact ⟨rfl, .inr rfl⟩

theorem onHello_store (remote : IpAddr) (message : ClientMessage) :
    (gateway.onHello remote message).store = gateway.store := by
  unfold onHello
  split
  · simp only
    split
    · rfl
    · split <;> rfl
  · rfl

theorem onSelection_store (client : HelloClient) (message : ClientMessage) :
    (gateway.onSelection client message).store = gateway.store := by
  unfold onSelection
  split
  · rfl
  · split <;> rfl
  · rfl

theorem onMessage_store (groupId : Uuid) (me : Session) (used violations : ℕ) (message : ClientMessage)
    (newWindow : Bool) :
    (gateway.onMessage groupId me used violations message newWindow).store = gateway.store := by
  simp only [onMessage]
  generalize (if newWindow = true then 0 else used) + 1 = count
  split
  · split <;> rfl
  · split <;> rfl

/-- Groups and rooms are committed by two tasks only. -/
theorem tables_kept {action : Action} (h : gateway.outcome prims conn action = some outcome)
    (noGroup : ∀ client name mode, conn.task ≠ .creatingGroup client name mode)
    (noRoom : ∀ g me used violations name visibility,
      conn.task ≠ .serving g me used violations (some (.createStore name visibility))) :
    outcome.store.groupTable = gateway.store.groupTable ∧
      outcome.store.roomTable = gateway.store.roomTable := by
  have ofSame : outcome.store = gateway.store → outcome.store.groupTable = gateway.store.groupTable ∧
      outcome.store.roomTable = gateway.store.roomTable := by
    intro same
    rw [same]
    exact ⟨rfl, rfl⟩
  cases action with
  | accept | restart => cases h
  | receive id message newWindow =>
    simp only [Gateway.outcome] at h
    split at h <;> cases h
    · exact ofSame (onHello_store _ _)
    · exact ofSame (onSelection_store _ _)
    · exact ofSame (onMessage_store _ _ _ _ _ _)
  | flush id =>
    simp only [Gateway.outcome] at h
    split at h
    · obtain ⟨client, -, h⟩ := Option.bind_eq_some_iff.1 h
      obtain ⟨message, -, h⟩ := Option.map_eq_some_iff.1 h
      cases h
      exact ofSame rfl
    · cases h
  | kicked id =>
    simp only [Gateway.outcome] at h
    split at h
    · obtain ⟨reason, -, h⟩ := Option.map_eq_some_iff.1 h
      cases h
      exact ofSame rfl
    · cases h
  | disconnect id =>
    simp only [Gateway.outcome] at h
    split at h <;> cases h <;> exact ofSame rfl
  | advance id draw fault =>
    simp only [Gateway.outcome, advance] at h
    split at h
    case h_2 client groupId credential task =>
      cases h
      unfold findGroup
      split
      · exact ⟨rfl, rfl⟩
      · split <;> exact ⟨rfl, rfl⟩
    case h_3 client groupId credential task =>
      cases h
      exact call_tables rfl rfl
    case h_4 client groupId task =>
      cases h
      exact call_tables rfl rfl
    case h_5 client name mode task => exact absurd task (noGroup client name mode)
    case h_7 client created task =>
      cases h
      exact call_tables rfl rfl
    case h_8 groupId entry task =>
      split at h
      · obtain ⟨group, -, h⟩ := Option.map_eq_some_iff.1 h
        cases h
        exact ⟨rfl, rfl⟩
      · cases h
    case h_9 groupId entry me members task =>
      cases h
      exact call_tables rfl rfl
    case h_10 groupId entry me members rooms task =>
      obtain ⟨group, -, h⟩ := Option.map_eq_some_iff.1 h
      cases h
      exact call_tables rfl rfl
    case h_14 groupId me used violations handler task =>
      obtain ⟨group, -, h⟩ := Option.bind_eq_some_iff.1 h
      unfold serve at h
      split at h
      · rename_i op waits
        cases h
        obtain ⟨noNewGroup, ⟨name, visibility, rfl⟩ | noNewRoom⟩ := storeCall_creates waits
        · exact absurd task (noRoom groupId me used violations name visibility)
        · exact call_tables noNewGroup noNewRoom
      · obtain ⟨⟨changes, next⟩, -, h⟩ := Option.map_eq_some_iff.1 h
        cases h
        exact ⟨rfl, rfl⟩
    all_goals cases h
    all_goals exact ⟨rfl, rfl⟩

theorem registryStep_createGroup {client : HelloClient} {name : String} {mode : GroupAccessMode}
    (task : conn.task = .creatingGroup client name mode) (draw : Draw) (fault : Bool) :
    RegistryStep gateway conn (gateway.createGroup prims client name mode draw fault) := by
  have before : conn.task.pendingRooms = [] := by
    rw [task]
    rfl
  unfold createGroup call
  cases fault with
  | true => exact .still rfl rfl rfl (by simp [KeepsRooms, refuse]) before rfl (by simp [refuse, Task.handler])
  | false =>
    simp only [Bool.false_eq_true, if_false]
    rcases GatewayStore.settle_cases gateway.store .created
      (gateway.store.createGroupWithAccess prims name mode draw) with ⟨e, h⟩ | ⟨created, s, ok, h⟩
    · rw [GatewayStore.perform, h]
      exact .still rfl rfl rfl (by simp [KeepsRooms, refuse]) before rfl (by simp [refuse, Task.handler])
    · rw [GatewayStore.perform, h]
      obtain ⟨-, free, groups, rooms⟩ := GatewayStore.namesStep_createGroup ok
      exact .commitsGroup before rfl rfl rfl groups rooms fun old mem => (free old mem).1

/-- A room that the store tells of has been committed. -/
theorem createRoom_cases (g : Uuid) (me : Session) (name : String) (visibility : RoomVisibility) (draw : Draw)
    (fault : Bool) :
    let called := gateway.call prims
      (.createRoomWithVisibility g name visibility (some me.peer.memberId) draw) fault
    (∃ room, called.1 = .room room ∧ called.2.groupTable = gateway.store.groupTable ∧
      called.2.roomTable = gateway.store.roomTable ++ [(g, room)]) ∨
    (∀ room, called.1 ≠ .room room) ∧ called.2 = gateway.store := by
  unfold call
  cases fault with
  | true => exact .inr ⟨by simp, rfl⟩
  | false =>
    simp only [Bool.false_eq_true, if_false]
    rcases GatewayStore.settle_cases gateway.store .room
      (gateway.store.createRoomWithVisibility g name visibility (some me.peer.memberId) draw) with
      ⟨e, h⟩ | ⟨room, s, ok, h⟩
    · rw [GatewayStore.perform, h]
      exact .inr ⟨by simp, rfl⟩
    · rw [GatewayStore.perform, h]
      obtain ⟨-, -, groups, rooms⟩ := GatewayStore.namesStep_createRoom ok
      exact .inl ⟨room, rfl, groups, rooms⟩

theorem resumes_frees {handler next : Handler} {reply : StoreReply} (into : Handler.Resumes handler reply next)
    (created : ∀ name visibility, handler = .createStore name visibility → ∀ room, reply ≠ .room room) :
    next.creates = false ∧ ∀ room, next ≠ .createInsert room := by
  cases into with
  | @created name visibility room => exact absurd rfl (created name visibility rfl room)
  | plain isPlain => exact Handler.frees_of_isPlain isPlain
  | _ => exact ⟨rfl, by simp⟩

theorem pendingRooms_of_session {task : Task} {g : Uuid} {me : Session} (session : task.session = some (g, me))
    (other : ∀ room, task.handler ≠ some (.createInsert room)) : task.pendingRooms = [] := by
  cases task with
  | serving _ _ _ _ handler =>
    cases handler with
    | none => rfl
    | some handler => cases handler <;> first | rfl | exact absurd rfl (other _)
  | _ => cases session <;> rfl

theorem pendingRooms_of_lobby {task : Task} (lobby : task.inLobby = true ∨ task.isNaming = true) :
    task.pendingRooms = [] := by
  cases task <;> first | rfl | simp [Task.inLobby, Task.isNaming] at lobby

theorem registryStep_createStore {g : Uuid} {me : Session} {used violations : ℕ} {name : String}
    {visibility : RoomVisibility}
    (task : conn.task = .serving g me used violations (some (.createStore name visibility)))
    {action : Action} (h : gateway.outcome prims conn action = some outcome) :
    RegistryStep gateway conn outcome := by
  cases action with
  | advance id draw fault =>
    simp only [Gateway.outcome, task, advance] at h
    obtain ⟨group, -, h⟩ := Option.bind_eq_some_iff.1 h
    simp only [serve, Handler.storeCall, Option.some.injEq] at h
    subst h
    have before : conn.task.pendingRooms = [] := by
      rw [task]
      rfl
    rcases createRoom_cases g me name visibility draw fault with
      ⟨room, told, groups, rooms⟩ | ⟨refused, same⟩
    · refine .commitsRoom task ?_ rfl rfl groups rooms
      simp only [told]
      rfl
    · have answers : ∃ message, Handler.resume (gateway.call prims (.createRoomWithVisibility g name visibility
          (some me.peer.memberId) draw) fault).1 (.createStore name visibility) = .reply message := by
        simp only [Handler.resume]
        exact ⟨_, rfl⟩
      obtain ⟨message, answers⟩ := answers
      simp only [answers]
      refine .still (congrArg _ same) (congrArg _ same) rfl (by simp [KeepsRooms, holds]) before rfl ?_
      intro handler same
      cases same
      rfl
  | _ => simp [Gateway.outcome, task] at h

theorem registryStep {action : Action} (h : gateway.outcome prims conn action = some outcome) :
    RegistryStep gateway conn outcome := by
  by_cases founding : ∃ client name mode, conn.task = .creatingGroup client name mode
  · obtain ⟨client, name, mode, task⟩ := founding
    cases action with
    | advance id draw fault =>
      simp only [Gateway.outcome, task, advance, Option.some.injEq] at h
      subst h
      exact registryStep_createGroup task draw fault
    | _ => simp [Gateway.outcome, task] at h
  push Not at founding
  by_cases storing : ∃ g me used violations name visibility,
      conn.task = .serving g me used violations (some (.createStore name visibility))
  · obtain ⟨g, me, used, violations, name, visibility, task⟩ := storing
    exact registryStep_createStore task h
  push Not at storing
  obtain ⟨groups, rooms⟩ := tables_kept h founding storing
  cases taken h with
  | lobby before after =>
    exact .still groups rooms rfl (by simp [KeepsRooms]) (pendingRooms_of_lobby before)
      (pendingRooms_of_lobby (.inl after)) (by simp [Task.handler_of_inLobby after])
  | admits task => exact .still groups rooms rfl (by simp [KeepsRooms]) (by rw [task]; rfl) rfl (by simp [Task.handler])
  | creates task => exact absurd task (founding _ _ _)
  | inserts task => exact .insertsGroup task rfl
  | names task => exact .still groups rooms rfl (by simp [KeepsRooms]) (by rw [task]; rfl) rfl (by simp [Task.handler])
  | registers task =>
    exact .still groups rooms rfl (by simp [KeepsRooms, register]) (by rw [task]; rfl) rfl (by simp [register, Task.handler])
  | @inside g me task changes written before idle after starts speaks =>
    refine .still groups rooms rfl ?_ (pendingRooms_of_session before (by simp [idle]))
      (pendingRooms_of_session after fun room same => ?_) fun handler same => ?_
    · cases speaks <;> simp [KeepsRooms]
    · cases starts _ same
    · have isStart := starts handler same
      cases handler <;> first | rfl | cases isStart
  | @calls g me used violations handler op draw fault task waits =>
    obtain ⟨frees, noRoom⟩ := resumes_frees (Handler.resumes waits (gateway.call prims op fault).1)
      fun name visibility same => absurd (by rw [task, same]) (storing g me used violations name visibility)
    refine .still groups rooms rfl ?_ (pendingRooms_of_session (by rw [task]; rfl) fun room same => ?_)
      (pendingRooms_of_session rfl fun room same => ?_) fun handler' same => ?_
    · unfold holds
      split <;> simp [KeepsRooms]
    · rw [task] at same
      cases same
      cases waits
    · exact noRoom room (Option.some.inj same)
    · cases same
      exact frees
  | @blocks g me used violations handler group changes next task found blocked =>
    have mine : conn.task.session = some (g, me) := by
      rw [task]
      rfl
    by_cases opening : ∃ room, handler = .createInsert room
    · obtain ⟨room, rfl⟩ := opening
      cases blocked
      exact .opensRoom task found rfl
    push Not at opening
    have still : KeepsRooms (some me.peer.sessionId) changes →
        (∀ handler', next = some handler' → handler'.creates = false) →
        RegistryStep gateway conn { gateway.moveTo (.serving g me used violations next) with changes } := by
      intro keeps frees
      refine .still groups rooms rfl (by rwa [mine]) (pendingRooms_of_session mine fun room same => ?_)
        (pendingRooms_of_session rfl fun room same => ?_) frees
      · rw [task] at same
        exact opening room (Option.some.inj same)
      · cases frees _ same
    cases Handler.blocks blocked with
    | createLock =>
      have free : group.roomCreation = none := by
        simp only [Handler.block] at blocked
        split at blocked
        · assumption
        · cases blocked
      exact .locks task found free rfl
    | createCheck few => exact .checks task found few rfl
    | createInsert => exact absurd rfl (opening _)
    | finished => exact still (by simp [KeepsRooms, Handler.finish]) (by simp)
    | admin isPlain =>
      refine still (by simp [KeepsRooms]) fun handler' same => ?_
      cases same
      exact (Handler.frees_of_isPlain isPlain).1
    | joinInsert => exact still (by simp [KeepsRooms]) (by simp)
    | _ => exact still (by simp [KeepsRooms]) (by simp [Handler.creates])
  | @removes g me task before idle after =>
    refine .still groups rooms rfl (by simp [KeepsRooms]) (pendingRooms_of_session before (by simp [idle])) ?_ ?_
    · rcases after with rfl | rfl <;> rfl
    · rcases after with rfl | rfl <;> simp [Task.handler]
  | parts task => exact .still groups rooms rfl (by simp [KeepsRooms]) (by rw [task]; rfl) rfl (by simp [Task.handler])

/-! ## Groups after a step -/

theorem rooms_of_closed {changes : List Change} (closed : ∀ room, .openRoom room ∉ changes)
    (group : GroupState) : (group.applyAll changes).rooms = group.rooms := by
  induction changes generalizing group with
  | nil => rfl
  | cons change changes ih =>
    rw [GroupState.applyAll_cons, ih fun room mem => closed room (List.mem_cons_of_mem _ mem), GroupState.rooms_apply]
    cases change with
    | openRoom room => exact absurd List.mem_cons_self (closed room)
    | _ => exact List.append_nil _

/-- Another session's lock stays. -/
theorem lock_of_keeps {me : Option Uuid} {changes : List Change} (keeps : KeepsRooms me changes) {s : Uuid}
    (other : me ≠ some s) {group : GroupState} (locked : group.roomCreation = some s) :
    (group.applyAll changes).roomCreation = some s := by
  induction changes generalizing group with
  | nil => exact locked
  | cons change changes ih =>
    rw [GroupState.applyAll_cons]
    refine ih (fun change' mem => keeps change' (List.mem_cons_of_mem _ mem)) ?_
    obtain ⟨-, notLock, unlocks⟩ := keeps change List.mem_cons_self
    cases change with
    | lockCreation s' => exact absurd rfl (notLock s')
    | unlockCreation s' =>
      have isOther : s ≠ s' := by
        rintro rfl
        exact other (unlocks s rfl)
      simp [GroupState.apply, locked, isOther]
    | _ => exact locked

theorem summaries_commit : (gateway.commit conn outcome).groups.map (·.summary) =
    gateway.groups.map (·.summary) ++ outcome.inserted.toList.map (·.summary) := by
  rw [commit, List.map_append, List.map_map]
  congr 1
  refine List.map_congr_left fun group _ => ?_
  simp only [Function.comp_apply]
  split <;> simp

theorem keyedRooms_commit (closed : ∀ room, .openRoom room ∉ outcome.changes) :
    (gateway.commit conn outcome).groups.flatMap GroupState.keyedRooms =
      gateway.groups.flatMap GroupState.keyedRooms ++
        outcome.inserted.toList.flatMap GroupState.keyedRooms := by
  rw [commit, List.flatMap_append, List.flatMap_map]
  congr 1
  refine List.flatMap_congr fun group _ => ?_
  split
  · simp [GroupState.keyedRooms, keyed, rooms_of_closed closed]
  · rfl

theorem keyedRooms_openRoom (ids : (gateway.groups.map (·.summary.groupId)).Nodup) {group : GroupState}
    (mem : group ∈ gateway.groups) (own : conn.task.groupId = some group.summary.groupId) {room : RoomSummary}
    (changes : outcome.changes = [.openRoom room]) (inserted : outcome.inserted = none) :
    ((gateway.commit conn outcome).groups.flatMap GroupState.keyedRooms).Perm
      (gateway.groups.flatMap GroupState.keyedRooms ++ [(group.summary.groupId, room)]) := by
  obtain ⟨before, rest, split, apart, apart'⟩ := split_of_nodup ids mem
  have unmoved : ∀ {groups : List GroupState}, (∀ other ∈ groups, other.summary.groupId ≠ group.summary.groupId) →
      (groups.map fun other => if some group.summary.groupId = some other.summary.groupId then
        other.applyAll outcome.changes else other) = groups := by
    intro groups apart
    refine (List.map_congr_left fun other inGroups => ?_).trans (List.map_id _)
    rw [if_neg fun same => apart other inGroups (Option.some.inj same).symm]
    rfl
  have opened : (group.applyAll outcome.changes).keyedRooms = group.keyedRooms ++ [(group.summary.groupId, room)] := by
    rw [changes]
    exact List.map_append
  have groups : (gateway.commit conn outcome).groups = before ++ group.applyAll outcome.changes :: rest := by
    rw [commit, split, inserted]
    simp only [List.map_append, List.map_cons, unmoved apart, unmoved apart', own, if_true, Option.toList_none,
      List.append_nil]
  rw [groups, split]
  simp only [List.flatMap_append, List.flatMap_cons, opened, List.append_assoc]
  refine List.Perm.append_left _ (List.Perm.append_left _ ?_)
  exact List.perm_append_comm

/-- The connections before a step and after it. -/
theorem conns_split (owned : Owned gateway) (mem : conn ∈ gateway.conns) (outcome : Outcome) :
    ∃ before rest, gateway.conns = before ++ conn :: rest ∧
      (gateway.commit conn outcome).conns = before ++ after conn outcome :: rest := by
  obtain ⟨before, rest, split, apart, apart'⟩ := split_of_nodup owned.connIds mem
  refine ⟨before, rest, split, ?_⟩
  have unmoved : ∀ {conns : List Conn}, (∀ other ∈ conns, other.id ≠ conn.id) → (conns.map fun other =>
      if other.id = conn.id then
        { conn with task := outcome.task, written := conn.written ++ outcome.written } else other) = conns := by
    intro conns apart
    refine (List.map_congr_left fun other inConns => ?_).trans (List.map_id _)
    rw [if_neg (apart other inConns)]
    rfl
  rw [commit, split]
  simp only [List.map_append, List.map_cons, unmoved apart, unmoved apart', if_true]
  rfl

/-! ## The registries -/

/-- **Memory mirrors the store** up to what is in flight, and the lock keeps the
limit on rooms. -/
structure Mirrored (gateway : Gateway) : Prop where
  named : gateway.store.Named
  groups : Balanced (fun c : Conn => c.task.pendingGroups) gateway.conns (gateway.groups.map (·.summary))
    gateway.store.groupTable
  rooms : Balanced (fun c : Conn => c.task.pendingRooms) gateway.conns
    (gateway.groups.flatMap GroupState.keyedRooms) gateway.store.roomTable
  general : ∀ group ∈ gateway.groups, GatewayStore.generalRoom ∈ group.rooms
  locked : ∀ c ∈ gateway.conns, ∀ g me used violations handler,
    c.task = .serving g me used violations (some handler) → handler.creates = true →
    ∀ group ∈ gateway.groups, group.summary.groupId = g → group.roomCreation = some me.peer.sessionId
  few : ∀ g, gateway.store.roomTable.countP (·.1 == g) ≤ maxRooms
  space : ∀ c ∈ gateway.conns, ∀ g me used violations name visibility,
    c.task = .serving g me used violations (some (.createStore name visibility)) →
    gateway.store.roomTable.countP (·.1 == g) < maxRooms

theorem pendingGroups_of_rooms {task : Task} (none : task.pendingRooms = []) : task.pendingGroups = [] := by
  cases task <;> first | rfl | cases none

theorem general_commit (mirrored : Mirrored gateway) {action : Action}
    (h : gateway.outcome prims conn action = some outcome) :
    ∀ group ∈ (gateway.commit conn outcome).groups, GatewayStore.generalRoom ∈ group.rooms := by
  intro group' inGroups
  rcases mem_groups_commit inGroups with ⟨group, was, -, rfl⟩ | ⟨was, -⟩ | new
  · obtain ⟨opened, rooms, -⟩ := GroupState.rooms_applyAll group outcome.changes
    rw [rooms]
    exact List.mem_append_left _ (mirrored.general group was)
  · exact mirrored.general group' was
  · rcases inserted_cases h with none | ⟨client, created, -, rfl⟩
    · rw [none] at new
      cases new
    · cases new
      exact List.mem_singleton_self _

theorem groups_commit (mirrored : Mirrored gateway) (owned : Owned gateway) (mem : conn ∈ gateway.conns)
    (step : RegistryStep gateway conn outcome) :
    Balanced (fun c : Conn => c.task.pendingGroups) (gateway.commit conn outcome).conns
      ((gateway.commit conn outcome).groups.map (·.summary)) outcome.store.groupTable := by
  obtain ⟨before, rest, was, is⟩ := conns_split owned mem outcome
  have balanced := mirrored.groups
  rw [was] at balanced
  rw [is, summaries_commit]
  have unmoved : conn.task.pendingGroups = outcome.task.pendingGroups → outcome.inserted = none →
      outcome.store.groupTable = gateway.store.groupTable →
      Balanced (fun c : Conn => c.task.pendingGroups) (before ++ after conn outcome :: rest)
        (gateway.groups.map (·.summary) ++ outcome.inserted.toList.map (·.summary)) outcome.store.groupTable := by
    intro same inserted table
    refine balanced.step [] [] ?_ ?_ (by rw [table, List.append_nil])
    · rw [List.nil_append, List.append_nil]
      exact .of_eq same.symm
    · rw [inserted]
      exact .refl _
  cases step with
  | still groups _ inserted _ before after =>
    exact unmoved ((pendingGroups_of_rooms before).trans (pendingGroups_of_rooms after).symm) inserted groups
  | @commitsGroup client created before next _ inserted groups =>
    refine balanced.step [] [created.summary] ?_ ?_ groups
    · change outcome.task.pendingGroups.Perm (conn.task.pendingGroups ++ [created.summary])
      rw [next, pendingGroups_of_rooms before]
      exact .refl _
    · rw [inserted]
      exact .refl _
  | @insertsGroup client created task inserts =>
    subst inserts
    refine balanced.step [created.summary] [] ?_ (.refl _) (List.append_nil _).symm
    change [created.summary].Perm (conn.task.pendingGroups ++ [])
    rw [task]
    exact .refl _
  | locks task _ _ next | checks task _ _ next | opensRoom task _ next =>
    subst next
    exact unmoved (by rw [task]; rfl) rfl rfl
  | commitsRoom task next _ inserted groups => exact unmoved (by rw [task, next]; rfl) inserted groups

theorem rooms_commit (mirrored : Mirrored gateway) (known : Known gateway) (owned : Owned gateway)
    (mem : conn ∈ gateway.conns) (step : RegistryStep gateway conn outcome) :
    Balanced (fun c : Conn => c.task.pendingRooms) (gateway.commit conn outcome).conns
      ((gateway.commit conn outcome).groups.flatMap GroupState.keyedRooms) outcome.store.roomTable := by
  obtain ⟨before, rest, was, is⟩ := conns_split owned mem outcome
  have balanced := mirrored.rooms
  rw [was] at balanced
  rw [is]
  have unmoved : conn.task.pendingRooms = [] → outcome.task.pendingRooms = [] →
      (∀ room, .openRoom room ∉ outcome.changes) → outcome.inserted = none →
      outcome.store.roomTable = gateway.store.roomTable →
      Balanced (fun c : Conn => c.task.pendingRooms) (before ++ after conn outcome :: rest)
        ((gateway.commit conn outcome).groups.flatMap GroupState.keyedRooms) outcome.store.roomTable := by
    intro none none' closed inserted table
    refine balanced.step [] [] ?_ ?_ (by rw [table, List.append_nil])
    · change outcome.task.pendingRooms.Perm (conn.task.pendingRooms ++ [])
      rw [none, none']
      exact .refl _
    · rw [keyedRooms_commit closed, inserted]
      exact .refl _
  cases step with
  | still _ rooms inserted keeps before after => exact unmoved before after (fun room mem => (keeps _ mem).1 room rfl) inserted rooms
  | @commitsGroup client created before next changes inserted _ rooms =>
    refine balanced.step [] [(created.summary.groupId, GatewayStore.generalRoom)] ?_ ?_ rooms
    · change outcome.task.pendingRooms.Perm (conn.task.pendingRooms ++ _)
      rw [next, before]
      exact .refl _
    · rw [keyedRooms_commit (by simp [changes]), inserted]
      exact .refl _
  | @insertsGroup client created task inserts =>
    subst inserts
    refine balanced.step [(created.summary.groupId, GatewayStore.generalRoom)] [] ?_ ?_ (List.append_nil _).symm
    · change [(created.summary.groupId, GatewayStore.generalRoom)].Perm (conn.task.pendingRooms ++ [])
      rw [task]
      exact .refl _
    · rw [keyedRooms_commit (by simp [insertGroup])]
      exact .refl _
  | locks task _ _ next | checks task _ _ next =>
    subst next
    exact unmoved (by rw [task]; rfl) rfl (by simp) rfl rfl
  | @commitsRoom g me used violations name visibility room task next changes inserted _ rooms =>
    refine balanced.step [] [(g, room)] ?_ ?_ rooms
    · change outcome.task.pendingRooms.Perm (conn.task.pendingRooms ++ _)
      rw [next, task]
      exact .refl _
    · rw [keyedRooms_commit (by simp [changes]), inserted]
      exact .refl _
  | @opensRoom g me used violations room group task found next =>
    subst next
    obtain ⟨inGroups, rfl⟩ := group_some found
    refine balanced.step [(group.summary.groupId, room)] [] ?_ ?_ (List.append_nil _).symm
    · change [(group.summary.groupId, room)].Perm (conn.task.pendingRooms ++ [])
      rw [task]
      exact .refl _
    · exact keyedRooms_openRoom known.ids inGroups (by rw [task]; rfl) rfl rfl

/-- A connection that creates a room holds the lock of its group alone. -/
theorem Mirrored.alone (mirrored : Mirrored gateway) (owned : Owned gateway) {c d : Conn}
    (hc : c ∈ gateway.conns) (hd : d ∈ gateway.conns) {group : GroupState} (inGroups : group ∈ gateway.groups)
    {me me' : Session} {used violations used' violations' : ℕ} {handler handler' : Handler}
    (task : c.task = .serving group.summary.groupId me used violations (some handler))
    (task' : d.task = .serving group.summary.groupId me' used' violations' (some handler'))
    (creates : handler.creates = true) (creates' : handler'.creates = true) : c = d := by
  have lock := mirrored.locked c hc _ _ _ _ _ task creates group inGroups rfl
  rw [mirrored.locked d hd _ _ _ _ _ task' creates' group inGroups rfl] at lock
  exact owned.sessionIds c hc d hd _ _ me me' (by rw [task]; rfl) (by rw [task']; rfl)
    (Option.some.inj lock).symm

theorem mem_pendingRooms {task : Task} {entry : Uuid × RoomSummary} (held : entry ∈ task.pendingRooms) :
    (∃ client created, task = .insertingGroup client created ∧
      entry = (created.summary.groupId, GatewayStore.generalRoom)) ∨
    ∃ me used violations, task = .serving entry.1 me used violations (some (.createInsert entry.2)) := by
  cases task with
  | insertingGroup client created => exact .inl ⟨client, created, rfl, List.mem_singleton.1 held⟩
  | serving g me used violations handler =>
    have isInsert : ∃ room, handler = some (.createInsert room) := by
      by_contra other
      rw [@pendingRooms_of_session (.serving g me used violations handler) g me rfl
        fun room same => other ⟨room, same⟩] at held
      cases held
    obtain ⟨room, rfl⟩ := isInsert
    rw [List.mem_singleton.1 held]
    exact .inr ⟨me, used, violations, rfl⟩
  | _ => cases held

/-- Under the lock the rooms in memory are counted as in the store. -/
theorem Mirrored.count (mirrored : Mirrored gateway) (known : Known gateway) {group : GroupState}
    (inGroups : group ∈ gateway.groups)
    (quiet : ∀ c ∈ gateway.conns, ∀ me used violations room,
      c.task ≠ .serving group.summary.groupId me used violations (some (.createInsert room))) :
    gateway.store.roomTable.countP (·.1 == group.summary.groupId) = group.rooms.length := by
  have own : ((gateway.groups.flatMap GroupState.keyedRooms).filter (·.1 == group.summary.groupId)).map Prod.snd =
      group.rooms := rows_of_section known.ids inGroups
  have counted : (gateway.groups.flatMap GroupState.keyedRooms).countP (·.1 == group.summary.groupId) =
      gateway.store.roomTable.countP (·.1 == group.summary.groupId) := by
    refine mirrored.rooms.countP fun c hc entry held => ?_
    rcases mem_pendingRooms held with ⟨client, created, task, rfl⟩ | ⟨me, used, violations, task⟩
    · have apart := (known.inserting c hc client created task).2.2 group inGroups
      simpa using apart.symm
    · rw [beq_eq_false_iff_ne]
      intro same
      rw [same] at task
      exact quiet c hc me used violations entry.2 task
  rw [← counted, List.countP_eq_length_filter, ← List.length_map, own]

/-- The group of a session was there before a step. -/
theorem group_before (known : Known gateway) (mem : conn ∈ gateway.conns) {action : Action}
    (h : gateway.outcome prims conn action = some outcome) {g : Uuid}
    (resident : ∃ group ∈ gateway.groups, group.summary.groupId = g) {group' : GroupState}
    (inGroups : group' ∈ (gateway.commit conn outcome).groups) (ofGroup : group'.summary.groupId = g) :
    ∃ group ∈ gateway.groups, group.summary.groupId = g ∧
      (conn.task.groupId = some g ∧ group' = group.applyAll outcome.changes ∨
        conn.task.groupId ≠ some g ∧ group' = group) := by
  rcases mem_groups_commit inGroups with ⟨group, was, own, rfl⟩ | ⟨was, elsewhere⟩ | new
  · rw [GroupState.applyAll_summary] at ofGroup
    rw [ofGroup] at own
    exact ⟨group, was, ofGroup, .inl ⟨own, rfl⟩⟩
  · exact ⟨group', was, ofGroup, .inr ⟨by rwa [← ofGroup], rfl⟩⟩
  · rcases inserted_cases h with none | ⟨client, created, task, rfl⟩
    · rw [none] at new
      cases new
    · cases new
      obtain ⟨group, inMemory, same⟩ := resident
      have apart := (known.inserting conn mem client created task).2.2 group inMemory
      exact absurd (same.trans ofGroup.symm) apart

/-- The lock of another session stays. -/
theorem lock_stays (mirrored : Mirrored gateway) (known : Known gateway) (owned : Owned gateway)
    (mem : conn ∈ gateway.conns) (step : RegistryStep gateway conn outcome) {c : Conn} (hc : c ∈ gateway.conns)
    (other : c.id ≠ conn.id) {g : Uuid} {me : Session} {used violations : ℕ} {handler : Handler}
    (task : c.task = .serving g me used violations (some handler)) (creates : handler.creates = true)
    {group : GroupState} (inGroups : group ∈ gateway.groups) (ofGroup : group.summary.groupId = g)
    (own : conn.task.groupId = some g) :
    (group.applyAll outcome.changes).roomCreation = some me.peer.sessionId := by
  have held := mirrored.locked c hc g me used violations handler task creates group inGroups ofGroup
  have session : c.task.session = some (g, me) := by
    rw [task]
    rfl
  cases step with
  | still _ _ _ keeps =>
    refine lock_of_keeps keeps (fun same => ?_) held
    obtain ⟨⟨g', me'⟩, session', sameId⟩ := Option.map_eq_some_iff.1 same
    exact other (congrArg Conn.id (owned.sessionIds c hc conn mem g g' me me' session session' sameId.symm))
  | commitsGroup _ _ changes | commitsRoom _ _ changes =>
    rw [changes]
    exact held
  | insertsGroup task' =>
    rw [task'] at own
    cases own
  | @locks g' me' _ _ _ _ group' task' found free =>
    rw [task'] at own
    cases own
    obtain ⟨inGroups', same⟩ := group_some found
    rw [known.eq_of_id inGroups' inGroups (same.trans ofGroup.symm)] at free
    rw [held] at free
    cases free
  | checks _ _ _ next | opensRoom _ _ next =>
    subst next
    exact held

theorem locked_commit (mirrored : Mirrored gateway) (known : Known gateway) (owned : Owned gateway)
    (seats : Seats gateway) (mem : conn ∈ gateway.conns) {action : Action}
    (h : gateway.outcome prims conn action = some outcome) :
    ∀ c ∈ (gateway.commit conn outcome).conns, ∀ g me used violations handler,
      c.task = .serving g me used violations (some handler) → handler.creates = true →
      ∀ group ∈ (gateway.commit conn outcome).groups, group.summary.groupId = g →
        group.roomCreation = some me.peer.sessionId := by
  have resident : ∀ c ∈ gateway.conns, ∀ {g me}, c.task.session = some (g, me) →
      ∃ group ∈ gateway.groups, group.summary.groupId = g := by
    intro c hc g me session
    obtain ⟨client, group, inGroups, ofGroup, -⟩ := seats.taken c hc g me session
    exact ⟨group, inGroups, ofGroup⟩
  intro c hc g me used violations handler task creates group' inGroups ofGroup
  have step := registryStep h
  rcases mem_conns_commit hc with ⟨was, other⟩ | rfl
  · obtain ⟨group, inMemory, same, ⟨own, rfl⟩ | ⟨-, rfl⟩⟩ :=
      group_before known mem h (resident c was (by rw [task]; rfl)) inGroups ofGroup
    · exact lock_stays mirrored known owned mem step was other task creates inMemory same own
    · exact mirrored.locked c was g me used violations handler task creates _ inMemory same
  · change outcome.task = _ at task
    -- a task that goes on in its group finds it as it left it, with its own changes
    have found : ∀ {used' violations' : ℕ} {handler' : Handler},
        conn.task = .serving g me used' violations' (some handler') →
        ∃ group ∈ gateway.groups, group.summary.groupId = g ∧ group' = group.applyAll outcome.changes := by
      intro used' violations' handler' was
      obtain ⟨group, inMemory, same, ⟨-, now⟩ | ⟨elsewhere, -⟩⟩ :=
        group_before known mem h (resident conn mem (by rw [was]; rfl)) inGroups ofGroup
      · exact ⟨group, inMemory, same, now⟩
      · exact absurd (by rw [was]; rfl) elsewhere
    cases step with
    | still _ _ _ _ _ _ frees =>
      rw [frees handler (by rw [task]; rfl)] at creates
      cases creates
    | commitsGroup _ next =>
      rw [next] at task
      cases task
    | insertsGroup _ inserts =>
      subst inserts
      cases task
    | locks was _ _ next =>
      subst next
      cases task
      obtain ⟨group, -, -, rfl⟩ := found was
      rfl
    | checks was _ _ next =>
      subst next
      cases task
      obtain ⟨group, inMemory, same, now⟩ := found was
      rw [now]
      exact mirrored.locked conn mem g me used violations _ was rfl group inMemory same
    | commitsRoom was next changes =>
      rw [next] at task
      cases task
      obtain ⟨group, inMemory, same, rfl⟩ := found was
      rw [changes]
      exact mirrored.locked conn mem g me used violations _ was rfl group inMemory same
    | opensRoom _ _ next =>
      subst next
      cases task
      cases creates

/-- **The limit on rooms** holds in the store, and a room about to be stored has space. -/
theorem few_commit (mirrored : Mirrored gateway) (known : Known gateway) (owned : Owned gateway)
    (seats : Seats gateway) (mem : conn ∈ gateway.conns) (step : RegistryStep gateway conn outcome) :
    (∀ g, outcome.store.roomTable.countP (·.1 == g) ≤ maxRooms) ∧
      ∀ c ∈ (gateway.commit conn outcome).conns, ∀ g me used violations name visibility,
        c.task = .serving g me used violations (some (.createStore name visibility)) →
        outcome.store.roomTable.countP (·.1 == g) < maxRooms := by
  have resident : ∀ c ∈ gateway.conns, ∀ {g me}, c.task.session = some (g, me) →
      ∃ group ∈ gateway.groups, group.summary.groupId = g := by
    intro c hc g me session
    obtain ⟨client, group, inGroups, ofGroup, -⟩ := seats.taken c hc g me session
    exact ⟨group, inGroups, ofGroup⟩
  -- a step that stores no room
  have unmoved : outcome.store.roomTable = gateway.store.roomTable →
      (∀ g me used violations name visibility,
        outcome.task = .serving g me used violations (some (.createStore name visibility)) →
        gateway.store.roomTable.countP (·.1 == g) < maxRooms) →
      (∀ g, outcome.store.roomTable.countP (·.1 == g) ≤ maxRooms) ∧
        ∀ c ∈ (gateway.commit conn outcome).conns, ∀ g me used violations name visibility,
          c.task = .serving g me used violations (some (.createStore name visibility)) →
          outcome.store.roomTable.countP (·.1 == g) < maxRooms := by
    intro same own
    rw [same]
    refine ⟨mirrored.few, fun c hc g me used violations name visibility task => ?_⟩
    rcases mem_conns_commit hc with ⟨was, -⟩ | rfl
    · exact mirrored.space c was g me used violations name visibility task
    · exact own g me used violations name visibility task
  cases step with
  | still _ rooms _ _ _ _ frees =>
    refine unmoved rooms fun g me used violations name visibility task => ?_
    cases frees _ (by rw [task]; rfl)
  | @commitsGroup client created before next _ _ _ rooms free =>
    have new : gateway.store.roomTable.countP (·.1 == created.summary.groupId) = 0 := by
      refine List.countP_eq_zero.2 fun entry inTable => ?_
      obtain ⟨summary, inGroups, same⟩ := mirrored.named.ofGroup entry inTable
      have apart := free summary inGroups
      rw [same] at apart
      simpa using apart
    rw [rooms]
    constructor
    · intro g
      rw [List.countP_append, List.countP_singleton]
      by_cases same : created.summary.groupId = g
      · subst same
        simp [new, maxRooms]
      · simpa [same] using mirrored.few g
    · intro c hc g me used violations name visibility task
      rcases mem_conns_commit hc with ⟨was, -⟩ | rfl
      · obtain ⟨group, inMemory, ofGroup⟩ := resident c was (by rw [task]; rfl)
        have apart := free group.summary (known.groups group inMemory)
        rw [ofGroup] at apart
        rw [List.countP_append, List.countP_singleton]
        simpa [apart.symm] using mirrored.space c was g me used violations name visibility task
      · change outcome.task = _ at task
        rw [next] at task
        cases task
  | insertsGroup _ inserts =>
    subst inserts
    exact unmoved rfl fun g me used violations name visibility task => by cases task
  | locks _ _ _ next | opensRoom _ _ next =>
    subst next
    exact unmoved rfl fun g me used violations name visibility task => by cases task
  | @checks g me used violations name visibility group task found few next =>
    subst next
    obtain ⟨inGroups, rfl⟩ := group_some found
    refine unmoved rfl fun g me used violations name visibility now => ?_
    cases now
    rw [mirrored.count known inGroups fun c hc me' used' violations' room task' => ?_]
    · exact few
    · obtain rfl := mirrored.alone owned hc mem inGroups task' task rfl rfl
      rw [task] at task'
      cases task'
  | @commitsRoom g me used violations name visibility room task next _ _ _ rooms =>
    rw [rooms]
    constructor
    · intro g'
      rw [List.countP_append, List.countP_singleton]
      by_cases same : g = g'
      · subst same
        have space := mirrored.space conn mem g me used violations name visibility task
        simp only [beq_self_eq_true, if_true]
        omega
      · simpa [same] using mirrored.few g'
    · intro c hc g' me' used' violations' name' visibility' task'
      rcases mem_conns_commit hc with ⟨was, other⟩ | rfl
      · rw [List.countP_append, List.countP_singleton]
        by_cases same : g = g'
        · subst same
          obtain ⟨group, inMemory, rfl⟩ := resident c was (by rw [task']; rfl)
          exact absurd (congrArg Conn.id (mirrored.alone owned was mem inMemory task' task rfl rfl)) other
        · simpa [same] using mirrored.space c was g' me' used' violations' name' visibility' task'
      · change outcome.task = _ at task'
        rw [next] at task'
        cases task'

theorem named_commit (mirrored : Mirrored gateway) {action : Action}
    (h : gateway.outcome prims conn action = some outcome) : outcome.store.Named := by
  rcases store_cases h with same | ⟨op, performed⟩
  · rw [same]
    exact mirrored.named
  · rw [performed]
    exact mirrored.named.perform prims op

theorem mirrored_commit (mirrored : Mirrored gateway) (known : Known gateway) (owned : Owned gateway)
    (seats : Seats gateway) (mem : conn ∈ gateway.conns) {action : Action}
    (h : gateway.outcome prims conn action = some outcome) : Mirrored (gateway.commit conn outcome) := by
  have step := registryStep h
  obtain ⟨few, space⟩ := few_commit mirrored known owned seats mem step
  exact ⟨named_commit mirrored h, groups_commit mirrored owned mem step, rooms_commit mirrored known owned mem step,
    general_commit mirrored h, locked_commit mirrored known owned seats mem h, few, space⟩

/-! ## Loading -/

theorem keyedRooms_loadGroups {store : GatewayStore} (named : store.Named) (unique : store.GroupIdsUnique) :
    ((loadGroups store).flatMap GroupState.keyedRooms).Perm store.roomTable := by
  have keys : (store.listGroups.map (·.groupId)).Nodup := (store.listGroups_perm.map _).nodup_iff.2 unique
  have all : ∀ entry ∈ store.roomTable, entry.1 ∈ store.listGroups.map (·.groupId) := by
    intro entry inTable
    obtain ⟨summary, inGroups, same⟩ := named.ofGroup entry inTable
    exact List.mem_map.2 ⟨summary, store.listGroups_perm.mem_iff.2 inGroups, same⟩
  refine List.Perm.trans ?_ (sections_perm keys all)
  rw [loadGroups, List.flatMap_map, List.flatMap_map]
  refine List.Perm.flatMap_left _ fun summary _ => ?_
  -- the rooms of one group, as they are listed and as they are stored
  have listed : (GroupState.new summary (store.roomsOf summary.groupId)).keyedRooms.Perm
      (((store.roomTable.filter (·.1 == summary.groupId)).map Prod.snd).map (summary.groupId, ·)) :=
    GatewayStore.roomsOf_perm.map _
  rw [List.map_map] at listed
  refine listed.trans (.of_eq ((List.map_congr_left fun entry inTable => ?_).trans (List.map_id _)))
  have ofGroup : entry.1 = summary.groupId := by simpa using (List.mem_filter.1 inTable).2
  rw [← ofGroup]
  rfl

/-- A gateway that has just loaded its groups, with no session. -/
theorem mirrored_loaded (named : gateway.store.Named) (unique : gateway.store.GroupIdsUnique)
    (few : ∀ g, gateway.store.roomTable.countP (·.1 == g) ≤ maxRooms) (loaded : gateway.groups = loadGroups gateway.store)
    (closed : ∀ c ∈ gateway.conns, c.task = .closed) : Mirrored gateway := by
  refine ⟨named, ?_, ?_, ?_, ?_, few, ?_⟩
  · refine .loaded (fun c hc => by rw [closed c hc]; rfl) ?_
    have listed : (gateway.groups.map (·.summary)) = gateway.store.listGroups := by
      rw [loaded, loadGroups, List.map_map]
      exact List.map_id _
    rw [listed]
    exact gateway.store.listGroups_perm
  · refine .loaded (fun c hc => by rw [closed c hc]; rfl) ?_
    rw [loaded]
    exact keyedRooms_loadGroups named unique
  · intro group inGroups
    rw [loaded] at inGroups
    obtain ⟨summary, listed, rfl⟩ := List.mem_map.1 inGroups
    exact GatewayStore.mem_roomsOf.2 (named.general summary (gateway.store.listGroups_perm.mem_iff.1 listed))
  · intro c hc g me used violations handler task
    rw [closed c hc] at task
    cases task
  · intro c hc g me used violations name visibility task
    rw [closed c hc] at task
    cases task

theorem mirrored_spawned (h : Spawned gateway) : Mirrored gateway := by
  have known := known_spawned h
  obtain ⟨key, name, draw, h⟩ := h
  obtain ⟨-, store, groups, conns⟩ := spawnGateway_ok h
  have noGroups : gateway.store.groupTable = [] := by
    rw [store]
    rfl
  have noRooms : gateway.store.roomTable = [] := by
    rw [store]
    rfl
  have named : gateway.store.Named := by
    constructor <;> simp [noGroups, noRooms]
  exact mirrored_loaded named known.stored (fun g => by simp [noRooms]) groups (by simp [conns])

theorem mirrored_step {action : Action} (mirrored : Mirrored gateway) (known : Known gateway)
    (owned : Owned gateway) (seats : Seats gateway) (h : gateway.step prims action = some gateway') :
    Mirrored gateway' := by
  rcases step_cases h with
    ⟨id, remote, -, -, rfl⟩ | ⟨-, rfl⟩ | ⟨conn, mem, -, outcome, taken, rfl⟩
  · -- a new connection holds nothing
    have old : ∀ c ∈ gateway.conns ++ [{ id, remote, task := .hello, written := [] }],
        c.task ≠ .hello → c ∈ gateway.conns := by
      intro c hc started
      rcases List.mem_append.1 hc with hc | hc
      · exact hc
      · rw [List.mem_singleton.1 hc] at started
        exact absurd rfl started
    refine ⟨mirrored.named, mirrored.groups.join rfl, mirrored.rooms.join rfl, mirrored.general, ?_, mirrored.few, ?_⟩
    · intro c hc g me used violations handler task
      exact mirrored.locked c (old c hc (by simp [task])) g me used violations handler task
    · intro c hc g me used violations name visibility task
      exact mirrored.space c (old c hc (by simp [task])) g me used violations name visibility task
  · refine mirrored_loaded mirrored.named known.stored mirrored.few rfl fun c hc => ?_
    obtain ⟨d, -, rfl⟩ := List.mem_map.1 hc
    rfl
  · exact mirrored_commit mirrored known owned seats mem taken

theorem mirrored_run {ok : Gateway → Action → Prop} {actions : List Action} (start : Spawned gateway)
    (run : Run (step prims) ok gateway actions gateway') :
    Mirrored gateway' ∧ Known gateway' ∧ Owned gateway' ∧ Seats gateway' := by
  refine run.preserves (I := fun gateway => Mirrored gateway ∧ Known gateway ∧ Owned gateway ∧ Seats gateway) ?_
    ⟨mirrored_spawned start, known_spawned start, owned_spawned start, seats_spawned start⟩
  rintro gateway action gateway' ⟨mirrored, known, owned, seats⟩ - taken
  exact ⟨mirrored_step mirrored known owned seats taken, known_step known taken, owned_step owned taken,
    seats_step seats owned taken⟩

/-- No connection is between a commit and its insertion. -/
def Settled (gateway : Gateway) : Prop :=
  ∀ c ∈ gateway.conns, (∀ client created, c.task ≠ .insertingGroup client created) ∧
    ∀ room, c.task.handler ≠ some (.createInsert room)

end Gateway

/-- The same groups with the same rooms, each in any order. -/
structure SameRegistry (groups loaded : List GroupState) : Prop where
  summaries : (groups.map (·.summary)).Perm (loaded.map (·.summary))
  rooms : ∀ group ∈ groups, ∃ other ∈ loaded, other.summary = group.summary ∧ group.rooms.Perm other.rooms

namespace Gateway

variable {prims : Primitives} {gateway : Gateway}

theorem Settled.pendingRooms (settled : Settled gateway) : ∀ c ∈ gateway.conns, c.task.pendingRooms = [] := by
  intro c hc
  refine List.eq_nil_iff_forall_not_mem.2 fun entry held => ?_
  rcases mem_pendingRooms held with ⟨client, created, task, -⟩ | ⟨me, used, violations, task⟩
  · exact (settled c hc).1 client created task
  · exact (settled c hc).2 entry.2 (by rw [task]; rfl)

/-- **With nothing in flight** memory is what a restart would load. -/
theorem Mirrored.sameRegistry (mirrored : Mirrored gateway) (known : Known gateway) (settled : Settled gateway) :
    SameRegistry gateway.groups (loadGroups gateway.store) := by
  have groups : (gateway.groups.map (·.summary)).Perm gateway.store.listGroups :=
    (mirrored.groups.settled fun c hc => pendingGroups_of_rooms (settled.pendingRooms c hc)).trans
      gateway.store.listGroups_perm.symm
  have rooms := mirrored.rooms.settled settled.pendingRooms
  constructor
  · rw [loadGroups, List.map_map]
    exact groups.trans (.of_eq (List.map_id _).symm)
  · intro group inGroups
    have listed : group.summary ∈ gateway.store.listGroups :=
      groups.mem_iff.1 (List.mem_map_of_mem inGroups)
    refine ⟨_, List.mem_map_of_mem listed, rfl, ?_⟩
    have own : ((gateway.groups.flatMap GroupState.keyedRooms).filter (·.1 == group.summary.groupId)).map Prod.snd =
        group.rooms := rows_of_section known.ids inGroups
    rw [← own]
    exact ((rooms.filter _).map _).trans GatewayStore.roomsOf_perm.symm

theorem Mirrored.few_rooms (mirrored : Mirrored gateway) (known : Known gateway) {group : GroupState}
    (inGroups : group ∈ gateway.groups) : group.rooms.length ≤ maxRooms := by
  have own : ((gateway.groups.flatMap GroupState.keyedRooms).filter (·.1 == group.summary.groupId)).map Prod.snd =
      group.rooms := rows_of_section known.ids inGroups
  calc group.rooms.length
      = (gateway.groups.flatMap GroupState.keyedRooms).countP (·.1 == group.summary.groupId) := by
        rw [← own, List.length_map, List.countP_eq_length_filter]
    _ ≤ gateway.store.roomTable.countP (·.1 == group.summary.groupId) := mirrored.rooms.countP_le _
    _ ≤ maxRooms := mirrored.few _

theorem Mirrored.room_names (mirrored : Mirrored gateway) {group : GroupState} (inGroups : group ∈ gateway.groups) :
    (group.rooms.map fun room => nocase room.roomName).Nodup := by
  have unique := mirrored.rooms.nodup mirrored.named.roomNames
  have inside : group.keyedRooms.Sublist (gateway.groups.flatMap GroupState.keyedRooms) :=
    List.sublist_flatten_of_mem (List.mem_map_of_mem inGroups)
  have own := unique.sublist (inside.map _)
  rw [GroupState.keyedRooms, keyed, List.map_map] at own
  exact List.Nodup.of_map (fun name => (group.summary.groupId, name)) (by rw [List.map_map]; exact own)

/-- **The registries mirror the store** in every reachable state. Every group has its
general room, at most `maxRooms` rooms and no two of one name, no two groups have one
name, and whenever no creation is between its commit and its insertion a restart would
load exactly what is in memory. -/
theorem registries_mirror_store (reachable : Reachable prims gateway) :
    (∀ group ∈ gateway.groups, GatewayStore.generalRoom ∈ group.rooms ∧ group.rooms.length ≤ maxRooms ∧
      (group.rooms.map fun room => nocase room.roomName).Nodup) ∧
    (gateway.groups.map fun group => nocase group.summary.groupName).Nodup ∧
    (gateway.Settled → SameRegistry gateway.groups (loadGroups gateway.store)) := by
  obtain ⟨start, actions, spawned, run⟩ := reachable
  obtain ⟨mirrored, known, -, -⟩ := mirrored_run spawned run
  refine ⟨fun group inGroups => ?_, ?_, mirrored.sameRegistry known⟩
  · exact ⟨mirrored.general group inGroups, mirrored.few_rooms known inGroups, mirrored.room_names inGroups⟩
  · have unique := mirrored.groups.nodup mirrored.named.groupNames
    rwa [List.map_map] at unique

/-- The founder of the team opens a private room, up to its announcement. -/
def storesAttic : List Action := .receive 1 (.createRoom "attic" .isPrivate) false :: advances 1 4

theorem registries_mirror_store_attic : ∃ gateway : Gateway, Reachable .checksummed gateway ∧
    (gateway.groups.any (·.rooms.length == 2)) = true ∧
    SameRegistry gateway.groups (loadGroups gateway.store) := by
  obtain ⟨gateway, reachable, checked⟩ := exists_reachable reachable_teamOfTwo storesAttic
    (fun gateway => gateway.conns.all (·.task.pendingRooms.isEmpty) && gateway.groups.any (·.rooms.length == 2))
    (by decide +kernel)
  obtain ⟨idle, two⟩ := Bool.and_eq_true_iff.1 checked
  refine ⟨gateway, reachable, two, (registries_mirror_store reachable).2.2 fun c hc => ?_⟩
  have nothing := List.isEmpty_iff.1 (List.all_eq_true.1 idle c hc)
  constructor
  · intro client created task
    rw [task] at nothing
    cases nothing
  · intro room running
    cases task : c.task <;> rw [task] at running nothing <;> cases running
    cases nothing

end Gateway

end LanChat
