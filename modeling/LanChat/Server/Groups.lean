import LanChat.Server.Runs
import LanChat.Storage.Rooms

/-!
# The groups in memory and in the store

Every group and room in memory is in the store, no two groups in memory share
an id, and a group that its creator has stored but not inserted yet is not in
memory (`Known`).
-/

namespace LanChat

open Transition

namespace Gateway

variable {prims : Primitives} {gateway gateway' : Gateway} {conn : Conn} {outcome : Outcome}

structure Known (gateway : Gateway) : Prop where
  stored : gateway.store.GroupIdsUnique
  ids : (gateway.groups.map (·.summary.groupId)).Nodup
  groups : ∀ group ∈ gateway.groups, group.summary ∈ gateway.store.groupTable
  rooms : ∀ group ∈ gateway.groups, ∀ room ∈ group.rooms,
    (group.summary.groupId, room) ∈ gateway.store.roomTable
  /-- A group about to be inserted. -/
  inserting : ∀ c ∈ gateway.conns, ∀ client created, c.task = .insertingGroup client created →
    created.summary ∈ gateway.store.groupTable ∧
      (created.summary.groupId, GatewayStore.generalRoom) ∈ gateway.store.roomTable ∧
      ∀ group ∈ gateway.groups, group.summary.groupId ≠ created.summary.groupId
  inserters : ∀ c ∈ gateway.conns, ∀ d ∈ gateway.conns, ∀ client created client' created',
    c.task = .insertingGroup client created → d.task = .insertingGroup client' created' →
    created.summary.groupId = created'.summary.groupId → c = d
  /-- A room about to be opened. -/
  opening : ∀ c ∈ gateway.conns, ∀ g me used violations room,
    c.task = .serving g me used violations (some (.createInsert room)) →
    (g, room) ∈ gateway.store.roomTable

theorem Known.eq_of_id (known : Known gateway) {group group' : GroupState}
    (mem : group ∈ gateway.groups) (mem' : group' ∈ gateway.groups)
    (same : group.summary.groupId = group'.summary.groupId) : group = group' :=
  List.inj_on_of_nodup_map known.ids mem mem' same

/-- The group a lookup finds is the one with that id. -/
theorem Known.group_eq (known : Known gateway) {group : GroupState} (mem : group ∈ gateway.groups) :
    gateway.group group.summary.groupId = some group := by
  cases found : gateway.group group.summary.groupId with
  | none => simpa using List.find?_eq_none.1 found group mem
  | some other =>
    obtain ⟨inGroups, same⟩ := group_some found
    rw [known.eq_of_id inGroups mem same]

theorem known_loadGroups {store : GatewayStore} (unique : store.GroupIdsUnique) :
    ((loadGroups store).map (·.summary.groupId)).Nodup ∧
      (∀ group ∈ loadGroups store, group.summary ∈ store.groupTable) ∧
      ∀ group ∈ loadGroups store, ∀ room ∈ group.rooms,
        (group.summary.groupId, room) ∈ store.roomTable := by
  refine ⟨?_, ?_, ?_⟩
  · have ids : (loadGroups store).map (·.summary.groupId) = store.listGroups.map (·.groupId) := by
      rw [loadGroups, List.map_map]
      rfl
    rw [ids]
    exact (store.listGroups_perm.map _).nodup_iff.2 unique
  · intro group mem
    obtain ⟨summary, listed, rfl⟩ := List.mem_map.1 mem
    exact store.listGroups_perm.mem_iff.1 listed
  · intro group mem room inRooms
    obtain ⟨summary, listed, rfl⟩ := List.mem_map.1 mem
    exact GatewayStore.mem_roomsOf.1 inRooms

theorem known_spawned (h : Spawned gateway) : Known gateway := by
  obtain ⟨key, name, draw, h⟩ := h
  obtain ⟨-, store, groups, conns⟩ := spawnGateway_ok h
  have empty : gateway.store.groupTable = [] := by
    rw [store]
    rfl
  have unique : gateway.store.GroupIdsUnique := by simp [GatewayStore.GroupIdsUnique, empty]
  obtain ⟨ids, known, rooms⟩ := known_loadGroups unique
  rw [← groups] at ids known rooms
  exact ⟨unique, ids, known, rooms, by simp [conns], by simp [conns], by simp [conns]⟩

/-- Rooms enter a group by a creation of theirs only. -/
theorem mem_rooms_applyAll {group : GroupState} {changes : List Change} {room : RoomSummary}
    (mem : room ∈ (group.applyAll changes).rooms) :
    room ∈ group.rooms ∨ .openRoom room ∈ changes := by
  induction changes generalizing group with
  | nil => exact .inl mem
  | cons change changes ih =>
    rcases ih mem with mem | opened
    · rw [GroupState.rooms_apply] at mem
      rcases List.mem_append.1 mem with mem | mem
      · exact .inl mem
      · cases change <;> simp only [List.mem_singleton, List.not_mem_nil] at mem
        subst mem
        exact .inr List.mem_cons_self
    · exact .inr (List.mem_cons_of_mem _ opened)

/-- A room is opened by its creator, from the room the store has created. -/
theorem openRoom_cases {action : Action} (h : gateway.outcome prims conn action = some outcome)
    {room : RoomSummary} (opened : .openRoom room ∈ outcome.changes) :
    ∃ g me used violations, conn.task = .serving g me used violations (some (.createInsert room)) := by
  cases taken h with
  | inside _ _ _ _ speaks => cases speaks <;> simp at opened
  | calls =>
    simp only [holds] at opened
    split at opened <;> simp at opened
  | @blocks g me used violations handler group changes next task _ blocked =>
    cases Handler.blocks blocked <;> simp [Handler.finish] at opened
    subst opened
    exact ⟨g, me, used, violations, task⟩
  | _ => simp [insertGroup, register, moveTo] at opened

/-- A task that is about to insert a group has just created it. -/
theorem inserting_cases {action : Action} (h : gateway.outcome prims conn action = some outcome)
    {client : HelloClient} {created : CreatedGroup}
    (next : outcome.task = .insertingGroup client created) :
    ∃ name mode draw, (gateway.store.perform prims (.createGroupWithAccess name mode draw)).1 =
        .created created ∧
      outcome.store = (gateway.store.perform prims (.createGroupWithAccess name mode draw)).2 ∧
      conn.task = .creatingGroup client name mode := by
  cases taken h with
  | lobby _ after =>
    simp only [moveTo_task] at next
    rw [next] at after
    cases after
  | creates task reply =>
    cases next
    obtain ⟨performed, committed⟩ := call_of_reply reply nofun
    exact ⟨_, _, _, performed, committed, task⟩
  | inside _ _ after =>
    simp only [moveTo_task] at next
    rw [next] at after
    cases after
  | removes _ _ after => rcases after with rfl | rfl <;> cases next
  | _ => cases next

/-- A task that is about to open a room has just created it. -/
theorem opening_cases {action : Action} (h : gateway.outcome prims conn action = some outcome)
    {g : Uuid} {me : Session} {used violations : ℕ} {room : RoomSummary}
    (next : outcome.task = .serving g me used violations (some (.createInsert room))) :
    ∃ name visibility draw, (gateway.store.perform prims
        (.createRoomWithVisibility g name visibility (some me.peer.memberId) draw)).1 = .room room ∧
      outcome.store = (gateway.store.perform prims
        (.createRoomWithVisibility g name visibility (some me.peer.memberId) draw)).2 ∧
      conn.task = .serving g me used violations (some (.createStore name visibility)) := by
  cases taken h with
  | lobby _ after =>
    simp only [moveTo_task] at next
    rw [next] at after
    cases after
  | inside _ _ _ starts =>
    simp only [moveTo_task] at next
    have isStart := starts _ (by rw [next]; rfl)
    cases isStart
  | @calls _ _ _ _ handler op draw fault task waits =>
    simp only [moveTo_task, Task.serving.injEq, Option.some.injEq] at next
    obtain ⟨rfl, rfl, rfl, rfl, next⟩ := next
    have into := Handler.resumes waits (gateway.call prims op fault).1
    rw [next] at into
    generalize replied : (gateway.call prims op fault).1 = reply at into
    cases into with
    | created =>
      cases waits
      obtain ⟨performed, committed⟩ := call_of_reply replied nofun
      exact ⟨_, _, draw, performed, committed, task⟩
    | plain isPlain => cases isPlain
  | @blocks _ _ _ _ handler group changes after task _ blocked =>
    simp only [moveTo_task, Task.serving.injEq] at next
    obtain ⟨rfl, rfl, rfl, rfl, rfl⟩ := next
    cases Handler.blocks blocked with
    | admin isPlain => cases isPlain
  | removes _ _ after => rcases after with rfl | rfl <;> cases next
  | _ => cases next

/-- The store keeps its groups and rooms. -/
theorem store_grows {action : Action} (h : gateway.outcome prims conn action = some outcome) :
    (∀ summary ∈ gateway.store.groupTable, summary ∈ outcome.store.groupTable) ∧
      (∀ entry ∈ gateway.store.roomTable, entry ∈ outcome.store.roomTable) ∧
      (gateway.store.GroupIdsUnique → outcome.store.GroupIdsUnique) := by
  rcases store_cases h with same | ⟨op, performed⟩
  · rw [same]
    exact ⟨fun _ => id, fun _ => id, id⟩
  · rw [performed]
    exact ⟨fun _ => GatewayStore.groupTable_grows op, fun _ => GatewayStore.roomTable_grows op,
      fun unique => GatewayStore.groupIdsUnique_perform prims unique op⟩

theorem known_commit (known : Known gateway) (mem : conn ∈ gateway.conns)
    {action : Action} (h : gateway.outcome prims conn action = some outcome) :
    Known (gateway.commit conn outcome) := by
  obtain ⟨groupsGrow, roomsGrow, unique⟩ := store_grows h
  -- a group after the step is one before, or the inserted one
  have before : ∀ group ∈ (gateway.commit conn outcome).groups,
      (∃ old ∈ gateway.groups, group.summary = old.summary) ∨
        ∃ client created, conn.task = .insertingGroup client created ∧
          group.summary = created.summary ∧ group.rooms = [GatewayStore.generalRoom] := by
    intro group inGroups
    rcases mem_groups_commit inGroups with ⟨old, was, -, rfl⟩ | ⟨was, -⟩ | new
    · exact .inl ⟨old, was, by simp⟩
    · exact .inl ⟨group, was, rfl⟩
    · rcases inserted_cases h with none | ⟨client, created, task, rfl⟩
      · rw [none] at new
        cases new
      · cases new
        exact .inr ⟨client, created, task, rfl, rfl⟩
  refine ⟨unique known.stored, ?_, ?_, ?_, ?_, ?_, ?_⟩
  · have ids : (gateway.commit conn outcome).groups.map (·.summary.groupId) =
        gateway.groups.map (·.summary.groupId) ++
          outcome.inserted.toList.map (·.summary.groupId) := by
      rw [commit, List.map_append, List.map_map]
      congr 1
      refine List.map_congr_left fun group _ => ?_
      simp only [Function.comp_apply]
      split <;> simp
    rw [ids]
    rcases inserted_cases h with none | ⟨client, created, task, rfl⟩
    · rw [none]
      simpa using known.ids
    · refine List.Nodup.append known.ids (by simp [insertGroup]) ?_
      have apart := (known.inserting conn mem client created task).2.2
      simpa [insertGroup, GroupState.new, eq_comm] using apart
  · intro group inGroups
    rcases before group inGroups with ⟨old, was, same⟩ | ⟨client, created, task, same, -⟩
    · rw [same]
      exact groupsGrow _ (known.groups old was)
    · rw [same]
      exact groupsGrow _ (known.inserting conn mem client created task).1
  · intro group inGroups room inRooms
    rcases mem_groups_commit inGroups with ⟨old, was, own, rfl⟩ | ⟨was, -⟩ | new
    · rw [GroupState.applyAll_summary]
      rcases mem_rooms_applyAll inRooms with inRooms | opened
      · exact roomsGrow _ (known.rooms old was room inRooms)
      · obtain ⟨g, me, used, violations, task⟩ := openRoom_cases h opened
        rw [task] at own
        cases own
        exact roomsGrow _ (known.opening conn mem _ me used violations room task)
    · exact roomsGrow _ (known.rooms group was room inRooms)
    · rcases inserted_cases h with none | ⟨client, created, task, rfl⟩
      · rw [none] at new
        cases new
      · cases new
        obtain rfl := List.mem_singleton.1 inRooms
        exact roomsGrow _ (known.inserting conn mem client created task).2.1
  · intro c hc client created task
    rcases mem_conns_commit hc with ⟨was, other⟩ | rfl
    · obtain ⟨inTable, general, apart⟩ := known.inserting c was client created task
      refine ⟨groupsGrow _ inTable, roomsGrow _ general, fun group inGroups same => ?_⟩
      rcases before group inGroups with ⟨old, wasIn, summary⟩ | ⟨client', created', task', summary, -⟩
      · exact apart old wasIn (by rw [← summary, same])
      · obtain rfl := known.inserters c was conn mem _ _ _ _ task task' (by rw [← same, summary])
        exact other rfl
    · obtain ⟨name, mode, draw, reply, committed, creating⟩ := inserting_cases h task
      obtain ⟨-, fresh, inTable, general⟩ := GatewayStore.createGroup_known reply
      rw [← committed] at inTable general
      refine ⟨inTable, general, fun group inGroups same => ?_⟩
      rcases before group inGroups with ⟨old, wasIn, summary⟩ | ⟨client', created', task', -, -⟩
      · exact fresh old.summary (known.groups old wasIn) (by rw [← summary, same])
      · rw [creating] at task'
        cases task'
  · intro c hc d hd client created client' created' task task' same
    have fresh : ∀ {client created}, outcome.task = .insertingGroup client created →
        ∀ e ∈ gateway.conns, ∀ client' created', e.task = .insertingGroup client' created' →
          created.summary.groupId ≠ created'.summary.groupId := by
      intro client created next e he client' created' task' same
      obtain ⟨name, mode, draw, reply, -, -⟩ := inserting_cases h next
      exact (GatewayStore.createGroup_known reply).2.1 _
        (known.inserting e he client' created' task').1 same.symm
    rcases mem_conns_commit hc with ⟨hc, nc⟩ | rfl <;> rcases mem_conns_commit hd with ⟨hd, nd⟩ | rfl
    · exact known.inserters c hc d hd client created client' created' task task' same
    · exact absurd same.symm (fresh task' c hc client created task)
    · exact absurd same (fresh task d hd client' created' task')
    · rfl
  · intro c hc g me used violations room task
    rcases mem_conns_commit hc with ⟨was, -⟩ | rfl
    · exact roomsGrow _ (known.opening c was g me used violations room task)
    · obtain ⟨name, visibility, draw, reply, committed, -⟩ := opening_cases h task
      change (g, room) ∈ outcome.store.roomTable
      rw [committed]
      exact (GatewayStore.createRoom_owned reply).1

theorem known_step {action : Action} (known : Known gateway)
    (h : gateway.step prims action = some gateway') : Known gateway' := by
  rcases step_cases h with
    ⟨id, remote, -, -, rfl⟩ | ⟨-, rfl⟩ | ⟨conn, mem, -, outcome, taken, rfl⟩
  · -- a new connection is about to insert nothing
    have old : ∀ c ∈ gateway.conns ++ [{ id, remote, task := .hello, written := [] }],
        c.task ≠ .hello → c ∈ gateway.conns := by
      intro c hc started
      rcases List.mem_append.1 hc with hc | hc
      · exact hc
      · rw [List.mem_singleton.1 hc] at started
        exact absurd rfl started
    refine ⟨known.stored, known.ids, known.groups, known.rooms, ?_, ?_, ?_⟩
    · intro c hc client created task
      exact known.inserting c (old c hc (by simp [task])) client created task
    · intro c hc d hd client created client' created' task task' same
      exact known.inserters c (old c hc (by simp [task])) d (old d hd (by simp [task'])) client
        created client' created' task task' same
    · intro c hc g me used violations room task
      exact known.opening c (old c hc (by simp [task])) g me used violations room task
  · obtain ⟨ids, groups, rooms⟩ := known_loadGroups known.stored
    refine ⟨known.stored, ids, groups, rooms, ?_, ?_, ?_⟩
    all_goals
      intro c hc
      obtain ⟨c, -, rfl⟩ := List.mem_map.1 hc
      simp
  · exact known_commit known mem taken

end Gateway

end LanChat
