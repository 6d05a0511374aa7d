import LanChat.Storage.Rooms

/-!
# The names of groups and rooms

What the keys and the name checks of the creations keep: no two groups share an
id or a name, no two rooms of a group share an id or a name, every room is in a
group, and every group has its general room (`Named`). Names are compared as
`COLLATE NOCASE` does.
-/

namespace LanChat

namespace GatewayStore

variable {prims : Primitives} {store store' : GatewayStore}

/-- What an operation does to groups and rooms, with what its creation has checked. -/
inductive NamesStep (store store' : GatewayStore) : Prop where
  | same (groups : store'.groupTable = store.groupTable) (rooms : store'.roomTable = store.roomTable)
  | group {summary : GroupSummary}
      (free : ∀ old ∈ store.groupTable,
        old.groupId ≠ summary.groupId ∧ nocase old.groupName ≠ nocase summary.groupName)
      (groups : store'.groupTable = store.groupTable ++ [summary])
      (rooms : store'.roomTable = store.roomTable ++ [(summary.groupId, generalRoom)])
  | room {g : Uuid} {room : RoomSummary} (known : ∃ summary ∈ store.groupTable, summary.groupId = g)
      (free : ∀ old ∈ store.roomTable, old.1 = g →
        old.2.roomId ≠ room.roomId ∧ nocase old.2.roomName ≠ nocase room.roomName)
      (groups : store'.groupTable = store.groupTable)
      (rooms : store'.roomTable = store.roomTable ++ [(g, room)])

theorem namesStep_createGroup {name : String} {mode : GroupAccessMode} {draw : Draw} {created : CreatedGroup}
    (h : store.createGroupWithAccess prims name mode draw = .ok (created, store')) :
    created.summary = { groupId := draw.id, groupName := name, accessMode := mode } ∧
      (∀ old ∈ store.groupTable, old.groupId ≠ created.summary.groupId ∧
        nocase old.groupName ≠ nocase created.summary.groupName) ∧
      store'.groupTable = store.groupTable ++ [created.summary] ∧
      store'.roomTable = store.roomTable ++ [(created.summary.groupId, generalRoom)] := by
  obtain ⟨_, _, -, summary, -, -, free, -, -, rfl⟩ := createGroupWithAccess_ok h
  rw [summary]
  refine ⟨rfl, fun old mem => ?_, ?_, ?_⟩
  · obtain ⟨row, inGroups, rfl⟩ := List.mem_map.1 mem
    exact free row inGroups
  · rw [groupTable, List.map_append]
    rfl
  · rw [roomTable, List.map_append]
    rfl

theorem namesStep_createRoom {g : Uuid} {name : String} {visibility : RoomVisibility} {creator : Option Uuid}
    {draw : Draw} {room : RoomSummary}
    (h : store.createRoomWithVisibility g name visibility creator draw = .ok (room, store')) :
    (∃ summary ∈ store.groupTable, summary.groupId = g) ∧
      (∀ old ∈ store.roomTable, old.1 = g →
        old.2.roomId ≠ room.roomId ∧ nocase old.2.roomName ≠ nocase room.roomName) ∧
      store'.groupTable = store.groupTable ∧ store'.roomTable = store.roomTable ++ [(g, room)] := by
  obtain ⟨rfl, unused, hasGroup, free, -, rfl⟩ := createRoomWithVisibility_ok h
  refine ⟨?_, fun old mem ofGroup => ?_, rfl, ?_⟩
  · obtain ⟨row, mem, same⟩ := hasGroup_iff.1 hasGroup
    exact ⟨row.summary, List.mem_map_of_mem mem, same⟩
  · obtain ⟨row, inRooms, rfl⟩ := List.mem_map.1 mem
    constructor
    · intro same
      have known : store.hasRoom g draw.id.simple = true :=
        hasRoom_table.2 ⟨_, List.mem_map_of_mem inRooms, ofGroup, same⟩
      rw [free] at known
      cases known
    · exact unused row inRooms ofGroup
  · rw [roomTable, List.map_append]
    rfl

/-- An operation that creates neither leaves both tables alone. -/
theorem tables_of_no_creation {op : StoreOp} (noGroup : op.newGroup = none) (noRoom : op.newRoom = none) :
    (store.perform prims op).2.groupTable = store.groupTable ∧
      (store.perform prims op).2.roomTable = store.roomTable := by
  obtain ⟨reply, step⟩ := tablesStep_store prims store op
  cases step with
  | same groups rooms | included _ groups rooms | excluded groups rooms => exact ⟨groups, rooms⟩
  | group opens =>
    rw [noGroup] at opens
    cases opens
  | room opens =>
    rw [noRoom] at opens
    cases opens

theorem namesStep (prims : Primitives) (store : GatewayStore) (op : StoreOp) :
    NamesStep store (store.perform prims op).2 := by
  have other : op.newGroup = none → op.newRoom = none → NamesStep store (store.perform prims op).2 := by
    intro noGroup noRoom
    obtain ⟨groups, rooms⟩ := tables_of_no_creation noGroup noRoom
    exact .same groups rooms
  cases op with
  | createGroup name draw =>
    simp only [perform, GatewayStore.createGroup]
    cases creation : store.createGroupWithAccess prims name .isPublic draw with
    | error e => exact .same rfl rfl
    | ok success =>
      obtain ⟨-, free, groups, rooms⟩ := namesStep_createGroup creation
      exact .group free groups rooms
  | createGroupWithAccess name mode draw =>
    rcases settle_cases store .created (store.createGroupWithAccess prims name mode draw) with
      ⟨e, h⟩ | ⟨created, s, ok, h⟩
    · rw [perform, h]
      exact .same rfl rfl
    · rw [perform, h]
      obtain ⟨-, free, groups, rooms⟩ := namesStep_createGroup ok
      exact .group free groups rooms
  | createRoom groupId name draw =>
    rcases settle_cases store .room (store.createRoom groupId name draw) with ⟨e, h⟩ | ⟨room, s, ok, h⟩
    · rw [perform, h]
      exact .same rfl rfl
    · rw [perform, h]
      obtain ⟨known, free, groups, rooms⟩ := namesStep_createRoom ok
      exact .room known free groups rooms
  | createRoomWithVisibility groupId name visibility creator draw =>
    rcases settle_cases store .room
      (store.createRoomWithVisibility groupId name visibility creator draw) with ⟨e, h⟩ | ⟨room, s, ok, h⟩
    · rw [perform, h]
      exact .same rfl rfl
    · rw [perform, h]
      obtain ⟨known, free, groups, rooms⟩ := namesStep_createRoom ok
      exact .room known free groups rooms
  | _ => exact other rfl rfl

/-- **The tables are well named.** -/
structure Named (store : GatewayStore) : Prop where
  groupNames : (store.groupTable.map fun summary => nocase summary.groupName).Nodup
  roomIds : (store.roomTable.map fun entry => (entry.1, entry.2.roomId)).Nodup
  roomNames : (store.roomTable.map fun entry => (entry.1, nocase entry.2.roomName)).Nodup
  ofGroup : ∀ entry ∈ store.roomTable, ∃ summary ∈ store.groupTable, summary.groupId = entry.1
  general : ∀ summary ∈ store.groupTable, (summary.groupId, generalRoom) ∈ store.roomTable

/-- A row whose key no row has can be added. -/
theorem nodup_map_concat {α κ : Type*} {rows : List α} {row : α} {key : α → κ} (unique : (rows.map key).Nodup)
    (fresh : ∀ old ∈ rows, key old ≠ key row) : ((rows ++ [row]).map key).Nodup := by
  rw [List.map_append]
  refine List.Nodup.append unique (List.nodup_singleton _) fun k before new => ?_
  obtain ⟨old, mem, rfl⟩ := List.mem_map.1 before
  exact fresh old mem (List.mem_singleton.1 new)

theorem Named.step (named : Named store) (step : NamesStep store store') : Named store' := by
  cases step with
  | same groups rooms =>
    refine ⟨?_, ?_, ?_, ?_, ?_⟩
    · rw [groups]
      exact named.groupNames
    · rw [rooms]
      exact named.roomIds
    · rw [rooms]
      exact named.roomNames
    · rw [groups, rooms]
      exact named.ofGroup
    · rw [groups, rooms]
      exact named.general
  | @group summary free groups rooms =>
    -- a room of the new group would be a room of a group with its id
    have noRoom : ∀ old ∈ store.roomTable, old.1 ≠ summary.groupId := by
      intro old mem same
      obtain ⟨known, inGroups, ofRoom⟩ := named.ofGroup old mem
      exact (free known inGroups).1 (ofRoom.trans same)
    refine ⟨?_, ?_, ?_, ?_, ?_⟩
    · rw [groups]
      exact nodup_map_concat named.groupNames fun old mem => (free old mem).2
    · rw [rooms]
      exact nodup_map_concat named.roomIds fun old mem same => noRoom old mem (congrArg Prod.fst same)
    · rw [rooms]
      exact nodup_map_concat named.roomNames fun old mem same => noRoom old mem (congrArg Prod.fst same)
    · rw [groups, rooms]
      intro entry mem
      rcases List.mem_append.1 mem with before | new
      · obtain ⟨known, inGroups, same⟩ := named.ofGroup entry before
        exact ⟨known, List.mem_append_left _ inGroups, same⟩
      · obtain rfl := List.mem_singleton.1 new
        exact ⟨summary, List.mem_append_right _ (List.mem_singleton_self _), rfl⟩
    · rw [groups, rooms]
      intro known mem
      rcases List.mem_append.1 mem with before | new
      · exact List.mem_append_left _ (named.general known before)
      · obtain rfl := List.mem_singleton.1 new
        exact List.mem_append_right _ (List.mem_singleton_self _)
  | @room g room known free groups rooms =>
    refine ⟨?_, ?_, ?_, ?_, ?_⟩
    · rw [groups]
      exact named.groupNames
    · rw [rooms]
      refine nodup_map_concat named.roomIds fun old mem same => ?_
      obtain ⟨ofGroup, sameId⟩ := Prod.mk.inj same
      exact (free old mem ofGroup).1 sameId
    · rw [rooms]
      refine nodup_map_concat named.roomNames fun old mem same => ?_
      obtain ⟨ofGroup, sameName⟩ := Prod.mk.inj same
      exact (free old mem ofGroup).2 sameName
    · rw [groups, rooms]
      intro entry mem
      rcases List.mem_append.1 mem with before | new
      · exact named.ofGroup entry before
      · obtain rfl := List.mem_singleton.1 new
        exact known
    · rw [groups, rooms]
      exact fun summary mem => List.mem_append_left _ (named.general summary mem)

theorem Named.perform (named : Named store) (prims : Primitives) (op : StoreOp) :
    Named (store.perform prims op).2 := named.step (namesStep prims store op)

/-! ## The rooms of a group -/

theorem roomsOf_perm {g : Uuid} :
    (store.roomsOf g).Perm ((store.roomTable.filter (·.1 == g)).map Prod.snd) := by
  have sorted : (store.roomsOf g).Perm ((store.rooms.filter (·.groupId == g)).map RoomRow.summary) :=
    (List.perm_insertionSort _ _).map _
  rw [roomTable, List.filter_map, List.map_map]
  exact sorted

end GatewayStore

end LanChat
