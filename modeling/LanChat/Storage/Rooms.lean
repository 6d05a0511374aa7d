import LanChat.Storage.Memberships

/-!
# Groups, rooms and room members over a run of the store

What an operation can do to these tables (`TablesStep`), and from it what rooms
mean for a membership: groups and rooms stay, a room keeps its visibility, its
owner stays its owner, and access is lost by a removal from the room only.
-/

namespace LanChat

/-- The group an operation creates. -/
def StoreOp.newGroup : StoreOp → Option GroupSummary
  | createGroup groupName draw => some { groupId := draw.id, groupName, accessMode := .isPublic }
  | createGroupWithAccess groupName accessMode draw =>
    some { groupId := draw.id, groupName, accessMode }
  | _ => none

/-- The room an operation creates, with its group and its owner. -/
def StoreOp.newRoom : StoreOp → Option (Uuid × RoomSummary × Option Uuid)
  | createRoom groupId roomName draw =>
    some (groupId, { roomId := draw.id.simple, roomName, visibility := .isPublic }, none)
  | createRoomWithVisibility groupId roomName visibility creator draw =>
    some (groupId, { roomId := draw.id.simple, roomName, visibility }, creator)
  | _ => none

namespace GatewayStore

variable {prims : Primitives} {store store' : GatewayStore}

def groupTable (store : GatewayStore) : List GroupSummary := store.groups.map GroupRow.summary

/-- The rooms with their groups, without the counters. -/
def roomTable (store : GatewayStore) : List (Uuid × RoomSummary) :=
  store.rooms.map fun row => (row.groupId, row.summary)

def generalRoom : RoomSummary :=
  { roomId := defaultRoomId, roomName := defaultRoomName, visibility := .isPublic }

/-- The rows `set_room_member` deletes. -/
def removable (groupId : Uuid) (roomId : String) (memberId : Uuid) (row : RoomMemberRow) : Bool :=
  row.groupId == groupId && row.roomId == roomId && row.memberId == memberId && row.role == .member

/-- What one operation with its reply does to groups, rooms and room members. -/
inductive TablesStep (store : GatewayStore) : StoreOp → StoreReply → GatewayStore → Prop where
  | same {op : StoreOp} {reply : StoreReply} {store' : GatewayStore}
      (groups : store'.groupTable = store.groupTable) (rooms : store'.roomTable = store.roomTable)
      (members : store'.roomMembers = store.roomMembers) : TablesStep store op reply store'
  | group {op : StoreOp} {reply : StoreReply} {store' : GatewayStore} {summary : GroupSummary}
      (opens : op.newGroup = some summary)
      (free : ∀ old ∈ store.groupTable, old.groupId ≠ summary.groupId)
      (freeRoom : store.hasRoom summary.groupId defaultRoomId = false)
      (groups : store'.groupTable = store.groupTable ++ [summary])
      (rooms : store'.roomTable = store.roomTable ++ [(summary.groupId, generalRoom)])
      (members : store'.roomMembers = store.roomMembers) : TablesStep store op reply store'
  | room {op : StoreOp} {reply : StoreReply} {store' : GatewayStore} {g : Uuid}
      {room : RoomSummary} {creator : Option Uuid} (opens : op.newRoom = some (g, room, creator))
      (free : store.hasRoom g room.roomId = false)
      (fresh : ∀ new ∈ ownerRows g room.roomId creator room.visibility,
        ∀ old ∈ store.roomMembers, old.key ≠ new.key)
      (groups : store'.groupTable = store.groupTable)
      (rooms : store'.roomTable = store.roomTable ++ [(g, room)])
      (members : store'.roomMembers =
        store.roomMembers ++ ownerRows g room.roomId creator room.visibility)
      (told : reply = .room room) (owned : room.visibility = .isPrivate → creator.isSome = true) :
      TablesStep store op reply store'
  | included {op : StoreOp} {reply : StoreReply} {store' : GatewayStore} {row : RoomMemberRow}
      (fresh : ∀ old ∈ store.roomMembers, old.key ≠ row.key)
      (groups : store'.groupTable = store.groupTable) (rooms : store'.roomTable = store.roomTable)
      (members : store'.roomMembers = store.roomMembers ++ [row]) (role : row.role = .member)
      (isPrivate : store.isPrivateRoom row.groupId row.roomId = true)
      (target : ∃ m ∈ store.groupMembers, m.groupId = row.groupId ∧ m.memberId = row.memberId) :
      TablesStep store op reply store'
  | excluded {g actor target : Uuid} {r : String} {role : GroupRole} {store' : GatewayStore}
      (groups : store'.groupTable = store.groupTable) (rooms : store'.roomTable = store.roomTable)
      (members : store'.roomMembers = Table.deleteWhere (removable g r target) store.roomMembers) :
      TablesStep store (.setRoomMember g r actor role target false)
        (.flag (store.roomMembers.countP (removable g r target) = 1)) store'

theorem roomTable_countUp {g : Uuid} {r : String} :
    (countUp store.rooms g r).map (fun row => (row.groupId, row.summary)) = store.roomTable :=
  Table.map_updateWhere fun _ _ _ => rfl

theorem tablesStep_createGroup {name : String} {mode : GroupAccessMode} {draw : Draw}
    {created : CreatedGroup} {op : StoreOp} {reply : StoreReply}
    (opens : op.newGroup = some { groupId := draw.id, groupName := name, accessMode := mode })
    (h : store.createGroupWithAccess prims name mode draw = .ok (created, store')) :
    TablesStep store op reply store' := by
  obtain ⟨_, _, -, -, -, -, free, freeRoom, -, rfl⟩ := createGroupWithAccess_ok h
  refine .group opens (fun old mem => ?_) freeRoom ?_ ?_ rfl
  · obtain ⟨row, inGroups, rfl⟩ := List.mem_map.1 mem
    exact (free row inGroups).1
  · rw [groupTable, List.map_append]
    rfl
  · rw [roomTable, List.map_append]
    rfl

theorem tablesStep_createRoom {g : Uuid} {name : String} {visibility : RoomVisibility}
    {creator : Option Uuid} {draw : Draw} {room : RoomSummary} {op : StoreOp} {reply : StoreReply}
    (opens : op.newRoom = some (g, { roomId := draw.id.simple, roomName := name, visibility }, creator))
    (told : reply = .room room)
    (h : store.createRoomWithVisibility g name visibility creator draw = .ok (room, store')) :
    TablesStep store op reply store' := by
  have owned := createRoomWithVisibility_owner h
  obtain ⟨rfl, -, -, free, fresh, rfl⟩ := createRoomWithVisibility_ok h
  refine .room opens free fresh rfl ?_ rfl told owned
  rw [roomTable, List.map_append]
  rfl

/-- **What an operation can do to groups, rooms and room members.** -/
theorem tablesStep (prims : Primitives) (store : GatewayStore) (op : StoreOp) :
    TablesStep store op (store.perform prims op).1 (store.perform prims op).2 := by
  cases op with
  | listGroups | group | pendingJoinRequests | rooms | roomsForMember | memberCanAccessRoom
  | groupMembers | memberCanManageRoom | roomMembers | history | historyBefore
  | decideJoinRequest | setMemberBanned => exact .same rfl rfl rfl
  | gatewayId draw =>
    simp only [perform, gatewayId]
    split <;> exact .same rfl rfl rfl
  | createGroup name draw =>
    simp only [perform, GatewayStore.createGroup]
    cases creation : store.createGroupWithAccess prims name .isPublic draw with
    | error e => exact .same rfl rfl rfl
    | ok success => exact tablesStep_createGroup rfl creation
  | createGroupWithAccess name mode draw =>
    rcases settle_cases store .created
      (store.createGroupWithAccess prims name mode draw) with ⟨e, h⟩ | ⟨created, s, ok, h⟩
    · rw [perform, h]
      exact .same rfl rfl rfl
    · rw [perform, h]
      exact tablesStep_createGroup rfl ok
  | authorizeJoin groupId credential nickname draw =>
    rcases settle_cases store .authorization
      (store.authorizeJoin prims groupId credential nickname draw) with ⟨e, h⟩ | ⟨a, s, ok, h⟩
    · rw [perform, h]
      exact .same rfl rfl rfl
    · rw [perform, h]
      cases authorizeJoin_ok ok <;> exact .same rfl rfl rfl
  | createJoinRequest groupId nickname draw =>
    simp only [perform]
    cases created : store.createJoinRequest prims groupId nickname draw with
    | error e => exact .same rfl rfl rfl
    | ok success =>
      obtain ⟨requests, wrote⟩ := createJoinRequest_ok created
      simp only [settle, wrote]
      exact .same rfl rfl rfl
  | updateMemberNickname groupId memberId nickname =>
    simp only [perform]
    cases updated : store.updateMemberNickname groupId memberId nickname with
    | error e => exact .same rfl rfl rfl
    | ok s =>
      rw [updateMemberNickname_ok updated]
      exact .same rfl rfl rfl
  | createRoom groupId name draw =>
    rcases settle_cases store .room (store.createRoom groupId name draw) with
      ⟨e, h⟩ | ⟨a, s, ok, h⟩
    · rw [perform, h]
      exact .same rfl rfl rfl
    · rw [perform, h]
      exact tablesStep_createRoom rfl rfl ok
  | createRoomWithVisibility groupId name visibility creator draw =>
    rcases settle_cases store .room
      (store.createRoomWithVisibility groupId name visibility creator draw) with
      ⟨e, h⟩ | ⟨a, s, ok, h⟩
    · rw [perform, h]
      exact .same rfl rfl rfl
    · rw [perform, h]
      exact tablesStep_createRoom rfl rfl ok
  | rotateGroupToken groupId actor kind draw =>
    rcases settle_cases store .token
      (store.rotateGroupToken prims groupId actor kind draw) with ⟨e, h⟩ | ⟨token, s, ok, h⟩
    · rw [perform, h]
      exact .same rfl rfl rfl
    · rw [perform, h]
      obtain ⟨hash, -, -, -, wrote⟩ := rotateGroupToken_ok ok
      cases kind with
      | member =>
        simp only at wrote
        subst wrote
        exact .same rfl rfl rfl
      | admin | invite =>
        simp only at wrote
        subst wrote
        exact .same (Table.map_updateWhere fun _ _ _ => rfl) rfl rfl
  | setRoomMember groupId roomId actor role target included =>
    rcases settle_cases store .flag
      (store.setRoomMember groupId roomId actor role target included) with ⟨e, h⟩ | ⟨a, s, ok, h⟩
    · rw [perform, h]
      exact .same rfl rfl rfl
    · rw [perform, h]
      obtain ⟨isPrivate, -, ⟨m, mem, group, member, -⟩, wrote⟩ := setRoomMember_ok ok
      cases included with
      | true =>
        rcases wrote with ⟨-, rfl⟩ | ⟨-, fresh, rfl⟩
        · exact .same rfl rfl rfl
        · refine .included ?_ rfl rfl rfl rfl isPrivate ⟨m, mem, group, member⟩
          exact fresh
      | false =>
        obtain ⟨rfl, rfl⟩ := wrote
        exact .excluded rfl rfl rfl
  | appendMessage groupId roomId messageId sender sentAtMs text draw =>
    rcases settle_cases store .record
      (store.appendMessage prims groupId roomId messageId sender sentAtMs text draw) with
      ⟨e, h⟩ | ⟨a, s, ok, h⟩
    · rw [perform, h]
      exact .same rfl rfl rfl
    · rw [perform, h]
      obtain ⟨encrypted, sequence, -, rfl⟩ := appendMessage_ok ok
      exact .same rfl roomTable_countUp rfl

/-! ## What the queries read -/

theorem hasRoom_table {g : Uuid} {r : String} :
    store.hasRoom g r = true ↔ ∃ entry ∈ store.roomTable, entry.1 = g ∧ entry.2.roomId = r := by
  simp [hasRoom_iff, roomTable, RoomRow.summary]

theorem isPrivateRoom_table {g : Uuid} {r : String} :
    store.isPrivateRoom g r = (store.roomTable.find? fun entry =>
      entry.1 == g && entry.2.roomId == r).any (·.2.visibility = .isPrivate) := by
  simp only [isPrivateRoom, findRoom, roomTable, List.find?_map, Option.any_map]
  rfl

/-- An administrator's membership that is not banned. -/
def isActiveAdmin (store : GatewayStore) (g m : Uuid) : Bool :=
  store.groupMembers.any fun gm =>
    gm.groupId == g && gm.memberId == m && gm.role == .admin && gm.status == .active

def isRoomMember (store : GatewayStore) (g : Uuid) (r : String) (m : Uuid) : Bool :=
  store.roomMembers.any fun rm => rm.groupId == g && rm.roomId == r && rm.memberId == m

theorem memberCanAccessRoom_table {g : Uuid} {r : String} {m : Uuid} :
    store.memberCanAccessRoom g r m = true ↔ ∃ entry ∈ store.roomTable, entry.1 = g ∧
      entry.2.roomId = r ∧ (entry.2.visibility = .isPublic ∨ store.isRoomMember g r m = true ∨
        store.isActiveAdmin g m = true) := by
  simp only [memberCanAccessRoom, grantsAccess, roomTable, List.any_eq_true, List.mem_map,
    Bool.and_eq_true, Bool.or_eq_true, beq_iff_eq, isRoomMember, isActiveAdmin]
  constructor
  · rintro ⟨row, mem, ⟨rfl, rfl⟩, grants⟩
    exact ⟨_, ⟨row, mem, rfl⟩, rfl, rfl, by simpa [or_assoc, RoomRow.summary] using grants⟩
  · rintro ⟨_, ⟨row, mem, rfl⟩, rfl, rfl, grants⟩
    exact ⟨row, mem, ⟨rfl, rfl⟩, by simpa [or_assoc, RoomRow.summary] using grants⟩

theorem listGroups_perm (store : GatewayStore) : store.listGroups.Perm store.groupTable :=
  (List.perm_insertionSort _ _).map _

theorem mem_roomsOf {g : Uuid} {room : RoomSummary} :
    room ∈ store.roomsOf g ↔ (g, room) ∈ store.roomTable := by
  simp only [roomsOf, roomTable, List.mem_map, Table.mem_orderBy, List.mem_filter, beq_iff_eq,
    Prod.mk.injEq]
  exact exists_congr fun row => and_assoc

/-! ## What an operation keeps -/

theorem tablesStep_store (prims : Primitives) (store : GatewayStore) (op : StoreOp) :
    ∃ reply, TablesStep store op reply (store.perform prims op).2 :=
  ⟨_, tablesStep prims store op⟩

theorem groupTable_grows (op : StoreOp) {summary : GroupSummary} (mem : summary ∈ store.groupTable) :
    summary ∈ (store.perform prims op).2.groupTable := by
  obtain ⟨reply, step⟩ := tablesStep_store prims store op
  cases step with
  | same groups | included _ groups | excluded groups | room _ _ _ groups =>
    rw [groups]
    exact mem
  | group _ _ _ groups =>
    rw [groups]
    exact List.mem_append_left _ mem

theorem hasGroup_perform (op : StoreOp) {g : Uuid} (known : store.hasGroup g = true) :
    (store.perform prims op).2.hasGroup g = true := by
  obtain ⟨row, mem, rfl⟩ := hasGroup_iff.1 known
  have grown : row.summary ∈ (store.perform prims op).2.groupTable :=
    groupTable_grows op (List.mem_map_of_mem mem)
  obtain ⟨row', mem', same⟩ := List.mem_map.1 grown
  exact hasGroup_iff.2 ⟨row', mem', congrArg GroupSummary.groupId same⟩

/-- The groups there were are all there is under their ids. -/
theorem groupTable_known (op : StoreOp) {summary : GroupSummary}
    (mem : summary ∈ (store.perform prims op).2.groupTable)
    (known : store.hasGroup summary.groupId = true) : summary ∈ store.groupTable := by
  obtain ⟨reply, step⟩ := tablesStep_store prims store op
  cases step with
  | same groups | included _ groups | excluded groups | room _ _ _ groups => rwa [groups] at mem
  | group _ free _ groups =>
    rw [groups] at mem
    rcases List.mem_append.1 mem with before | new
    · exact before
    · obtain rfl := List.mem_singleton.1 new
      obtain ⟨row, inGroups, same⟩ := hasGroup_iff.1 known
      exact absurd same (free row.summary (List.mem_map_of_mem inGroups))

/-- `PRIMARY KEY(group_id)`. -/
def GroupIdsUnique (store : GatewayStore) : Prop := (store.groupTable.map (·.groupId)).Nodup

theorem groupIdsUnique_perform (prims : Primitives) (unique : store.GroupIdsUnique) (op : StoreOp) :
    (store.perform prims op).2.GroupIdsUnique := by
  obtain ⟨reply, step⟩ := tablesStep_store prims store op
  unfold GroupIdsUnique
  cases step with
  | same groups | included _ groups | excluded groups | room _ _ _ groups =>
    rw [groups]
    exact unique
  | @group _ _ _ summary _ free _ groups =>
    rw [groups, List.map_append]
    refine List.Nodup.append unique (List.nodup_singleton _) ?_
    simpa [eq_comm] using free

/-- A created group is a new one, with its general room. -/
theorem createGroup_known {name : String} {mode : GroupAccessMode} {draw : Draw}
    {created : CreatedGroup}
    (reply : (store.perform prims (.createGroupWithAccess name mode draw)).1 = .created created) :
    let store' := (store.perform prims (.createGroupWithAccess name mode draw)).2
    created.summary = { groupId := draw.id, groupName := name, accessMode := mode } ∧
      (∀ old ∈ store.groupTable, old.groupId ≠ created.summary.groupId) ∧
      created.summary ∈ store'.groupTable ∧
      (created.summary.groupId, generalRoom) ∈ store'.roomTable := by
  rcases settle_cases store .created (store.createGroupWithAccess prims name mode draw) with
    ⟨e, h⟩ | ⟨a, s, ok, h⟩
  · rw [perform, h] at reply
    cases reply
  · rw [perform, h] at reply ⊢
    cases reply
    obtain ⟨_, _, -, summary, -, -, free, -, -, rfl⟩ := createGroupWithAccess_ok ok
    rw [summary]
    refine ⟨rfl, fun old mem => ?_, ?_, ?_⟩
    · obtain ⟨row, inTable, rfl⟩ := List.mem_map.1 mem
      exact (free row inTable).1
    · exact List.mem_map.2 ⟨_, List.mem_append_right _ (List.mem_singleton_self _), rfl⟩
    · exact List.mem_map.2 ⟨_, List.mem_append_right _ (List.mem_singleton_self _), rfl⟩

theorem roomTable_grows (op : StoreOp) {entry : Uuid × RoomSummary} (mem : entry ∈ store.roomTable) :
    entry ∈ (store.perform prims op).2.roomTable := by
  obtain ⟨reply, step⟩ := tablesStep_store prims store op
  cases step with
  | same _ rooms | included _ _ rooms | excluded _ rooms =>
    rw [rooms]
    exact mem
  | group _ _ _ _ rooms | room _ _ _ _ rooms =>
    rw [rooms]
    exact List.mem_append_left _ mem

/-- A room keeps its visibility. -/
theorem isPrivateRoom_perform (op : StoreOp) {g : Uuid} {r : String} (h : store.hasRoom g r = true) :
    (store.perform prims op).2.isPrivateRoom g r = store.isPrivateRoom g r := by
  have grown : ∀ new : List (Uuid × RoomSummary), ((store.roomTable ++ new).find? fun entry =>
      entry.1 == g && entry.2.roomId == r) = store.roomTable.find? fun entry =>
        entry.1 == g && entry.2.roomId == r := by
    intro new
    obtain ⟨entry, mem, ids⟩ := hasRoom_table.1 h
    rw [List.find?_append]
    cases found : store.roomTable.find? fun entry => entry.1 == g && entry.2.roomId == r with
    | some entry => rfl
    | none => exact absurd (List.find?_eq_none.1 found entry mem) (by simp [ids])
  rw [isPrivateRoom_table, isPrivateRoom_table]
  obtain ⟨reply, step⟩ := tablesStep_store prims store op
  cases step with
  | same _ rooms | included _ _ rooms | excluded _ rooms => rw [rooms]
  | group _ _ _ _ rooms | room _ _ _ _ rooms => rw [rooms, grown]

theorem isActiveAdmin_perform (op : StoreOp) {g m : Uuid} (h : store.isActiveAdmin g m = true) :
    (store.perform prims op).2.isActiveAdmin g m = true := by
  have step := membersStep prims store op
  unfold isActiveAdmin at h ⊢
  generalize (store.perform prims op).2.groupMembers = rows at step ⊢
  generalize (store.perform prims op).1 = reply at step
  simp only [List.any_eq_true, Bool.and_eq_true, beq_iff_eq] at h ⊢
  obtain ⟨row, mem, ⟨⟨rfl, rfl⟩, admin⟩, active⟩ := h
  have updated : ∀ (selects : MemberRow → Bool) (change : MemberRow → MemberRow),
      ((change row).groupId = row.groupId ∧ (change row).memberId = row.memberId ∧
        (change row).role = row.role ∧ (change row).status = row.status) ∨ selects row = false →
      ∃ row' ∈ Table.updateWhere selects change store.groupMembers, ((row'.groupId = row.groupId ∧
        row'.memberId = row.memberId) ∧ row'.role = .admin) ∧ row'.status = .active := by
    intro selects change keeps
    cases picked : selects row with
    | false => exact ⟨row, Table.mem_updateWhere.2 (.inl ⟨mem, picked⟩), ⟨⟨rfl, rfl⟩, admin⟩, active⟩
    | true =>
      rcases keeps with ⟨group, member, role, status⟩ | skipped
      · exact ⟨change row, Table.mem_updateWhere.2 (.inr ⟨row, mem, picked, rfl⟩),
          ⟨⟨group, member⟩, role.trans admin⟩, status.trans active⟩
      · rw [picked] at skipped
        cases skipped
  cases step with
  | same => exact ⟨row, mem, ⟨⟨rfl, rfl⟩, admin⟩, active⟩
  | renamed | rotated => exact updated _ _ (.inl ⟨rfl, rfl, rfl, rfl⟩)
  | added => exact ⟨row, List.mem_append_left _ mem, ⟨⟨rfl, rfl⟩, admin⟩, active⟩
  | banned => exact updated _ _ (.inr (by simp [bannable, admin]))

def RoomMembersUnique (store : GatewayStore) : Prop :=
  (store.roomMembers.map RoomMemberRow.key).Nodup

theorem roomMembersUnique_perform (prims : Primitives) (unique : store.RoomMembersUnique)
    (op : StoreOp) : (store.perform prims op).2.RoomMembersUnique := by
  have appended : ∀ {rows : List RoomMemberRow}, (rows.map RoomMemberRow.key).Nodup →
      (∀ new ∈ rows, ∀ old ∈ store.roomMembers, old.key ≠ new.key) →
      ((store.roomMembers ++ rows).map RoomMemberRow.key).Nodup := by
    intro rows nodup fresh
    rw [List.map_append]
    refine List.Nodup.append unique nodup ?_
    simp only [List.disjoint_left, List.mem_map, not_exists, not_and]
    rintro _ ⟨old, inTable, rfl⟩ new inRows same
    exact fresh new inRows old inTable same.symm
  obtain ⟨reply, step⟩ := tablesStep_store prims store op
  unfold RoomMembersUnique
  cases step with
  | same _ _ members | group _ _ _ _ _ members =>
    rw [members]
    exact unique
  | @room _ _ _ g room creator _ _ fresh _ _ members =>
    rw [members]
    refine appended ?_ fresh
    unfold ownerRows
    split <;> simp
  | included fresh _ _ members =>
    rw [members]
    exact appended (by simp) (by simpa using fresh)
  | excluded _ _ members =>
    rw [members]
    exact unique.sublist (List.Sublist.map _ List.filter_sublist)

/-- A removal of a member removes one row. -/
theorem RoomMembersUnique.countP_removable (unique : store.RoomMembersUnique) {g : Uuid}
    {r : String} {m : Uuid} {row : RoomMemberRow} (mem : row ∈ store.roomMembers)
    (removed : removable g r m row = true) : store.roomMembers.countP (removable g r m) = 1 := by
  have keyOf : ∀ {row : RoomMemberRow}, removable g r m row = true → row.key = (g, r, m) := by
    intro row selected
    simp only [removable, Bool.and_eq_true, beq_iff_eq] at selected
    obtain ⟨⟨⟨rfl, rfl⟩, rfl⟩, -⟩ := selected
    rfl
  exact Table.countP_eq_one unique mem removed fun other selected =>
    (keyOf selected).trans (keyOf removed).symm

/-- **Access is lost by a removal from the room only**, whose reply says so. -/
theorem memberCanAccessRoom_perform (unique : store.RoomMembersUnique) (op : StoreOp) {g : Uuid}
    {r : String} {m : Uuid} (h : store.memberCanAccessRoom g r m = true) :
    (store.perform prims op).2.memberCanAccessRoom g r m = true ∨
      ∃ actor role, op = .setRoomMember g r actor role m false ∧
        (store.perform prims op).1 = .flag true := by
  obtain ⟨entry, mem, group, room, grants⟩ := memberCanAccessRoom_table.1 h
  have stays : (store.isRoomMember g r m = true →
      (store.perform prims op).2.isRoomMember g r m = true) →
      (store.perform prims op).2.memberCanAccessRoom g r m = true := fun keeps =>
    memberCanAccessRoom_table.2 ⟨entry, roomTable_grows op mem, group, room,
      grants.imp_right fun h => h.imp keeps (isActiveAdmin_perform op)⟩
  have step := tablesStep prims store op
  generalize (store.perform prims op).2 = store' at step stays ⊢
  generalize (store.perform prims op).1 = reply at step ⊢
  cases step with
  | same _ _ members | group _ _ _ _ _ members =>
    refine .inl (stays fun isMember => ?_)
    rwa [isRoomMember, members]
  | room _ _ _ _ _ members | included _ _ _ members =>
    refine .inl (stays fun isMember => ?_)
    rw [isRoomMember, members, List.any_append]
    exact Bool.or_eq_true_iff.2 (.inl isMember)
  | @excluded g' actor target r' role _ _ _ members =>
    by_cases lost : g' = g ∧ r' = r ∧ target = m ∧
        ∃ row ∈ store.roomMembers, removable g r m row = true
    · obtain ⟨rfl, rfl, rfl, row, inTable, removed⟩ := lost
      exact .inr ⟨actor, role, rfl, by rw [unique.countP_removable inTable removed]; rfl⟩
    · refine .inl (stays fun isMember => ?_)
      simp only [isRoomMember, members, List.any_eq_true, Bool.and_eq_true, beq_iff_eq] at isMember ⊢
      obtain ⟨row, inTable, ⟨rfl, rfl⟩, rfl⟩ := isMember
      refine ⟨row, Table.mem_deleteWhere.2 ⟨inTable, ?_⟩, ⟨rfl, rfl⟩, rfl⟩
      by_contra deleted
      simp only [Bool.not_eq_false] at deleted
      have ids := deleted
      simp only [removable, Bool.and_eq_true, beq_iff_eq] at ids
      obtain ⟨⟨⟨rfl, rfl⟩, rfl⟩, -⟩ := ids
      exact lost ⟨rfl, rfl, rfl, row, inTable, deleted⟩

/-- The owner of a room stays its owner. -/
theorem isRoomOwner_perform (op : StoreOp) {g : Uuid} {r : String} {m : Uuid}
    (h : store.isRoomOwner g r m = true) : (store.perform prims op).2.isRoomOwner g r m = true := by
  simp only [isRoomOwner, List.any_eq_true, Bool.and_eq_true, beq_iff_eq] at h ⊢
  obtain ⟨row, mem, ids, owner⟩ := h
  refine ⟨row, ?_, ids, owner⟩
  obtain ⟨reply, step⟩ := tablesStep_store prims store op
  cases step with
  | same _ _ members | group _ _ _ _ _ members =>
    rw [members]
    exact mem
  | room _ _ _ _ _ members | included _ _ _ members =>
    rw [members]
    exact List.mem_append_left _ mem
  | excluded _ _ members =>
    rw [members]
    refine Table.mem_deleteWhere.2 ⟨mem, ?_⟩
    simp [removable, owner]

/-- An owner has access. -/
theorem memberCanAccessRoom_of_owner {g : Uuid} {r : String} {m : Uuid}
    (known : store.hasRoom g r = true) (owner : store.isRoomOwner g r m = true) :
    store.memberCanAccessRoom g r m = true := by
  obtain ⟨entry, mem, group, room⟩ := hasRoom_table.1 known
  refine memberCanAccessRoom_table.2 ⟨entry, mem, group, room, .inr (.inl ?_)⟩
  simp only [isRoomOwner, isRoomMember, List.any_eq_true, Bool.and_eq_true, beq_iff_eq] at owner ⊢
  obtain ⟨row, inTable, ids, -⟩ := owner
  exact ⟨row, inTable, ids⟩

/-- A created private room has its creator for an owner. -/
theorem createRoom_owned {g : Uuid} {name : String} {visibility : RoomVisibility} {creator : Uuid}
    {draw : Draw} {room : RoomSummary}
    (reply : (store.perform prims
      (.createRoomWithVisibility g name visibility (some creator) draw)).1 = .room room) :
    let store' := (store.perform prims
      (.createRoomWithVisibility g name visibility (some creator) draw)).2
    (g, room) ∈ store'.roomTable ∧ room.roomId = draw.id.simple ∧
      (store'.isPrivateRoom g room.roomId = true → store'.isRoomOwner g room.roomId creator = true) := by
  rcases settle_cases store .room
    (store.createRoomWithVisibility g name visibility (some creator) draw) with
    ⟨e, h⟩ | ⟨a, s, ok, h⟩
  · rw [perform, h] at reply
    cases reply
  · rw [perform, h] at reply ⊢
    cases reply
    obtain ⟨rfl, -, -, free, -, rfl⟩ := createRoomWithVisibility_ok ok
    refine ⟨List.mem_map.2 ⟨_, List.mem_append_right _ (List.mem_singleton_self _), rfl⟩, rfl,
      fun isPrivate => ?_⟩
    cases visibility with
    | isPrivate => simp [isRoomOwner, ownerRows]
    | isPublic =>
      have missing : store.rooms.find? (fun room =>
          room.groupId == g && room.roomId == draw.id.simple) = none := by
        rw [List.find?_eq_none]
        simpa [hasRoom] using free
      simp [isPrivateRoom, findRoom, List.find?_append, missing] at isPrivate

/-- The general room of every group is public. -/
def GeneralIsPublic (store : GatewayStore) : Prop :=
  ∀ entry ∈ store.roomTable, entry.2.roomId = defaultRoomId → entry.2.visibility = .isPublic

theorem simple_ne_general (id : Uuid) : id.simple ≠ defaultRoomId := by
  intro same
  have length : id.simple.length = 7 := congrArg String.length same
  simp [Uuid.simple] at length

theorem generalIsPublic_perform (prims : Primitives) (general : store.GeneralIsPublic) (op : StoreOp) :
    (store.perform prims op).2.GeneralIsPublic := by
  have fresh : ∀ {g : Uuid} {room : RoomSummary} {creator : Option Uuid},
      op.newRoom = some (g, room, creator) → room.roomId ≠ defaultRoomId := by
    intro g room creator opens
    cases op <;> simp only [StoreOp.newRoom, Option.some.injEq, reduceCtorEq] at opens
    all_goals
      cases opens
      exact simple_ne_general _
  obtain ⟨reply, step⟩ := tablesStep_store prims store op
  unfold GeneralIsPublic
  cases step with
  | same _ rooms | included _ _ rooms | excluded _ rooms =>
    rw [rooms]
    exact general
  | group _ _ _ _ rooms =>
    rw [rooms]
    intro entry mem same
    rcases List.mem_append.1 mem with mem | mem
    · exact general entry mem same
    · rw [List.mem_singleton.1 mem]
      rfl
  | room opens _ _ _ rooms =>
    rw [rooms]
    intro entry mem same
    rcases List.mem_append.1 mem with mem | mem
    · exact general entry mem same
    · rw [List.mem_singleton.1 mem] at same
      exact absurd same (fresh opens)

theorem GeneralIsPublic.not_private (general : store.GeneralIsPublic) (g : Uuid) :
    store.isPrivateRoom g defaultRoomId = false := by
  rw [isPrivateRoom_table]
  cases found : store.roomTable.find? fun entry =>
      entry.1 == g && entry.2.roomId == defaultRoomId with
  | none => rfl
  | some entry =>
    have selected := List.find?_some found
    simp only [Bool.and_eq_true, beq_iff_eq] at selected
    simp [general entry (List.mem_of_find?_eq_some found) selected.2]

end GatewayStore

end LanChat
