import LanChat.Storage.RoomLists

/-!
# The three views of room access

`rooms_for_member` filters the rooms, `member_can_access_room` looks one up, and
`room_members` joins the members of a group with the list of a private room and
pages the result. In every reachable store they agree.
-/

namespace LanChat

namespace GatewayStore

variable {prims : Primitives} {store : GatewayStore} {g : Uuid} {r : String}

/-- All the rows that `room_members` pages. -/
def roomMemberRows (store : GatewayStore) (g : Uuid) (r : String) :
    List (MemberRow × Option RoomMemberRow) :=
  Table.orderBy roomMemberKey ((store.groupMembers.filter fun gm =>
    gm.groupId == g && gm.status == .active).map fun gm =>
      (gm, store.roomMembers.find? fun rm => rm.groupId == gm.groupId &&
        rm.memberId == gm.memberId && rm.roomId == r))

/-- One row as the server sends it. -/
def roomMemberEntry (entry : MemberRow × Option RoomMemberRow) : RoomMemberSummary :=
  { memberId := entry.1.memberId, nickname := entry.1.lastNickname, groupRole := entry.1.role,
    included := entry.2.isSome || entry.1.role == .admin,
    isOwner := (entry.2.map (·.role)) == some .owner }

/-- A page is a slice of the rows. -/
theorem roomMembersPage_eq (isPrivate : store.isPrivateRoom g r = true) (offset : ℕ) :
    store.roomMembersPage g r offset =
      .ok ((((store.roomMemberRows g r).map roomMemberEntry).drop offset).take memberPageSize,
        decide (memberPageSize < (((store.roomMemberRows g r).map roomMemberEntry).drop offset).length)) := by
  have passes : ensure (store.isPrivateRoom g r) "room is not private" = .ok () :=
    ensure_eq_ok.2 isPrivate
  simp only [roomMembersPage, passes, ok_bind, Except.ok.injEq, Prod.mk.injEq]
  constructor
  · rw [List.take_take, ← List.map_drop, ← List.map_take, Nat.min_eq_left (Nat.le_succ _)]
    rfl
  · simp only [roomMemberRows, List.length_take, ← List.map_drop, List.length_map, decide_eq_decide]
    omega

/-- The reachable facts the views need. -/
structure Keyed (store : GatewayStore) : Prop where
  memberIds : store.MemberIdsUnique
  roomMembers : store.RoomMembersUnique
  rooms : (store.roomTable.map fun entry => (entry.1, entry.2.roomId)).Nodup

theorem keyed_performAll (prims : Primitives) (key : BitVec 256) (ops : List StoreOp) :
    Keyed ((GatewayStore.empty key).performAll prims ops).2 := by
  refine performAll_induction (motive := fun _ _ store => Keyed store) ?_ ?_ ops
  · constructor <;> simp [GatewayStore.empty, MemberIdsUnique, RoomMembersUnique, roomTable]
  · exact fun ops op keyed => ⟨memberIdsUnique_perform prims keyed.memberIds op,
      roomMembersUnique_perform prims keyed.roomMembers op,
      roomKeys_step (tablesStep prims _ op) keyed.rooms⟩

theorem mem_roomsForMember {memberId : Uuid} :
    (∃ room ∈ store.roomsForMember g memberId, room.roomId = r) ↔
      store.memberCanAccessRoom g r memberId = true := by
  simp only [roomsForMember, memberCanAccessRoom, List.mem_map, Table.mem_orderBy, List.mem_filter,
    List.any_eq_true, Bool.and_eq_true, beq_iff_eq]
  constructor
  · rintro ⟨_, ⟨room, ⟨mem, group, grants⟩, rfl⟩, id⟩
    exact ⟨room, mem, ⟨group, id⟩, grants⟩
  · rintro ⟨room, mem, ⟨group, id⟩, grants⟩
    exact ⟨room.summary, ⟨room, ⟨mem, group, grants⟩, rfl⟩, id⟩

/-- The members of a page, in some order. -/
theorem roomMemberRows_perm : (store.roomMemberRows g r).Perm
    ((store.groupMembers.filter fun gm => gm.groupId == g && gm.status == .active).map fun gm =>
      (gm, store.roomMembers.find? fun rm => rm.groupId == gm.groupId &&
        rm.memberId == gm.memberId && rm.roomId == r)) :=
  List.perm_insertionSort _ _

theorem mem_roomMemberRows {entry : MemberRow × Option RoomMemberRow} :
    entry ∈ store.roomMemberRows g r ↔ entry.1 ∈ store.groupMembers ∧ entry.1.groupId = g ∧
      entry.1.status = .active ∧ entry.2 = store.roomMembers.find? fun rm =>
        rm.groupId == entry.1.groupId && rm.memberId == entry.1.memberId && rm.roomId == r := by
  rw [roomMemberRows_perm.mem_iff]
  simp only [List.mem_map, List.mem_filter, Bool.and_eq_true, beq_iff_eq]
  constructor
  · rintro ⟨gm, ⟨mem, group, active⟩, rfl⟩
    exact ⟨mem, group, active, rfl⟩
  · rintro ⟨mem, group, active, found⟩
    exact ⟨entry.1, ⟨mem, group, active⟩, Prod.ext rfl found.symm⟩

/-- In a private room, access is a row of the list, or being an administrator. -/
theorem memberCanAccessRoom_private (keyed : Keyed store) (isPrivate : store.isPrivateRoom g r = true)
    (memberId : Uuid) : store.memberCanAccessRoom g r memberId =
      (store.isRoomMember g r memberId || store.isActiveAdmin g memberId) := by
  rw [isPrivateRoom_table] at isPrivate
  obtain ⟨entry, found, visibility⟩ := (Option.any_eq_true _ _).1 isPrivate
  have selected := List.find?_some found
  simp only [Bool.and_eq_true, beq_iff_eq] at selected
  have inTable := List.mem_of_find?_eq_some found
  rw [Bool.eq_iff_iff, memberCanAccessRoom_table, Bool.or_eq_true]
  constructor
  · rintro ⟨other, inTable', group, id, grants⟩
    have same : (other.1, other.2.roomId) = (entry.1, entry.2.roomId) :=
      Prod.ext (group.trans selected.1.symm) (id.trans selected.2.symm)
    obtain rfl := List.inj_on_of_nodup_map keyed.rooms inTable' inTable same
    refine grants.resolve_left fun isPublic => ?_
    rw [isPublic] at visibility
    cases of_decide_eq_true visibility
  · exact fun grants => ⟨entry, inTable, selected.1, selected.2, .inr grants⟩

theorem isActiveAdmin_eq (keyed : Keyed store) {m : MemberRow} (mem : m ∈ store.groupMembers)
    (active : m.status = .active) :
    store.isActiveAdmin m.groupId m.memberId = (m.role == .admin) := by
  rw [Bool.eq_iff_iff, isActiveAdmin, List.any_eq_true, beq_iff_eq]
  constructor
  · rintro ⟨other, inRows, selected⟩
    simp only [Bool.and_eq_true, beq_iff_eq] at selected
    rw [← keyed.memberIds.eq inRows mem selected.1.1.2]
    exact selected.1.2
  · exact fun role => ⟨m, mem, by simp [role, active]⟩

theorem find_roomMember (memberId : Uuid) :
    (store.roomMembers.find? fun rm => rm.groupId == g && rm.memberId == memberId &&
      rm.roomId == r).isSome = store.isRoomMember g r memberId := by
  rw [Bool.eq_iff_iff, List.find?_isSome, isRoomMember, List.any_eq_true]
  refine exists_congr fun rm => and_congr_right fun _ => ?_
  simp only [Bool.and_eq_true]
  tauto

theorem find_roomOwner (keyed : Keyed store) (memberId : Uuid) :
    (((store.roomMembers.find? fun rm => rm.groupId == g && rm.memberId == memberId &&
      rm.roomId == r).map (·.role)) == some .owner) = store.isRoomOwner g r memberId := by
  rw [Bool.eq_iff_iff, beq_iff_eq, Option.map_eq_some_iff, isRoomOwner, List.any_eq_true]
  constructor
  · rintro ⟨rm, found, owner⟩
    have selected := List.find?_some found
    simp only [Bool.and_eq_true, beq_iff_eq] at selected
    exact ⟨rm, List.mem_of_find?_eq_some found, by simp [selected, owner]⟩
  · rintro ⟨rm, mem, selected⟩
    simp only [Bool.and_eq_true, beq_iff_eq] at selected
    have some : (store.roomMembers.find? fun rm => rm.groupId == g && rm.memberId == memberId &&
        rm.roomId == r).isSome = true := by
      rw [List.find?_isSome]
      exact ⟨rm, mem, by simp [selected]⟩
    obtain ⟨other, found⟩ := Option.isSome_iff_exists.1 some
    have ids := List.find?_some found
    simp only [Bool.and_eq_true, beq_iff_eq] at ids
    have same : other.key = rm.key := by simp [RoomMemberRow.key, ids, selected]
    obtain rfl := List.inj_on_of_nodup_map keyed.roomMembers (List.mem_of_find?_eq_some found) mem same
    exact ⟨other, found, selected.2⟩

end GatewayStore

open GatewayStore in
/-- **The three views of room access agree**, in every store that operations on
an empty one reach. The list of rooms and the lookup are the same for every
member; the pages of a private room list the active members of its group, each
once, with its access and whether it is the owner. -/
theorem room_views_agree (prims : Primitives) (key : BitVec 256) (ops : List StoreOp) (g : Uuid)
    (r : String) :
    let store := ((GatewayStore.empty key).performAll prims ops).2
    (∀ memberId, (∃ room ∈ store.roomsForMember g memberId, room.roomId = r) ↔
      store.memberCanAccessRoom g r memberId = true) ∧
    (store.isPrivateRoom g r = true → ∃ rows : List RoomMemberSummary,
      (∀ fuel, rows.length < fuel →
        Table.readPages (store.roomMembersPage g r) memberPageSize fuel 0 = some rows) ∧
      (rows.map (·.memberId)).Nodup ∧
      (∀ id, id ∈ rows.map (·.memberId) ↔ ∃ m ∈ store.groupMembers, m.groupId = g ∧
        m.memberId = id ∧ m.status = .active) ∧
      ∀ entry ∈ rows, entry.included = store.memberCanAccessRoom g r entry.memberId ∧
        entry.isOwner = store.isRoomOwner g r entry.memberId) := by
  intro store
  have keyed : Keyed store := keyed_performAll prims key ops
  refine ⟨fun memberId => mem_roomsForMember, fun isPrivate => ?_⟩
  refine ⟨(store.roomMemberRows g r).map roomMemberEntry, fun fuel enough => ?_, ?_, fun id => ?_, ?_⟩
  · have read : Table.readPages (store.roomMembersPage g r) memberPageSize fuel 0 =
        some (((store.roomMemberRows g r).map roomMemberEntry).drop 0) :=
      Table.readPages_eq (by decide) (roomMembersPage_eq isPrivate) enough
    exact read
  · rw [List.map_map, (roomMemberRows_perm.map _).nodup_iff, List.map_map]
    exact List.Nodup.sublist (List.filter_sublist.map _) keyed.memberIds
  · simp only [List.map_map, List.mem_map, mem_roomMemberRows]
    constructor
    · rintro ⟨entry, ⟨mem, group, active, -⟩, rfl⟩
      exact ⟨entry.1, mem, group, rfl, active⟩
    · rintro ⟨m, mem, group, rfl, active⟩
      refine ⟨(m, store.roomMembers.find? fun rm => rm.groupId == m.groupId &&
        rm.memberId == m.memberId && rm.roomId == r), ⟨mem, group, active, rfl⟩, rfl⟩
  · intro entry mem
    obtain ⟨⟨gm, rm⟩, inRows, rfl⟩ := List.mem_map.1 mem
    obtain ⟨inTable, group, active, found⟩ := mem_roomMemberRows.1 inRows
    simp only at inTable group active found
    subst group found
    refine ⟨?_, find_roomOwner keyed gm.memberId⟩
    rw [roomMemberEntry, memberCanAccessRoom_private keyed isPrivate]
    simp only [find_roomMember, isActiveAdmin_eq keyed inTable active]

/-- A second member of the group, who has no access to the private room. -/
def atticShut : List StoreOp := atticCreated ++ [.authorizeJoin ⟨1⟩ none "Bob" (.numbered 5)]

theorem room_views_agree_atticCreated :
    let store := ((GatewayStore.empty 0).performAll .checksummed atticShut).2
    ∃ rows : List RoomMemberSummary,
      (∃ entry ∈ rows, entry.memberId = ⟨2⟩ ∧ entry.included = true ∧ entry.isOwner = true) ∧
      (∃ entry ∈ rows, entry.memberId = ⟨5⟩ ∧ entry.included = false) ∧
      ∀ fuel, rows.length < fuel →
        Table.readPages (store.roomMembersPage ⟨1⟩ (Uuid.simple ⟨3⟩)) memberPageSize fuel 0 = some rows := by
  intro store
  have facts : store.isPrivateRoom ⟨1⟩ (Uuid.simple ⟨3⟩) = true ∧
      (∃ m ∈ store.groupMembers, m.groupId = ⟨1⟩ ∧ m.memberId = ⟨2⟩ ∧ m.status = .active) ∧
      (∃ m ∈ store.groupMembers, m.groupId = ⟨1⟩ ∧ m.memberId = ⟨5⟩ ∧ m.status = .active) ∧
      store.memberCanAccessRoom ⟨1⟩ (Uuid.simple ⟨3⟩) ⟨2⟩ = true ∧
      store.isRoomOwner ⟨1⟩ (Uuid.simple ⟨3⟩) ⟨2⟩ = true ∧
      store.memberCanAccessRoom ⟨1⟩ (Uuid.simple ⟨3⟩) ⟨5⟩ = false := by
    decide +kernel
  obtain ⟨isPrivate, ana, bob, accesses, owns, shut⟩ := facts
  obtain ⟨rows, read, -, listed, agree⟩ := (room_views_agree .checksummed 0 atticShut ⟨1⟩ (Uuid.simple ⟨3⟩)).2 isPrivate
  refine ⟨rows, ?_, ?_, read⟩
  · obtain ⟨entry, mem, id⟩ := List.mem_map.1 ((listed ⟨2⟩).2 ana)
    obtain ⟨included, isOwner⟩ := agree entry mem
    rw [id] at included isOwner
    exact ⟨entry, mem, id, included.trans accesses, isOwner.trans owns⟩
  · obtain ⟨entry, mem, id⟩ := List.mem_map.1 ((listed ⟨5⟩).2 bob)
    obtain ⟨included, -⟩ := agree entry mem
    rw [id] at included
    exact ⟨entry, mem, id, included.trans shut⟩

end LanChat
