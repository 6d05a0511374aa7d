import LanChat.Storage.Ledger

/-!
# The access lists of private rooms

`RoomLists` over a run: the rows of a room's list belong to a private room and
name members of its group, and a private room has one owner's row, which names
its creator. The tables alone do not say so: a row's member is not tied to the
row's group by a key.
-/

namespace LanChat

namespace GatewayStore

variable {prims : Primitives} {store store' : GatewayStore} {op : StoreOp} {reply : StoreReply}
  {trace : List (StoreOp × StoreReply)}

def IsMember (store : GatewayStore) (g memberId : Uuid) : Prop :=
  ∃ m ∈ store.groupMembers, m.groupId = g ∧ m.memberId = memberId

instance (store : GatewayStore) (g memberId : Uuid) : Decidable (store.IsMember g memberId) :=
  inferInstanceAs (Decidable (∃ m ∈ store.groupMembers, _))

/-- Rooms are created by members of their own group. -/
def CreatorIsMember (store : GatewayStore) : StoreOp → Prop
  | .createRoomWithVisibility g _ _ (some creator) _ => store.IsMember g creator
  | _ => True

instance (store : GatewayStore) (op : StoreOp) : Decidable (store.CreatorIsMember op) := by
  unfold CreatorIsMember
  split <;> infer_instance

/-- The owner's row of a room. -/
def owns (g : Uuid) (r : String) (row : RoomMemberRow) : Bool :=
  row.groupId == g && row.roomId == r && row.role == .owner

/-- **The lists are well formed.** -/
structure RoomLists (trace : List (StoreOp × StoreReply)) (store : GatewayStore) : Prop where
  keys : store.RoomMembersUnique
  roomKeys : (store.roomTable.map fun entry => (entry.1, entry.2.roomId)).Nodup
  inPrivate : ∀ row ∈ store.roomMembers, ∃ entry ∈ store.roomTable,
    entry.1 = row.groupId ∧ entry.2.roomId = row.roomId ∧ entry.2.visibility = .isPrivate
  ofGroup : ∀ row ∈ store.roomMembers, store.IsMember row.groupId row.memberId
  owners : ∀ entry ∈ store.roomTable, entry.2.visibility = .isPrivate → ∃ creator name draw,
    (StoreOp.createRoomWithVisibility entry.1 name .isPrivate (some creator) draw,
      StoreReply.room entry.2) ∈ trace ∧
    store.roomMembers.filter (owns entry.1 entry.2.roomId) =
      [{ groupId := entry.1, roomId := entry.2.roomId, memberId := creator, role := .owner }]

theorem RoomLists.empty (key : BitVec 256) : RoomLists [] (.empty key) := by
  constructor <;> simp [GatewayStore.empty, RoomMembersUnique, roomTable]

theorem isMember_perform (prims : Primitives) (op : StoreOp) {g memberId : Uuid}
    (member : store.IsMember g memberId) : (store.perform prims op).2.IsMember g memberId := by
  obtain ⟨row, mem, group, id⟩ := member
  obtain ⟨m', inTable, group', id', -⟩ :=
    (credentialStep prims store op).persists (mem_memberTable.2 ⟨row, mem, rfl⟩)
  obtain ⟨row', mem', rfl⟩ := mem_memberTable.1 inTable
  exact ⟨row', mem', group'.trans group, id'.trans id⟩

theorem roomKeys_step (step : TablesStep store op reply store')
    (unique : (store.roomTable.map fun entry => (entry.1, entry.2.roomId)).Nodup) :
    (store'.roomTable.map fun entry => (entry.1, entry.2.roomId)).Nodup := by
  have added : ∀ (g : Uuid) (room : RoomSummary), store.hasRoom g room.roomId = false →
      ((store.roomTable ++ [(g, room)]).map fun entry => (entry.1, entry.2.roomId)).Nodup := by
    intro g room free
    rw [List.map_append]
    refine List.Nodup.append unique (List.nodup_singleton _) fun key before new => ?_
    obtain ⟨entry, mem, rfl⟩ := List.mem_map.1 before
    have same := List.mem_singleton.1 new
    simp only [Prod.mk.injEq] at same
    rw [hasRoom_table.2 ⟨entry, mem, same⟩] at free
    cases free
  cases step with
  | same _ rooms | included _ _ rooms | excluded _ rooms => rwa [rooms]
  | group _ _ freeRoom _ rooms =>
    rw [rooms]
    exact added _ _ freeRoom
  | room _ free _ _ rooms =>
    rw [rooms]
    exact added _ _ free

theorem mem_ownerRows {g : Uuid} {r : String} {creator : Option Uuid} {visibility : RoomVisibility}
    {row : RoomMemberRow} (mem : row ∈ ownerRows g r creator visibility) :
    visibility = .isPrivate ∧ ∃ memberId, creator = some memberId ∧
      row = { groupId := g, roomId := r, memberId, role := .owner } := by
  unfold ownerRows at mem
  split at mem
  · exact ⟨rfl, _, rfl, List.mem_singleton.1 mem⟩
  · cases mem

theorem RoomLists.inPrivate_step (lists : RoomLists trace store)
    (step : TablesStep store op reply store') :
    ∀ row ∈ store'.roomMembers, ∃ entry ∈ store'.roomTable,
      entry.1 = row.groupId ∧ entry.2.roomId = row.roomId ∧ entry.2.visibility = .isPrivate := by
  intro row mem
  cases step with
  | same _ rooms members =>
    rw [members] at mem
    rw [rooms]
    exact lists.inPrivate row mem
  | group _ _ _ _ rooms members =>
    rw [members] at mem
    rw [rooms]
    obtain ⟨entry, inTable, ids⟩ := lists.inPrivate row mem
    exact ⟨entry, List.mem_append_left _ inTable, ids⟩
  | room _ _ _ _ rooms members =>
    rw [members] at mem
    rw [rooms]
    rcases List.mem_append.1 mem with before | new
    · obtain ⟨entry, inTable, ids⟩ := lists.inPrivate row before
      exact ⟨entry, List.mem_append_left _ inTable, ids⟩
    · obtain ⟨isPrivate, _, -, rfl⟩ := mem_ownerRows new
      exact ⟨_, List.mem_append_right _ (List.mem_singleton_self _), rfl, rfl, isPrivate⟩
  | included _ _ rooms members _ isPrivate =>
    rw [members] at mem
    rw [rooms]
    rcases List.mem_append.1 mem with before | new
    · exact lists.inPrivate row before
    · obtain rfl := List.mem_singleton.1 new
      rw [isPrivateRoom_table] at isPrivate
      obtain ⟨entry, found, visibility⟩ := (Option.any_eq_true _ _).1 isPrivate
      have selected := List.find?_some found
      simp only [Bool.and_eq_true, beq_iff_eq] at selected
      exact ⟨entry, List.mem_of_find?_eq_some found, selected.1, selected.2,
        of_decide_eq_true visibility⟩
  | excluded _ rooms members =>
    rw [members] at mem
    rw [rooms]
    exact lists.inPrivate row (Table.mem_deleteWhere.1 mem).1

theorem RoomLists.ofGroup_step (lists : RoomLists trace store)
    (step : TablesStep store op reply store') (byMember : store.CreatorIsMember op)
    (persists : ∀ {g memberId}, store.IsMember g memberId → store'.IsMember g memberId) :
    ∀ row ∈ store'.roomMembers, store'.IsMember row.groupId row.memberId := by
  have kept : ∀ row ∈ store.roomMembers, store'.IsMember row.groupId row.memberId :=
    fun row before => persists (lists.ofGroup row before)
  intro row mem
  cases step with
  | same _ _ members | group _ _ _ _ _ members =>
    rw [members] at mem
    exact kept row mem
  | room opens _ _ _ _ members =>
    rw [members] at mem
    rcases List.mem_append.1 mem with before | new
    · exact kept row before
    · obtain ⟨-, memberId, rfl, rfl⟩ := mem_ownerRows new
      refine persists ?_
      cases op <;> simp only [StoreOp.newRoom, Option.some.injEq, reduceCtorEq, Prod.mk.injEq,
        and_false] at opens
      obtain ⟨rfl, -, rfl⟩ := opens
      exact byMember
  | included _ _ _ members _ _ target =>
    rw [members] at mem
    rcases List.mem_append.1 mem with before | new
    · exact kept row before
    · rw [List.mem_singleton.1 new]
      exact persists target
  | excluded _ _ members =>
    rw [members] at mem
    exact kept row (Table.mem_deleteWhere.1 mem).1

/-- A private room is created by its owner, and the reply names it. -/
theorem newRoom_private {g : Uuid} {room : RoomSummary} {creator : Uuid}
    (opens : op.newRoom = some (g, room, some creator)) (isPrivate : room.visibility = .isPrivate) :
    ∃ name draw, op = .createRoomWithVisibility g name .isPrivate (some creator) draw := by
  cases op with
  | createRoomWithVisibility g' name visibility creator' draw =>
    simp only [StoreOp.newRoom, Option.some.injEq, Prod.mk.injEq] at opens
    obtain ⟨rfl, rfl, rfl⟩ := opens
    replace isPrivate : visibility = .isPrivate := isPrivate
    exact ⟨name, draw, by rw [isPrivate]⟩
  | createRoom =>
    simp only [StoreOp.newRoom, Option.some.injEq, Prod.mk.injEq, reduceCtorEq, and_false] at opens
  | _ => cases opens

theorem RoomLists.owners_step (lists : RoomLists trace store)
    (step : TablesStep store op reply store') :
    ∀ entry ∈ store'.roomTable, entry.2.visibility = .isPrivate → ∃ creator name draw,
      (StoreOp.createRoomWithVisibility entry.1 name .isPrivate (some creator) draw,
        StoreReply.room entry.2) ∈ trace ++ [(op, reply)] ∧
      store'.roomMembers.filter (owns entry.1 entry.2.roomId) =
        [{ groupId := entry.1, roomId := entry.2.roomId, memberId := creator, role := .owner }] := by
  -- an old room keeps its owner's row as long as the filter sees the same rows
  have kept : ∀ entry ∈ store.roomTable, entry.2.visibility = .isPrivate →
      store'.roomMembers.filter (owns entry.1 entry.2.roomId) =
        store.roomMembers.filter (owns entry.1 entry.2.roomId) → ∃ creator name draw,
      (StoreOp.createRoomWithVisibility entry.1 name .isPrivate (some creator) draw,
        StoreReply.room entry.2) ∈ trace ++ [(op, reply)] ∧
      store'.roomMembers.filter (owns entry.1 entry.2.roomId) =
        [{ groupId := entry.1, roomId := entry.2.roomId, memberId := creator, role := .owner }] := by
    intro entry before isPrivate same
    obtain ⟨creator, name, draw, event, only⟩ := lists.owners entry before isPrivate
    exact ⟨creator, name, draw, List.mem_append_left _ event, same.trans only⟩
  intro entry mem isPrivate
  cases step with
  | same _ rooms members =>
    rw [rooms] at mem
    exact kept entry mem isPrivate (by rw [members])
  | group _ _ _ _ rooms members =>
    rw [rooms] at mem
    rcases List.mem_append.1 mem with before | new
    · exact kept entry before isPrivate (by rw [members])
    · rw [List.mem_singleton.1 new] at isPrivate
      cases isPrivate
  | included _ _ rooms members role =>
    rw [rooms] at mem
    refine kept entry mem isPrivate ?_
    rw [members, List.filter_append]
    simp [owns, role]
  | excluded _ rooms members =>
    rw [rooms] at mem
    refine kept entry mem isPrivate ?_
    -- what is deleted is no owner's
    rw [members, Table.deleteWhere, List.filter_filter]
    refine List.filter_congr fun row _ => ?_
    cases owned : owns entry.1 entry.2.roomId row with
    | false => rfl
    | true =>
      simp only [owns, Bool.and_eq_true, beq_iff_eq] at owned
      simp [removable, owned.2]
  | @room _ _ _ g room creator opens free _ _ rooms members told owned =>
    rw [rooms] at mem
    rcases List.mem_append.1 mem with before | new
    · refine kept entry before isPrivate ?_
      rw [members, List.filter_append]
      have none : (ownerRows g room.roomId creator room.visibility).filter
          (owns entry.1 entry.2.roomId) = [] := by
        rw [List.filter_eq_nil_iff]
        intro row inRows owned
        obtain ⟨-, _, -, rfl⟩ := mem_ownerRows inRows
        simp only [owns, Bool.and_eq_true, beq_iff_eq] at owned
        rw [hasRoom_table.2 ⟨entry, before, owned.1.1.symm, owned.1.2.symm⟩] at free
        cases free
      rw [none, List.append_nil]
    · obtain rfl := List.mem_singleton.1 new
      replace isPrivate : room.visibility = .isPrivate := isPrivate
      obtain ⟨owner, rfl⟩ := Option.isSome_iff_exists.1 (owned isPrivate)
      obtain ⟨name, draw, rfl⟩ := newRoom_private opens isPrivate
      refine ⟨owner, name, draw, List.mem_append_right _ (by rw [told]; exact List.mem_singleton_self _), ?_⟩
      have none : store.roomMembers.filter (owns g room.roomId) = [] := by
        rw [List.filter_eq_nil_iff]
        intro row inRows owned
        simp only [owns, Bool.and_eq_true, beq_iff_eq] at owned
        obtain ⟨entry, inTable, group, id, -⟩ := lists.inPrivate row inRows
        rw [hasRoom_table.2 ⟨entry, inTable, group.trans owned.1.1, id.trans owned.1.2⟩] at free
        cases free
      rw [members, List.filter_append, none, List.nil_append, isPrivate, ownerRows]
      simp [owns]

/-- **One operation keeps the lists.** -/
theorem RoomLists.step (lists : RoomLists trace store) (byMember : store.CreatorIsMember op) :
    RoomLists (trace ++ [(op, (store.perform prims op).1)]) (store.perform prims op).2 := by
  have step := tablesStep prims store op
  exact {
    keys := roomMembersUnique_perform prims lists.keys op
    roomKeys := roomKeys_step step lists.roomKeys
    inPrivate := lists.inPrivate_step step
    ofGroup := lists.ofGroup_step step byMember fun member => isMember_perform prims op member
    owners := lists.owners_step step }

/-- **The run.** -/
theorem roomLists_performAll (key : BitVec 256) {ops : List StoreOp}
    (byMembers : ∀ ops₁ op ops₂, ops = ops₁ ++ op :: ops₂ →
      ((GatewayStore.empty key).performAll prims ops₁).2.CreatorIsMember op) :
    let run := (GatewayStore.empty key).performAll prims ops
    RoomLists run.1 run.2 := by
  refine performAll_induction (motive := fun ops₁ trace store => (∃ ops₂, ops = ops₁ ++ ops₂) →
    RoomLists trace store) ?_ ?_ ops ⟨[], (List.append_nil _).symm⟩
  · exact fun _ => .empty key
  · rintro ops₁ op ih _ ⟨ops₂, rest⟩
    rw [List.append_assoc] at rest
    exact (ih ⟨_, rest⟩).step (byMembers ops₁ op ops₂ rest)

/-- An owner's row stays. -/
theorem owner_stays (start : GatewayStore) (ops₁ ops₂ : List StoreOp) {row : RoomMemberRow}
    (mem : row ∈ (start.performAll prims ops₁).2.roomMembers) (owner : row.role = .owner) :
    row ∈ (start.performAll prims (ops₁ ++ ops₂)).2.roomMembers := by
  induction ops₂ using List.reverseRecOn with
  | nil => rwa [List.append_nil]
  | append_singleton ops op ih =>
    rw [← List.append_assoc, performAll_concat]
    obtain ⟨reply, step⟩ := tablesStep_store prims (start.performAll prims (ops₁ ++ ops)).2 op
    simp only
    cases step with
    | same _ _ members | group _ _ _ _ _ members => rwa [members]
    | room _ _ _ _ _ members | included _ _ _ members =>
      rw [members]
      exact List.mem_append_left _ ih
    | excluded _ _ members =>
      rw [members]
      refine Table.mem_deleteWhere.2 ⟨ih, ?_⟩
      simp [removable, owner]

/-- A change of the list that fails, or says that it has changed nothing, has not. -/
theorem setRoomMember_unchanged (unique : store.RoomMembersUnique) {g actor target : Uuid} {r : String}
    {role : GroupRole} {included : Bool}
    (quiet : (∃ error, (store.perform prims (.setRoomMember g r actor role target included)).1 =
        .failed error) ∨
      (store.perform prims (.setRoomMember g r actor role target included)).1 = .flag false) :
    (store.perform prims (.setRoomMember g r actor role target included)).2 = store := by
  rcases settle_cases store .flag
    (store.setRoomMember g r actor role target included) with ⟨e, h⟩ | ⟨changed, s, ok, h⟩
  · rw [perform, h]
  · rw [perform, h] at quiet ⊢
    obtain rfl : changed = false := by simpa using quiet
    obtain ⟨-, -, -, wrote⟩ := setRoomMember_ok ok
    cases included with
    | true =>
      rcases wrote with ⟨-, rfl⟩ | ⟨changed, -⟩
      · rfl
      · cases changed
    | false =>
      obtain ⟨count, rfl⟩ := wrote
      have skipped : ∀ row ∈ store.roomMembers, removable g r target row = false := by
        intro row mem
        by_contra selected
        rw [Bool.not_eq_false] at selected
        have one := unique.countP_removable mem selected
        exact absurd count.symm (by rw [decide_eq_false_iff_not, not_not]; exact one)
      have same : Table.deleteWhere (removable g r target) store.roomMembers = store.roomMembers := by
        rw [Table.deleteWhere, List.filter_eq_self]
        exact fun row mem => by rw [skipped row mem]; rfl
      exact congrArg (fun rows => { store with roomMembers := rows }) same

end GatewayStore

open GatewayStore in
/-- **Private-room access lists stay well formed.** After any operations on an
empty store whose rooms are created by members of their group: a private room
has one owner's row, which names its creator and stays; a public room has no
rows; a row names a member of the room's group; a change of a list that fails
or changes nothing leaves the store as it was; and active administrators and
owners have access. -/
theorem room_lists_wellFormed (prims : Primitives) (key : BitVec 256) (ops : List StoreOp)
    (byMembers : ∀ ops₁ op ops₂, ops = ops₁ ++ op :: ops₂ →
      ((GatewayStore.empty key).performAll prims ops₁).2.CreatorIsMember op) :
    let run := (GatewayStore.empty key).performAll prims ops
    (∀ room ∈ run.2.rooms, room.visibility = .isPrivate → ∃ creator name draw,
      (StoreOp.createRoomWithVisibility room.groupId name .isPrivate (some creator) draw,
        StoreReply.room room.summary) ∈ run.1 ∧
      run.2.roomMembers.filter (owns room.groupId room.roomId) =
        [{ groupId := room.groupId, roomId := room.roomId, memberId := creator, role := .owner }]) ∧
    (∀ ops₁ ops₂, ops = ops₁ ++ ops₂ →
      ∀ row ∈ ((GatewayStore.empty key).performAll prims ops₁).2.roomMembers, row.role = .owner →
        row ∈ run.2.roomMembers) ∧
    (∀ room ∈ run.2.rooms, room.visibility = .isPublic → ∀ row ∈ run.2.roomMembers,
      ¬ (row.groupId = room.groupId ∧ row.roomId = room.roomId)) ∧
    (∀ row ∈ run.2.roomMembers, ∃ m ∈ run.2.groupMembers,
      m.groupId = row.groupId ∧ m.memberId = row.memberId) ∧
    (∀ g r actor role target included,
      let change := run.2.perform prims (.setRoomMember g r actor role target included)
      (∃ error, change.1 = .failed error) ∨ change.1 = .flag false → change.2 = run.2) ∧
    (∀ room ∈ run.2.rooms, ∀ m ∈ run.2.groupMembers, m.groupId = room.groupId → m.role = .admin →
      m.status = .active → run.2.memberCanAccessRoom room.groupId room.roomId m.memberId = true) ∧
    ∀ room ∈ run.2.rooms, ∀ row ∈ run.2.roomMembers, row.groupId = room.groupId →
      row.roomId = room.roomId → row.role = .owner →
      run.2.memberCanAccessRoom room.groupId room.roomId row.memberId = true := by
  intro run
  have lists : RoomLists run.1 run.2 := roomLists_performAll key byMembers
  have inTable : ∀ {room : RoomRow}, room ∈ run.2.rooms →
      (room.groupId, room.summary) ∈ run.2.roomTable := fun mem => List.mem_map_of_mem mem
  refine ⟨fun room mem => lists.owners _ (inTable mem), ?_, ?_, lists.ofGroup, ?_, ?_, ?_⟩
  · rintro ops₁ ops₂ rfl row mem owner
    exact owner_stays _ ops₁ ops₂ mem owner
  · rintro room mem isPublic row inRows ⟨group, id⟩
    obtain ⟨entry, inTable', ofGroup, ofRoom, isPrivate⟩ := lists.inPrivate row inRows
    have key : (entry.1, entry.2.roomId) = (room.groupId, room.summary.roomId) :=
      Prod.ext (ofGroup.trans group) (ofRoom.trans id)
    rw [List.inj_on_of_nodup_map lists.roomKeys inTable' (inTable mem) key] at isPrivate
    cases isPrivate.symm.trans isPublic
  · exact fun g r actor role target included quiet => setRoomMember_unchanged lists.keys quiet
  · intro room mem m inRows group role active
    refine memberCanAccessRoom_table.2 ⟨_, inTable mem, rfl, rfl, .inr (.inr ?_)⟩
    exact List.any_eq_true.2 ⟨m, inRows, by simp [group, role, active]⟩
  · intro room mem row inRows group id owner
    refine memberCanAccessRoom_of_owner (hasRoom_table.2 ⟨_, inTable mem, rfl, rfl⟩) ?_
    exact List.any_eq_true.2 ⟨row, inRows, by simp [group, id, owner]⟩

/-- A group whose administrator makes a private room. -/
def atticCreated : List StoreOp :=
  [.createGroup "team" (.numbered 1),
    .createRoomWithVisibility ⟨1⟩ "attic" .isPrivate (some ⟨2⟩) (.numbered 3)]

theorem room_lists_wellFormed_atticCreated :
    let run := (GatewayStore.empty 0).performAll .checksummed atticCreated
    run.2.memberCanAccessRoom ⟨1⟩ (Uuid.simple ⟨3⟩) ⟨2⟩ = true := by
  intro run
  have formed := room_lists_wellFormed .checksummed 0 atticCreated fun ops₁ op ops₂ split => by
    match ops₁, split with
    | [], h =>
      cases h
      trivial
    | [_], h =>
      cases h
      decide +kernel
    | _ :: _ :: _, h => simp [atticCreated] at h
  obtain ⟨-, -, -, -, -, -, owners⟩ := formed
  have attic : ∃ room ∈ run.2.rooms, room.groupId = ⟨1⟩ ∧ room.roomId = Uuid.simple ⟨3⟩ ∧
      ∃ row ∈ run.2.roomMembers, row.groupId = room.groupId ∧ row.roomId = room.roomId ∧
        row.role = .owner ∧ row.memberId = ⟨2⟩ := by
    decide +kernel
  obtain ⟨room, mem, group, id, row, inRows, ofGroup, ofRoom, owner, member⟩ := attic
  rw [← group, ← id, ← member]
  exact owners room mem row inRows ofGroup ofRoom owner

end LanChat
