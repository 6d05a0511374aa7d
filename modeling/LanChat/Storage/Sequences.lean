import LanChat.Storage.Log

/-!
# Message rows over a run of the store

What an operation does to the message rows and to the counters of the rooms
(`MessagesStep`), read off the tables alone: a stored message has an id of its
own and comes after every other message of its room (`Sequenced`), and a read
history is a run of such rows. Nothing here depends on the encryption.
-/

namespace LanChat

namespace GatewayStore

variable {prims : Primitives} {store store' : GatewayStore} {op : StoreOp} {reply : StoreReply}

/-- What one operation with its reply does to messages and counters. -/
inductive MessagesStep (store : GatewayStore) : StoreOp → StoreReply → GatewayStore → Prop where
  | same {op : StoreOp} {reply : StoreReply} {store' : GatewayStore}
      (rooms : store'.rooms = store.rooms) (messages : store'.groupMessages = store.groupMessages)
      (silent : ∀ message, reply ≠ .record message) : MessagesStep store op reply store'
  | opened {op : StoreOp} {reply : StoreReply} {store' : GatewayStore} (row : RoomRow)
      (free : store.hasRoom row.groupId row.roomId = false)
      (rooms : store'.rooms = store.rooms ++ [row])
      (messages : store'.groupMessages = store.groupMessages)
      (silent : ∀ message, reply ≠ .record message) : MessagesStep store op reply store'
  | posted {g : Uuid} {r : String} {id : Uuid} {sender : Peer} {sentAtMs : ℕ} {text : String}
      {draw : Draw} {message : ChatRecord} {store' : GatewayStore} {room : RoomRow} {row : MessageRow}
      (found : store.findRoom g r = some room) (sequence : message.sequence = room.nextSequence)
      (sent : message.messageId = id ∧ message.roomId = r)
      (unused : ∀ m ∈ store.groupMessages, m.messageId ≠ id)
      (rooms : store'.rooms = countUp store.rooms g r)
      (ofMessage : row.groupId = g ∧ row.roomId = r ∧ row.messageId = id ∧
        row.sequence = message.sequence)
      (messages : store'.groupMessages = store.groupMessages ++ [row]) :
      MessagesStep store (.appendMessage g r id sender sentAtMs text draw) (.record message) store'

/-- The number of a stored message is the counter's, and its id is new. -/
theorem appendMessage_fresh {g : Uuid} {r : String} {id : Uuid} {sender : Peer} {sentAtMs : ℕ}
    {text : String} {draw : Draw} {message : ChatRecord}
    (h : store.appendMessage prims g r id sender sentAtMs text draw = .ok (message, store')) :
    (∀ m ∈ store.groupMessages, m.messageId ≠ id) ∧
      ∃ room, store.findRoom g r = some room ∧ message.sequence = room.nextSequence := by
  simp only [appendMessage, bind_eq_ok] at h
  obtain ⟨⟨sequence, s⟩, taken, encrypted, -, s', inserted, h⟩ := h
  cases h
  simp only [takeSequence] at taken
  split at taken
  · cases taken
  · rename_i room found
    split at taken <;> cases taken
    simp only [insertMessage] at inserted
    split at inserted
    · cases inserted
    · rename_i free
      refine ⟨fun m mem same => free ?_, room, found, rfl⟩
      exact Bool.or_eq_true_iff.2 (.inr (List.any_eq_true.2 ⟨m, mem, by simp [same]⟩))

theorem MessagesStep.of_same (same : SameMessages store store')
    (silent : ∀ message, reply ≠ .record message) : MessagesStep store op reply store' :=
  .same same.rooms same.groupMessages silent

/-- A settled operation that touches no message. -/
theorem MessagesStep.settled {α : Type} {kind : α → StoreReply}
    {result : Except StoreError (α × GatewayStore)} (silent : ∀ a message, kind a ≠ .record message)
    (keeps : ∀ a s, result = .ok (a, s) → SameMessages store s) :
    MessagesStep store op (store.settle kind result).1 (store.settle kind result).2 := by
  cases result with
  | error e => exact .of_same (.refl store) nofun
  | ok success => exact .of_same (keeps success.1 success.2 rfl) (silent success.1)

theorem messagesStep_createGroup {name : String} {mode : GroupAccessMode} {draw : Draw}
    {created : CreatedGroup} (h : store.createGroupWithAccess prims name mode draw = .ok (created, store'))
    (silent : ∀ message, reply ≠ .record message) : MessagesStep store op reply store' := by
  obtain ⟨adminHash, inviteHash, -, -, -, -, -, free, -, rfl⟩ := createGroupWithAccess_ok h
  exact .opened
    { roomId := defaultRoomId, groupId := draw.id, name := defaultRoomName,
      visibility := .isPublic, nextSequence := 1 } free rfl rfl silent

theorem messagesStep_createRoom {g : Uuid} {name : String} {visibility : RoomVisibility}
    {creator : Option Uuid} {draw : Draw} {room : RoomSummary}
    (h : store.createRoomWithVisibility g name visibility creator draw = .ok (room, store'))
    (silent : ∀ message, reply ≠ .record message) : MessagesStep store op reply store' := by
  obtain ⟨-, -, -, free, -, rfl⟩ := createRoomWithVisibility_ok h
  exact .opened { roomId := draw.id.simple, groupId := g, name, visibility, nextSequence := 1 }
    free rfl rfl silent

/-- **What an operation can do to the messages.** -/
theorem messagesStep (prims : Primitives) (store : GatewayStore) (op : StoreOp) :
    MessagesStep store op (store.perform prims op).1 (store.perform prims op).2 := by
  cases op with
  | listGroups | group | rooms | decideJoinRequest | setMemberBanned =>
    exact .of_same ⟨rfl, rfl, rfl⟩ (by simp [perform])
  | memberCanAccessRoom | memberCanManageRoom | pendingJoinRequests | roomsForMember
  | groupMembers => exact .of_same (.refl store) (by simp [perform])
  | roomMembers | history | historyBefore =>
    refine .of_same (.refl store) fun message => ?_
    simp only [perform, answer]
    split <;> simp
  | gatewayId draw =>
    refine .of_same ?_ (by simp [perform])
    simp only [perform, gatewayId]
    split <;> exact ⟨rfl, rfl, rfl⟩
  | authorizeJoin groupId credential nickname draw =>
    exact .settled (by simp) fun _ _ => authorizeJoin_same
  | createJoinRequest groupId nickname draw =>
    refine .settled (by simp) fun _ _ h => ?_
    obtain ⟨requests, rfl⟩ := createJoinRequest_ok h
    exact ⟨rfl, rfl, rfl⟩
  | updateMemberNickname groupId memberId nickname =>
    refine .settled (by simp) fun _ s h => ?_
    cases updated : store.updateMemberNickname groupId memberId nickname with
    | error e => simp [updated, Except.map] at h
    | ok s' =>
      obtain rfl : s' = s := by simpa [updated, Except.map] using h
      rw [updateMemberNickname_ok updated]
      exact ⟨rfl, rfl, rfl⟩
  | rotateGroupToken groupId actor kind draw =>
    exact .settled (by simp) fun _ _ => rotateGroupToken_same
  | setRoomMember groupId roomId actor role target included =>
    exact .settled (by simp) fun _ _ => setRoomMember_same
  | createGroup name draw =>
    simp only [perform, GatewayStore.createGroup]
    cases creation : store.createGroupWithAccess prims name .isPublic draw with
    | error e => exact .of_same (.refl store) (by simp [settle, Except.map])
    | ok success => exact messagesStep_createGroup creation (by simp [settle, Except.map])
  | createGroupWithAccess name mode draw =>
    simp only [perform]
    cases creation : store.createGroupWithAccess prims name mode draw with
    | error e => exact .of_same (.refl store) (by simp [settle])
    | ok success => exact messagesStep_createGroup creation (by simp [settle])
  | createRoom groupId name draw =>
    simp only [perform, GatewayStore.createRoom]
    cases creation : store.createRoomWithVisibility groupId name .isPublic none draw with
    | error e => exact .of_same (.refl store) (by simp [settle])
    | ok success => exact messagesStep_createRoom creation (by simp [settle])
  | createRoomWithVisibility groupId name visibility creator draw =>
    simp only [perform]
    cases creation : store.createRoomWithVisibility groupId name visibility creator draw with
    | error e => exact .of_same (.refl store) (by simp [settle])
    | ok success => exact messagesStep_createRoom creation (by simp [settle])
  | appendMessage groupId roomId messageId sender sentAtMs text draw =>
    simp only [perform]
    cases appended : store.appendMessage prims groupId roomId messageId sender sentAtMs text draw with
    | error e => exact .of_same (.refl store) (by simp [settle])
    | ok success =>
      obtain ⟨message, s⟩ := success
      obtain ⟨unused, room, found, sequence⟩ := appendMessage_fresh appended
      obtain ⟨encrypted, number, rfl, rfl⟩ := appendMessage_ok appended
      exact .posted found sequence ⟨rfl, rfl⟩ unused rfl ⟨rfl, rfl, rfl, rfl⟩ rfl

/-! ## Ids and numbers -/

/-- A message has its row. -/
def Stored (store : GatewayStore) (g : Uuid) (message : ChatRecord) : Prop :=
  ∃ row ∈ store.groupMessages, row.groupId = g ∧ row.roomId = message.roomId ∧
    row.messageId = message.messageId ∧ row.sequence = message.sequence

/-- **Messages are told apart by their ids, and stand in the order of their
numbers**, with the counter of their room ahead of them. -/
structure Sequenced (store : GatewayStore) : Prop where
  ids : (store.groupMessages.map MessageRow.messageId).Nodup
  roomed : ∀ m ∈ store.groupMessages, store.hasRoom m.groupId m.roomId = true
  counted : ∀ m ∈ store.groupMessages, ∀ room, store.findRoom m.groupId m.roomId = some room →
    m.sequence < room.nextSequence
  ascending : ∀ g r, (store.roomMessages g r).Pairwise fun a b => a.sequence < b.sequence

theorem mem_roomMessages {g : Uuid} {r : String} {row : MessageRow} :
    row ∈ store.roomMessages g r ↔ row ∈ store.groupMessages ∧ row.groupId = g ∧ row.roomId = r := by
  simp [roomMessages]

theorem findRoom_opened {row : RoomRow} (rooms : store'.rooms = store.rooms ++ [row]) {g : Uuid}
    {r : String} (known : store.hasRoom g r = true) : store'.findRoom g r = store.findRoom g r := by
  rw [← findRoom_isSome] at known
  obtain ⟨room, found⟩ := Option.isSome_iff_exists.1 known
  rw [findRoom, rooms, List.find?_append, ← findRoom, found, Option.some_or]

/-- The counter of a room never goes back. -/
theorem findRoom_countUp {g g' : Uuid} {r r' : String}
    (rooms : store'.rooms = countUp store.rooms g r) {room' : RoomRow}
    (found : store'.findRoom g' r' = some room') : ∃ room, store.findRoom g' r' = some room ∧
      room'.nextSequence = room.nextSequence + if g' = g ∧ r' = r then 1 else 0 := by
  rw [findRoom, rooms, countUp, Table.updateWhere, List.find?_map, Option.map_eq_some_iff] at found
  obtain ⟨room, found, changed⟩ := found
  have same : store.findRoom g' r' = some room := by
    rw [findRoom, ← found]
    congr 1
    funext row
    simp only [Function.comp_apply]
    split <;> rfl
  obtain ⟨-, ofGroup, ofRoom⟩ := findRoom_some same
  refine ⟨room, same, ?_⟩
  rw [← changed, ← ofGroup, ← ofRoom]
  by_cases own : room.groupId = g ∧ room.roomId = r
  · simp [own.1, own.2]
  · rw [if_neg own, if_neg (by simpa using own), Nat.add_zero]

theorem Sequenced.step (sequenced : Sequenced store) (step : MessagesStep store op reply store') :
    Sequenced store' := by
  cases step with
  | same rooms messages =>
    constructor
    · rw [messages]
      exact sequenced.ids
    · rw [messages]
      simp only [hasRoom, rooms]
      exact sequenced.roomed
    · rw [messages]
      simp only [findRoom, rooms]
      exact sequenced.counted
    · simp only [roomMessages, messages]
      exact sequenced.ascending
  | opened row free rooms messages =>
    constructor
    · rw [messages]
      exact sequenced.ids
    · intro m mem
      rw [messages] at mem
      rw [hasRoom, rooms, List.any_append, ← hasRoom, sequenced.roomed m mem, Bool.true_or]
    · intro m mem room found
      rw [messages] at mem
      rw [findRoom_opened rooms (sequenced.roomed m mem)] at found
      exact sequenced.counted m mem room found
    · simp only [roomMessages, messages]
      exact sequenced.ascending
  | @posted g r id sender sentAtMs text draw message _ room row found sequence sent unused rooms
      ofMessage messages =>
    obtain ⟨ofGroup, ofRoom, ofId, number⟩ := ofMessage
    have last : ∀ m ∈ store.groupMessages, m.groupId = g → m.roomId = r → m.sequence < row.sequence := by
      rintro m mem rfl rfl
      rw [number, sequence]
      exact sequenced.counted m mem room found
    constructor
    · rw [messages, List.map_append, List.map_singleton]
      refine List.Nodup.append sequenced.ids (List.nodup_singleton _) ?_
      rw [List.disjoint_singleton, List.mem_map, ofId]
      rintro ⟨m, mem, same⟩
      exact unused m mem same
    · intro m mem
      rw [hasRoom_countUp store rooms]
      rw [messages] at mem
      rcases List.mem_append.1 mem with before | new
      · exact sequenced.roomed m before
      · rw [List.mem_singleton.1 new, ofGroup, ofRoom, ← findRoom_isSome, found]
        rfl
    · intro m mem room' found'
      obtain ⟨old, was, count⟩ := findRoom_countUp rooms found'
      rw [messages] at mem
      rcases List.mem_append.1 mem with before | new
      · have := sequenced.counted m before old was
        omega
      · obtain rfl := List.mem_singleton.1 new
        rw [ofGroup, ofRoom, found, Option.some.injEq] at was
        rw [if_pos ⟨ofGroup, ofRoom⟩] at count
        subst was
        omega
    · intro g' r'
      have appended : store'.roomMessages g' r' =
          store.roomMessages g' r' ++ [row].filter fun m => m.groupId == g' && m.roomId == r' := by
        rw [roomMessages, messages, List.filter_append, ← roomMessages]
      rw [appended, List.pairwise_append]
      refine ⟨sequenced.ascending g' r', (List.pairwise_singleton _ _).filter _, fun a before b new => ?_⟩
      obtain ⟨new, selected⟩ := List.mem_filter.1 new
      obtain rfl := List.mem_singleton.1 new
      simp only [Bool.and_eq_true, beq_iff_eq] at selected
      obtain ⟨mem, inGroup, inRoom⟩ := mem_roomMessages.1 before
      exact last a mem (inGroup.trans (selected.1.symm.trans ofGroup))
        (inRoom.trans (selected.2.symm.trans ofRoom))

theorem sequenced_perform (prims : Primitives) (sequenced : Sequenced store) (op : StoreOp) :
    Sequenced (store.perform prims op).2 := sequenced.step (messagesStep prims store op)

/-! ## Stored messages -/

section
variable {g g' : Uuid} {message message' : ChatRecord}

theorem MessagesStep.stored (step : MessagesStep store op reply store')
    (stored : store.Stored g message) : store'.Stored g message := by
  obtain ⟨row, mem, ofMessage⟩ := stored
  cases step with
  | same _ messages | opened _ _ _ messages =>
    exact ⟨row, messages ▸ mem, ofMessage⟩
  | posted _ _ _ _ _ _ messages =>
    refine ⟨row, ?_, ofMessage⟩
    rw [messages]
    exact List.mem_append_left _ mem

theorem stored_perform (prims : Primitives) (op : StoreOp) (stored : store.Stored g message) :
    (store.perform prims op).2.Stored g message := (messagesStep prims store op).stored stored

/-- Messages with one id are one message. -/
theorem Sequenced.eq_of_id (sequenced : Sequenced store) (stored : store.Stored g message)
    (stored' : store.Stored g' message') (same : message.messageId = message'.messageId) :
    g = g' ∧ message.roomId = message'.roomId ∧ message.sequence = message'.sequence := by
  obtain ⟨row, mem, group, room, id, sequence⟩ := stored
  obtain ⟨row', mem', group', room', id', sequence'⟩ := stored'
  obtain rfl := List.inj_on_of_nodup_map sequenced.ids mem mem' (id.trans (same.trans id'.symm))
  exact ⟨group.symm.trans group', room.symm.trans room', sequence.symm.trans sequence'⟩

/-- No two messages of a room share a number. -/
theorem Sequenced.eq_of_sequence (sequenced : Sequenced store) (stored : store.Stored g message)
    (stored' : store.Stored g message') (room : message.roomId = message'.roomId)
    (same : message.sequence = message'.sequence) : message.messageId = message'.messageId := by
  obtain ⟨row, mem, inGroup, inRoom, id, sequence⟩ := stored
  obtain ⟨row', mem', inGroup', inRoom', id', sequence'⟩ := stored'
  have distinct : ((store.roomMessages g message.roomId).map MessageRow.sequence).Nodup :=
    List.pairwise_map.2 ((sequenced.ascending g message.roomId).imp Nat.ne_of_lt)
  obtain rfl := List.inj_on_of_nodup_map distinct (mem_roomMessages.2 ⟨mem, inGroup, inRoom⟩)
    (mem_roomMessages.2 ⟨mem', inGroup', inRoom'.trans room.symm⟩)
    (sequence.trans (same.trans sequence'.symm))
  exact id.symm.trans id'

/-- **A new message** has an id of its own and the next number of its room. -/
theorem Sequenced.posted (sequenced : Sequenced store) {r : String} {id : Uuid} {sender : Peer}
    {sentAtMs : ℕ} {text : String} {draw : Draw}
    (reply : (store.perform prims (.appendMessage g r id sender sentAtMs text draw)).1 =
      .record message) :
    (store.perform prims (.appendMessage g r id sender sentAtMs text draw)).2.Stored g message ∧
      (∀ g' message', store.Stored g' message' → message'.messageId ≠ message.messageId) ∧
      ∀ message', store.Stored g message' → message'.roomId = message.roomId →
        message'.sequence < message.sequence := by
  have step := messagesStep prims store (.appendMessage g r id sender sentAtMs text draw)
  rw [reply] at step
  generalize (store.perform prims (.appendMessage g r id sender sentAtMs text draw)).2 = store' at step ⊢
  cases step with
  | same _ _ silent | opened _ _ _ _ silent => exact absurd rfl (silent message)
  | @posted _ _ _ _ _ _ _ _ _ room row found sequence sent unused rooms ofMessage messages =>
    obtain ⟨ofGroup, ofRoom, ofId, number⟩ := ofMessage
    refine ⟨⟨row, ?_, ofGroup, ofRoom.trans sent.2.symm, ofId.trans sent.1.symm, number⟩, ?_, ?_⟩
    · rw [messages]
      exact List.mem_append_right _ (List.mem_singleton_self row)
    · rintro g' message' ⟨old, mem, -, -, oldId, -⟩ same
      exact unused old mem (oldId.trans (same.trans sent.1))
    · rintro message' ⟨old, mem, rfl, oldRoom, -, oldSequence⟩ same
      rw [← oldSequence, sequence]
      refine sequenced.counted old mem room ?_
      rw [oldRoom.trans (same.trans sent.2)]
      exact found

end

/-! ## Read histories -/

section
variable {g : Uuid} {r : String} {records : List ChatRecord}

/-- The records are the last of a room, as far as ids and numbers go. -/
structure RoomEnd (store : GatewayStore) (g : Uuid) (r : String) (records : List ChatRecord) :
    Prop where
  ofRoom : ∀ message ∈ records, message.roomId = r
  suffix : records.map (fun m => (m.messageId, m.sequence)) <:+
    (store.roomMessages g r).map fun row => (row.messageId, row.sequence)

/-- **A history is the end of its room.** -/
theorem Sequenced.roomEnd (sequenced : Sequenced store) {limit : ℕ}
    (read : store.history prims g r limit = .ok records) : store.RoomEnd g r records := by
  rw [history, Table.latest_of_ascending _ (sequenced.ascending g r)] at read
  have suffix := List.drop_suffix ((store.roomMessages g r).length - clamp 1 1000 limit)
    (store.roomMessages g r)
  generalize (store.roomMessages g r).drop _ = latest at read suffix
  have rows := (forall₂_of_mapM read).imp fun _ _ => readMessage_ok
  have marks : latest.map (fun row => (row.messageId, row.sequence)) =
      records.map fun m => (m.messageId, m.sequence) := by
    rw [← List.forall₂_eq_eq_eq, List.forall₂_map_left_iff, List.forall₂_map_right_iff]
    exact rows.imp fun row message ⟨sequence, id, _⟩ => by rw [sequence, id]
  have rooms : latest.map MessageRow.roomId = records.map ChatRecord.roomId := by
    rw [← List.forall₂_eq_eq_eq, List.forall₂_map_left_iff, List.forall₂_map_right_iff]
    exact rows.imp fun row message ⟨_, _, room⟩ => room.symm
  refine ⟨fun message mem => ?_, marks ▸ suffix.map _⟩
  have inRooms := List.mem_map_of_mem (f := ChatRecord.roomId) mem
  rw [← rooms] at inRooms
  obtain ⟨row, inLatest, room⟩ := List.mem_map.1 inRooms
  rw [← room]
  exact (mem_roomMessages.1 (suffix.subset inLatest)).2.2

theorem RoomEnd.drop (ending : store.RoomEnd g r records) {kept : List ChatRecord}
    (suffix : kept <:+ records) : store.RoomEnd g r kept :=
  ⟨fun message mem => ending.ofRoom message (suffix.subset mem), (suffix.map _).trans ending.suffix⟩

theorem RoomEnd.stored (ending : store.RoomEnd g r records) {message : ChatRecord}
    (mem : message ∈ records) : store.Stored g message := by
  have marked := ending.suffix.subset (List.mem_map_of_mem mem)
  obtain ⟨row, inRoom, same⟩ := List.mem_map.1 marked
  obtain ⟨id, sequence⟩ := Prod.mk.inj same
  obtain ⟨inTable, ofGroup, ofRoom⟩ := mem_roomMessages.1 inRoom
  exact ⟨row, inTable, ofGroup, ofRoom.trans (ending.ofRoom message mem).symm, id, sequence⟩

theorem RoomEnd.ascending (ending : store.RoomEnd g r records) (sequenced : Sequenced store) :
    records.Pairwise fun a b => a.sequence < b.sequence := by
  have rows : ((store.roomMessages g r).map fun row => (row.messageId, row.sequence)).Pairwise
      fun a b => a.2 < b.2 := List.pairwise_map.2 (sequenced.ascending g r)
  have marks := rows.sublist ending.suffix.sublist
  rw [List.pairwise_map] at marks
  exact marks

theorem RoomEnd.nodup (ending : store.RoomEnd g r records) (sequenced : Sequenced store) :
    (records.map ChatRecord.messageId).Nodup := by
  refine List.pairwise_map.2 ((ending.ascending sequenced).imp_of_mem fun {a b} mem mem' lt same => ?_)
  have := (sequenced.eq_of_id (ending.stored mem) (ending.stored mem') same).2.2
  omega

/-- **Nothing is missing** above the first of them. -/
theorem RoomEnd.complete (ending : store.RoomEnd g r records) (sequenced : Sequenced store)
    {first message : ChatRecord} (head : records.head? = some first)
    (stored : store.Stored g message) (room : message.roomId = r)
    (above : first.sequence < message.sequence) :
    message.messageId ∈ records.map ChatRecord.messageId := by
  obtain ⟨row, inTable, ofGroup, ofRoom, id, sequence⟩ := stored
  obtain ⟨older, rows⟩ := ending.suffix
  have marked : (row.messageId, row.sequence) ∈
      older ++ records.map fun m => (m.messageId, m.sequence) := by
    rw [rows]
    exact List.mem_map.2 ⟨row, mem_roomMessages.2 ⟨inTable, ofGroup, ofRoom.trans room⟩, rfl⟩
  rcases List.mem_append.1 marked with before | within
  · -- what is older than the first has a smaller number
    have rising : (older ++ records.map fun m => (m.messageId, m.sequence)).Pairwise
        fun a b => a.2 < b.2 := by
      rw [rows]
      exact List.pairwise_map.2 (sequenced.ascending g r)
    have lt := (List.pairwise_append.1 rising).2.2 _ before (first.messageId, first.sequence)
      (List.mem_map.2 ⟨first, List.mem_of_mem_head? head, rfl⟩)
    simp only at lt
    omega
  · obtain ⟨kept, mem, same⟩ := List.mem_map.1 within
    exact List.mem_map.2 ⟨kept, mem, (Prod.mk.inj same).1.trans id⟩

end

end GatewayStore

end LanChat
