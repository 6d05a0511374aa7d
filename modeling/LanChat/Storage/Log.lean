import LanChat.Storage.Operations
import LanChat.Storage.Specs

/-!
# The message store is one append-only log per room

The abstract store is a list of records for each room that exists. A caller
can compute these lists from the replies alone (`Logs.observe`): a created
room starts empty, and an accepted message is put at the end. `Represents`
ties the tables to the lists, every operation keeps it, and `LogReply` says
what each reply has to be in terms of the lists.
-/

namespace LanChat

/-- The list of each room, `none` where there is no room. -/
abbrev Logs := Uuid → String → Option (List ChatRecord)

namespace Logs

/-- The records of a room, none where there is no room. -/
def records (logs : Logs) (groupId : Uuid) (roomId : String) : List ChatRecord :=
  (logs groupId roomId).getD []

def set (logs : Logs) (groupId : Uuid) (roomId : String) (records : List ChatRecord) : Logs :=
  fun g r => if g = groupId ∧ r = roomId then some records else logs g r

theorem records_set (logs : Logs) (g g' : Uuid) (r r' : String) (records : List ChatRecord) :
    (logs.set g r records).records g' r' =
      if g' = g ∧ r' = r then records else logs.records g' r' := by
  unfold Logs.records Logs.set
  split <;> rfl

end Logs

/-- The record as the store keeps it: without the sender's direct endpoint,
and with the time within `i64`. -/
def ChatRecord.stored (record : ChatRecord) : ChatRecord :=
  { record with
    sender := { record.sender with direct := none }, sentAtMs := min record.sentAtMs i64Max }

/-- The last `n` elements. -/
def lastN {α : Type*} (n : ℕ) (list : List α) : List α := list.drop (list.length - n)

namespace Logs

/-- What one reply says about the lists. -/
def observe (logs : Logs) : StoreOp × StoreReply → Logs
  | (.createGroup _ _, .group (some group)) => logs.set group.groupId defaultRoomId []
  | (.createGroupWithAccess _ _ _, .created created) =>
    logs.set created.summary.groupId defaultRoomId []
  | (.createRoom groupId _ _, .room room) => logs.set groupId room.roomId []
  | (.createRoomWithVisibility groupId _ _ _ _, .room room) => logs.set groupId room.roomId []
  | (.appendMessage groupId roomId _ _ _ _ _, .record record) =>
    logs.set groupId roomId (logs.records groupId roomId ++ [record.stored])
  | _ => logs

/-- The lists after a trace, from no rooms at all. -/
def ofTrace (trace : List (StoreOp × StoreReply)) : Logs := trace.foldl observe fun _ _ => none

/-- Sequences count from one, and no message id occurs twice in the gateway. -/
structure WellFormed (logs : Logs) : Prop where
  gapless : ∀ g r, (logs.records g r).map ChatRecord.sequence =
    List.range' 1 (logs.records g r).length
  once : ∀ (g g' : Uuid) (r r' : String) (i i' : ℕ) (m m' : ChatRecord),
    (logs.records g r)[i]? = some m → (logs.records g' r')[i']? = some m' →
    m.messageId = m'.messageId → g = g' ∧ r = r' ∧ i = i'

/-- A message with this id has been stored, in any room of the gateway. -/
def hasMessage (logs : Logs) (messageId : Uuid) : Prop :=
  ∃ g r, ∃ m ∈ logs.records g r, m.messageId = messageId

end Logs

/-- Why a message is refused: there is no such room, its id is in use, its
encryption fails, or the room has run out of sequence numbers. -/
def AppendRefused (prims : Primitives) (key : BitVec 256) (logs : Logs) (groupId : Uuid)
    (roomId : String) (messageId : Uuid) (text : String) (draw : Draw) : Prop :=
  logs groupId roomId = none ∨ logs.hasMessage messageId ∨
    (encryptBody prims key groupId roomId messageId ((logs.records groupId roomId).length + 1)
      (utf8Encode text) draw).isOk = false ∨
    i64Max ≤ (logs.records groupId roomId).length + 1

/-- What the store replies, in terms of the lists alone. -/
def LogReply (prims : Primitives) (key : BitVec 256) (logs : Logs) : StoreOp → StoreReply → Prop
  | .appendMessage groupId roomId messageId sender sentAtMs text draw, reply =>
    (AppendRefused prims key logs groupId roomId messageId text draw ∧ ∃ e, reply = .failed e) ∨
    (¬ AppendRefused prims key logs groupId roomId messageId text draw ∧
      reply = .record { sequence := (logs.records groupId roomId).length + 1, messageId, sender,
                        roomId, sentAtMs, text })
  | .history groupId roomId limit, reply =>
    reply = .records (lastN (clamp 1 1000 limit) (logs.records groupId roomId))
  | .historyBefore groupId roomId before limit, reply =>
    reply = .records (lastN (clamp 1 1000 limit)
      ((logs.records groupId roomId).filter (·.sequence < before)))
  | .createGroup _ _, .group (some group) => logs group.groupId defaultRoomId = none
  | .createGroupWithAccess _ _ _, .created created =>
    logs created.summary.groupId defaultRoomId = none
  | .createRoom groupId _ _, .room room => logs groupId room.roomId = none
  | .createRoomWithVisibility groupId _ _ _ _, .room room => logs groupId room.roomId = none
  | _, _ => True

/-! ## The tables represent the lists -/

namespace GatewayStore

/-- The tables hold the lists: a room row for each list, with the number of
the next message, and for each record a row that decrypts to it, in order. -/
structure Represents (prims : Primitives) (store : GatewayStore) (logs : Logs) : Prop where
  counters : ∀ row ∈ store.rooms, ∃ records, logs row.groupId row.roomId = some records ∧
    row.nextSequence = records.length + 1
  opened : ∀ g r, (logs g r).isSome → store.hasRoom g r = true
  reads : ∀ g r, List.Forall₂ (fun row record => store.readMessage prims row = .ok record)
    (store.roomMessages g r) (logs.records g r)
  numbered : ∀ g r, (store.roomMessages g r).map MessageRow.sequence =
    List.range' 1 (logs.records g r).length
  bounded : ∀ g r, (logs.records g r).length < i64Max
  ids : (store.groupMessages.map MessageRow.messageId).Nodup

/-- Everything the lists depend on. -/
structure SameMessages (store store' : GatewayStore) : Prop where
  key : store'.key = store.key
  rooms : store'.rooms = store.rooms
  groupMessages : store'.groupMessages = store.groupMessages

variable {prims : Primitives} {store store' : GatewayStore} {logs : Logs}

theorem SameMessages.refl (store : GatewayStore) : SameMessages store store := ⟨rfl, rfl, rfl⟩

/-- The relation sees only the message tables and the key. -/
theorem Represents.of_same (represents : Represents prims store logs)
    (same : SameMessages store store') : Represents prims store' logs := by
  have messages : ∀ g r, store'.roomMessages g r = store.roomMessages g r := fun g r => by
    rw [roomMessages, roomMessages, same.groupMessages]
  have read : store'.readMessage prims = store.readMessage prims := by
    funext row
    rw [readMessage, readMessage, same.key]
  constructor
  · rw [same.rooms]
    exact represents.counters
  · intro g r isOpen
    rw [hasRoom, same.rooms]
    exact represents.opened g r isOpen
  · intro g r
    rw [messages, read]
    exact represents.reads g r
  · intro g r
    rw [messages]
    exact represents.numbered g r
  · exact represents.bounded
  · rw [same.groupMessages]
    exact represents.ids

theorem represents_empty (prims : Primitives) (key : BitVec 256) :
    Represents prims (GatewayStore.empty key) fun _ _ => none := by
  constructor <;> simp [GatewayStore.empty, roomMessages, Logs.records, i64Max]

/-! ## Reading -/

theorem mapM_of_forall₂ {ε α β : Type} {f : α → Except ε β} {as : List α} {bs : List β}
    (each : List.Forall₂ (fun a b => f a = .ok b) as bs) : as.mapM f = .ok bs := by
  induction each with
  | nil => rfl
  | cons head _ ih =>
    rw [List.mapM_cons, head, ih]
    rfl

theorem readMessage_ok {row : MessageRow} {record : ChatRecord}
    (h : store.readMessage prims row = .ok record) :
    record.sequence = row.sequence ∧ record.messageId = row.messageId ∧
      record.roomId = row.roomId := by
  simp only [readMessage, bind_eq_ok] at h
  obtain ⟨plaintext, -, h⟩ := h
  split at h
  · cases h
  · cases h
    exact ⟨rfl, rfl, rfl⟩

theorem Represents.ascending (represents : Represents prims store logs) (g : Uuid) (r : String) :
    (store.roomMessages g r).Pairwise fun a b => a.sequence < b.sequence := by
  rw [← List.pairwise_map (f := MessageRow.sequence), represents.numbered g r]
  exact List.pairwise_lt_range'

/-- The end of a filtered room reads back as the end of the filtered list. -/
theorem Represents.read_latest (represents : Represents prims store logs) (g : Uuid) (r : String)
    (n : ℕ) (keep : MessageRow → Bool) (keep' : ChatRecord → Bool)
    (agree : ∀ row record, row ∈ store.roomMessages g r →
      store.readMessage prims row = .ok record → (keep row = true ↔ keep' record = true)) :
    (Table.latest MessageRow.sequence n ((store.roomMessages g r).filter keep)).mapM
      (store.readMessage prims) = .ok (lastN n ((logs.records g r).filter keep')) := by
  rw [Table.latest_of_ascending n ((represents.ascending g r).filter _)]
  have filtered : List.Forall₂ (fun row record => store.readMessage prims row = .ok record)
      ((store.roomMessages g r).filter keep) ((logs.records g r).filter keep') := by
    have reads := represents.reads g r
    generalize store.roomMessages g r = rows at reads agree
    generalize logs.records g r = records at reads
    induction reads with
    | nil => exact .nil
    | @cons row record rows records head _ ih =>
      have here := agree row record List.mem_cons_self head
      have rest := ih fun row' record' mem => agree row' record' (List.mem_cons_of_mem _ mem)
      cases kept : keep row with
      | true =>
        rw [List.filter_cons_of_pos kept, List.filter_cons_of_pos (here.1 kept)]
        exact .cons head rest
      | false =>
        have dropped : ¬ keep' record = true := fun h => Bool.false_ne_true (kept ▸ here.2 h)
        rw [List.filter_cons_of_neg (by simp [kept]), List.filter_cons_of_neg dropped]
        exact rest
  refine mapM_of_forall₂ ?_
  rw [lastN, ← filtered.length_eq]
  exact List.forall₂_drop _ filtered

/-- **History.** The last entries of the room's list. -/
theorem Represents.history (represents : Represents prims store logs) (g : Uuid) (r : String)
    (limit : ℕ) : store.history prims g r limit =
      .ok (lastN (clamp 1 1000 limit) (logs.records g r)) := by
  have all := represents.read_latest g r (clamp 1 1000 limit) (fun _ => true) (fun _ => true)
    fun _ _ _ _ => Iff.rfl
  rwa [List.filter_true, List.filter_true] at all

/-- A sequence number is below the room's length, so `i64` does not clip the bound. -/
theorem Represents.sequence_le (represents : Represents prims store logs) {g : Uuid} {r : String}
    {row : MessageRow} (mem : row ∈ store.roomMessages g r) :
    1 ≤ row.sequence ∧ row.sequence ≤ (logs.records g r).length := by
  have inRange : row.sequence ∈ (store.roomMessages g r).map MessageRow.sequence :=
    List.mem_map_of_mem mem
  rw [represents.numbered g r, List.mem_range'_1] at inRange
  omega

/-- **Earlier history.** The last entries below a sequence number. -/
theorem Represents.historyBefore (represents : Represents prims store logs) (g : Uuid) (r : String)
    (before limit : ℕ) : store.historyBefore prims g r before limit =
      .ok (lastN (clamp 1 1000 limit) ((logs.records g r).filter (·.sequence < before))) := by
  refine represents.read_latest g r _ _ _ fun row record mem read => ?_
  have bound := (represents.sequence_le mem).2
  have bounded := represents.bounded g r
  rw [(readMessage_ok read).1]
  simp only [decide_eq_true_eq]
  omega

/-! ## Appending -/

theorem findRoom_some {g : Uuid} {r : String} {row : RoomRow} (h : store.findRoom g r = some row) :
    row ∈ store.rooms ∧ row.groupId = g ∧ row.roomId = r := by
  have found := List.find?_some h
  simp only [Bool.and_eq_true, beq_iff_eq] at found
  exact ⟨List.mem_of_find?_eq_some h, found⟩

theorem findRoom_isSome {g : Uuid} {r : String} :
    (store.findRoom g r).isSome = store.hasRoom g r := by
  rw [findRoom, hasRoom, Bool.eq_iff_iff, List.find?_isSome, List.any_eq_true]

/-- The next number of a room that exists. -/
theorem Represents.counter (represents : Represents prims store logs) {g : Uuid} {r : String}
    {row : RoomRow} (found : store.findRoom g r = some row) :
    logs g r = some (logs.records g r) ∧ row.nextSequence = (logs.records g r).length + 1 := by
  obtain ⟨mem, rfl, rfl⟩ := findRoom_some found
  obtain ⟨records, isOpen, next⟩ := represents.counters row mem
  have records_eq : logs.records row.groupId row.roomId = records := by
    rw [Logs.records, isOpen, Option.getD_some]
  rw [records_eq]
  exact ⟨isOpen, next⟩

theorem Represents.findRoom_eq_none (represents : Represents prims store logs) {g : Uuid}
    {r : String} : store.findRoom g r = none ↔ logs g r = none := by
  constructor
  · intro missing
    by_contra isOpen
    have room := represents.opened g r (Option.isSome_iff_ne_none.2 isOpen)
    rw [← findRoom_isSome, missing] at room
    cases room
  · intro closed
    cases found : store.findRoom g r with
    | none => rfl
    | some row => simp [(represents.counter found).1] at closed

/-- The rows and the records of a room carry the same ids. -/
theorem Represents.messageIds (represents : Represents prims store logs) (g : Uuid) (r : String) :
    (store.roomMessages g r).map MessageRow.messageId =
      (logs.records g r).map ChatRecord.messageId := by
  rw [← List.forall₂_eq_eq_eq, List.forall₂_map_left_iff, List.forall₂_map_right_iff]
  exact (represents.reads g r).imp fun _ _ read => (readMessage_ok read).2.1.symm

/-- An id is used in the table exactly when some list has it. -/
theorem Represents.hasMessage_iff (represents : Represents prims store logs) (id : Uuid) :
    (store.groupMessages.any fun m => m.messageId == id) = true ↔ logs.hasMessage id := by
  have inRecords : ∀ g r, (∃ m ∈ logs.records g r, m.messageId = id) ↔
      ∃ row ∈ store.roomMessages g r, row.messageId = id := fun g r => by
    rw [← List.mem_map, ← List.mem_map, represents.messageIds]
  simp only [List.any_eq_true, beq_iff_eq, Logs.hasMessage, inRecords, roomMessages,
    List.mem_filter, Bool.and_eq_true]
  constructor
  · rintro ⟨row, mem, used⟩
    exact ⟨_, _, row, ⟨mem, rfl, rfl⟩, used⟩
  · rintro ⟨g, r, row, ⟨mem, -⟩, used⟩
    exact ⟨row, mem, used⟩

theorem hasRoom_countUp (store : GatewayStore) {g g' : Uuid} {r r' : String}
    (counted : store'.rooms = countUp store.rooms g r) :
    store'.hasRoom g' r' = store.hasRoom g' r' := by
  have ids : store'.rooms.map (fun row => (row.groupId, row.roomId)) =
      store.rooms.map fun row => (row.groupId, row.roomId) := by
    rw [counted]
    exact Table.map_updateWhere fun _ _ _ => rfl
  rw [Bool.eq_iff_iff, hasRoom_iff, hasRoom_iff]
  simpa [Prod.ext_iff] using congrArg ((g', r') ∈ ·) ids

/-- With its room there and its number new, only the id of a row can clash. -/
theorem insertMessage_eq {row : MessageRow} (room : store.hasRoom row.groupId row.roomId = true)
    (fresh : ∀ m ∈ store.groupMessages, m.groupId = row.groupId → m.roomId = row.roomId →
      m.sequence ≠ row.sequence) :
    store.insertMessage row =
      if (store.groupMessages.any fun m => m.messageId == row.messageId) = true then
        .error .constraint
      else .ok { store with groupMessages := store.groupMessages ++ [row] } := by
  have sameIds : (store.groupMessages.any fun m => m.messageId == row.messageId ||
      (m.groupId == row.groupId && m.roomId == row.roomId && m.sequence == row.sequence)) =
      store.groupMessages.any fun m => m.messageId == row.messageId := by
    rw [Bool.eq_iff_iff]
    simp only [List.any_eq_true, Bool.or_eq_true, Bool.and_eq_true, beq_iff_eq]
    refine exists_congr fun m => and_congr_right fun mem => or_iff_left ?_
    rintro ⟨⟨group, room⟩, number⟩
    exact fresh m mem group room number
  rw [insertMessage, sameIds, room, Bool.not_true, Bool.false_or]

section
variable {g : Uuid} {r : String} {id : Uuid} {sender : Peer} {sentAtMs : ℕ} {text : String}
  {draw : Draw}

/-- `append_message` under the relation, in one equation: what it checks and
what it writes. -/
theorem Represents.appendMessage_eq (represents : Represents prims store logs) :
    store.appendMessage prims g r id sender sentAtMs text draw =
      let next := (logs.records g r).length + 1
      if logs g r = none then .error .noRows
      else if i64Max ≤ next then .error .constraint
      else match encryptBody prims store.key g r id next (utf8Encode text) draw with
        | .error e => .error e
        | .ok encrypted =>
          if (store.groupMessages.any fun m => m.messageId == id) = true then .error .constraint
          else .ok ({ sequence := next, messageId := id, sender, roomId := r, sentAtMs, text },
            { store with
              rooms := countUp store.rooms g r,
              groupMessages := store.groupMessages ++
                [messageRow g r id sender sentAtMs next encrypted] }) := by
  simp only [appendMessage, takeSequence]
  cases found : store.findRoom g r with
  | none => 
    rw [if_pos (represents.findRoom_eq_none.1 found)]
    rfl
  | some row =>
    obtain ⟨isOpen, next⟩ := represents.counter found
    rw [if_neg (by rw [isOpen]; exact Option.some_ne_none _)]
    simp only [next]
    by_cases full : i64Max ≤ (logs.records g r).length + 1
    · rw [if_pos full, if_pos full]
      rfl
    · rw [if_neg full, if_neg full]
      change (encryptBody _ _ _ _ _ _ _ _ >>= _) = _
      cases encryption : encryptBody prims store.key g r id ((logs.records g r).length + 1)
        (utf8Encode text) draw with
      | error e => rfl
      | ok encrypted =>
        -- the room is still there, and no message of it has this number
        have room : store.hasRoom g r = true := by rw [← findRoom_isSome, found]; rfl
        have fresh : ∀ m ∈ store.groupMessages, m.groupId = g → m.roomId = r →
            m.sequence ≠ (logs.records g r).length + 1 := by
          rintro m mem rfl rfl number
          have inRoom : m ∈ store.roomMessages m.groupId m.roomId := by simp [roomMessages, mem]
          have := (represents.sequence_le inRoom).2
          omega
        change (insertMessage _ (messageRow g r id sender sentAtMs _ encrypted) >>= _) = _
        rw [insertMessage_eq ((hasRoom_countUp store rfl).trans room) fresh]
        by_cases used : (store.groupMessages.any fun m => m.messageId == id) = true
        · simp only [messageRow, if_pos used]
          rfl
        · simp only [messageRow, if_neg used]
          rfl

/-- A message row decrypts to the record that was returned for it, as stored. -/
theorem readMessage_messageRow (aead : AeadCorrect prims) {sequence : ℕ} {encrypted : List UInt8}
    (encryption : encryptBody prims store.key g r id sequence (utf8Encode text) draw =
      .ok encrypted) :
    store.readMessage prims (messageRow g r id sender sentAtMs sequence encrypted) =
      .ok (ChatRecord.stored { sequence, messageId := id, sender, roomId := r, sentAtMs, text }) := by
  rw [readMessage, decryptBody_encryptBody aead encryption]
  simp only [ok_bind, utf8Decode_encode]
  rfl

theorem roomMessages_append (store : GatewayStore) (row : MessageRow)
    (messages : store'.groupMessages = store.groupMessages ++ [row]) (g' : Uuid) (r' : String) :
    store'.roomMessages g' r' = store.roomMessages g' r' ++
      if g' = row.groupId ∧ r' = row.roomId then [row] else [] := by
  rw [roomMessages, roomMessages, messages, List.filter_append]
  congr 1
  split
  · rename_i same
    simp [same]
  · rename_i other
    have : ¬ (row.groupId = g' ∧ row.roomId = r') := fun h => other ⟨h.1.symm, h.2.symm⟩
    simp [this]

/-- **The append step.** An accepted message is the new end of its room's list. -/
theorem Represents.append (represents : Represents prims store logs) (aead : AeadCorrect prims)
    {encrypted : List UInt8} (isOpen : logs g r ≠ none)
    (room : (logs.records g r).length + 1 < i64Max)
    (encryption : encryptBody prims store.key g r id ((logs.records g r).length + 1)
      (utf8Encode text) draw = .ok encrypted)
    (unused : ¬ (store.groupMessages.any fun m => m.messageId == id) = true) :
    Represents prims
      { store with
        rooms := countUp store.rooms g r,
        groupMessages := store.groupMessages ++
          [messageRow g r id sender sentAtMs ((logs.records g r).length + 1) encrypted] }
      (logs.set g r (logs.records g r ++ [ChatRecord.stored
        { sequence := (logs.records g r).length + 1, messageId := id, sender, roomId := r,
          sentAtMs, text }])) := by
  constructor
  · intro row mem
    simp only [countUp, Table.mem_updateWhere, Bool.and_eq_false_iff, Bool.and_eq_true,
      beq_eq_false_iff_ne, beq_iff_eq] at mem
    rcases mem with ⟨mem, other⟩ | ⟨old, mem, ⟨rfl, rfl⟩, rfl⟩
    · obtain ⟨records, atRow, next⟩ := represents.counters row mem
      refine ⟨records, ?_, next⟩
      rw [Logs.set, if_neg, atRow]
      rintro ⟨group, room⟩
      exact other.elim (fun h => h group) (fun h => h room)
    · obtain ⟨records, atRow, next⟩ := represents.counters old mem
      refine ⟨_, if_pos ⟨rfl, rfl⟩, ?_⟩
      simp [next, Logs.records, atRow]
  · intro g' r' some'
    rw [hasRoom_countUp store rfl]
    by_cases same : g' = g ∧ r' = r
    · obtain ⟨rfl, rfl⟩ := same
      exact represents.opened g' r' (Option.isSome_iff_ne_none.2 isOpen)
    · rw [Logs.set, if_neg same] at some'
      exact represents.opened g' r' some'
  · intro g' r'
    rw [roomMessages_append store _ rfl, Logs.records_set]
    change List.Forall₂ (fun row record => store.readMessage prims row = .ok record) _ _
    have reads := represents.reads g' r'
    by_cases same : g' = g ∧ r' = r
    · rw [if_pos same, if_pos same]
      obtain ⟨rfl, rfl⟩ := same
      exact List.rel_append reads (.cons (readMessage_messageRow aead encryption) .nil)
    · rwa [if_neg same, if_neg same, List.append_nil]
  · intro g' r'
    rw [roomMessages_append store _ rfl, Logs.records_set]
    have numbered := represents.numbered g' r'
    by_cases same : g' = g ∧ r' = r
    · rw [if_pos same, if_pos same]
      obtain ⟨rfl, rfl⟩ := same
      rw [List.map_append, numbered, List.length_append, List.length_singleton, List.range'_append_1.symm]
      simp [Nat.add_comm]
    · rwa [if_neg same, if_neg same, List.append_nil]
  · intro g' r'
    rw [Logs.records_set]
    split
    · simpa using room
    · exact represents.bounded g' r'
  · simp only [List.any_eq_true, beq_iff_eq, not_exists, not_and] at unused
    simp only [List.map_append, List.map_cons, List.map_nil]
    refine List.Nodup.append represents.ids (List.nodup_singleton _) ?_
    simpa using unused

/-! ## The other operations -/

/-- **The room step.** A new room starts an empty list. -/
theorem Represents.openRoom (represents : Represents prims store logs) (row : RoomRow)
    (free : store.hasRoom row.groupId row.roomId = false) (start : row.nextSequence = 1)
    (rooms : store'.rooms = store.rooms ++ [row]) (key : store'.key = store.key)
    (messages : store'.groupMessages = store.groupMessages) :
    logs row.groupId row.roomId = none ∧ store'.key = store.key ∧
      Represents prims store' (logs.set row.groupId row.roomId []) := by
  have closed : logs row.groupId row.roomId = none := by
    by_contra isOpen
    have room := represents.opened _ _ (Option.isSome_iff_ne_none.2 isOpen)
    exact absurd (room.symm.trans free) (by decide)
  -- the records of every room are what they were
  have records : ∀ g r, (logs.set row.groupId row.roomId []).records g r = logs.records g r := by
    intro g r
    rw [Logs.records_set]
    split
    · rename_i same
      rw [Logs.records, same.1, same.2, closed]
      rfl
    · rfl
  refine ⟨closed, key, ?_, ?_, ?_, ?_, ?_, ?_⟩
  · rw [rooms]
    intro old mem
    rcases List.mem_append.1 mem with mem | mem
    · obtain ⟨l, atRow, next⟩ := represents.counters old mem
      refine ⟨l, ?_, next⟩
      rw [Logs.set, if_neg, atRow]
      rintro ⟨group, room⟩
      rw [group, room, closed] at atRow
      cases atRow
    · obtain rfl := List.mem_singleton.1 mem
      exact ⟨[], if_pos ⟨rfl, rfl⟩, start⟩
  · intro g r isOpen
    rw [hasRoom_iff, rooms]
    by_cases same : g = row.groupId ∧ r = row.roomId
    · exact ⟨row, by simp, same.1.symm, same.2.symm⟩
    · rw [Logs.set, if_neg same] at isOpen
      obtain ⟨old, mem, ids⟩ := hasRoom_iff.1 (represents.opened g r isOpen)
      exact ⟨old, List.mem_append_left _ mem, ids⟩
  · intro g r
    have read : store'.readMessage prims = store.readMessage prims := by
      funext row
      rw [readMessage, readMessage, key]
    rw [records, read, roomMessages, messages]
    exact represents.reads g r
  · intro g r
    rw [records, roomMessages, messages]
    exact represents.numbered g r
  · intro g r
    rw [records]
    exact represents.bounded g r
  · rw [messages]
    exact represents.ids

/-- A join touches memberships and requests only. -/
theorem authorizeJoin_same {credential : Option String} {nickname : String}
    {authorization : JoinAuthorization}
    (h : store.authorizeJoin prims g credential nickname draw = .ok (authorization, store')) :
    SameMessages store store' := by
  cases authorizeJoin_ok h <;> exact ⟨rfl, rfl, rfl⟩

theorem rotateGroupToken_same {actor : Uuid} {kind : GroupTokenKind} {token : String}
    (h : store.rotateGroupToken prims g actor kind draw = .ok (token, store')) :
    SameMessages store store' := by
  obtain ⟨hash, -, -, -, wrote⟩ := rotateGroupToken_ok h
  cases kind <;> simp only at wrote <;> subst wrote <;> exact ⟨rfl, rfl, rfl⟩

theorem setRoomMember_same {actor target : Uuid} {role : GroupRole} {included changed : Bool}
    (h : store.setRoomMember g r actor role target included = .ok (changed, store')) :
    SameMessages store store' := by
  obtain ⟨-, -, -, wrote⟩ := setRoomMember_ok h
  split at wrote
  · rcases wrote with ⟨-, rfl⟩ | ⟨-, -, rfl⟩ <;> exact ⟨rfl, rfl, rfl⟩
  · obtain ⟨-, rfl⟩ := wrote
    exact ⟨rfl, rfl, rfl⟩

end

/-! ## Runs -/

/-- A settled operation keeps what every success of it keeps. -/
theorem settle_same {α : Type} {reply : α → StoreReply}
    {result : Except StoreError (α × GatewayStore)}
    (keeps : ∀ a s, result = .ok (a, s) → SameMessages store s) :
    SameMessages store (store.settle reply result).2 := by
  cases result with
  | error e => exact .refl store
  | ok success => exact keeps success.1 success.2 rfl

/-- A created group opens its general room. -/
theorem Represents.createGroup (represents : Represents prims store logs) {name : String}
    {mode : GroupAccessMode} {draw : Draw} {created : CreatedGroup}
    (h : store.createGroupWithAccess prims name mode draw = .ok (created, store')) :
    logs created.summary.groupId defaultRoomId = none ∧ store'.key = store.key ∧
      Represents prims store' (logs.set created.summary.groupId defaultRoomId []) := by
  obtain ⟨adminHash, inviteHash, -, summary, -, -, -, free, -, rfl⟩ := createGroupWithAccess_ok h
  rw [summary]
  exact represents.openRoom
    { roomId := defaultRoomId, groupId := draw.id, name := defaultRoomName,
      visibility := .isPublic, nextSequence := 1 } free rfl rfl rfl rfl

/-- A created room. -/
theorem Represents.createRoom (represents : Represents prims store logs) {g : Uuid} {name : String}
    {visibility : RoomVisibility} {creator : Option Uuid} {draw : Draw} {room : RoomSummary}
    (h : store.createRoomWithVisibility g name visibility creator draw = .ok (room, store')) :
    logs g room.roomId = none ∧ store'.key = store.key ∧
      Represents prims store' (logs.set g room.roomId []) := by
  obtain ⟨rfl, -, -, free, -, rfl⟩ := createRoomWithVisibility_ok h
  exact represents.openRoom
    { roomId := draw.id.simple, groupId := g, name, visibility, nextSequence := 1 }
    free rfl rfl rfl rfl

/-- **The step lemma.** An operation replies as the lists say, and the new
tables represent the lists after its reply. -/
theorem Represents.perform (represents : Represents prims store logs) (aead : AeadCorrect prims)
    (op : StoreOp) :
    LogReply prims store.key logs op (store.perform prims op).1 ∧
      (store.perform prims op).2.key = store.key ∧
      Represents prims (store.perform prims op).2
        (logs.observe (op, (store.perform prims op).1)) := by
  have frame : ∀ {store' : GatewayStore}, SameMessages store store' →
      store'.key = store.key ∧ Represents prims store' logs := fun same =>
    ⟨same.key, represents.of_same same⟩
  cases op with
  | listGroups | group | pendingJoinRequests | rooms | roomsForMember | memberCanAccessRoom
  | groupMembers | memberCanManageRoom | roomMembers => exact ⟨trivial, rfl, represents⟩
  | decideJoinRequest groupId requestId approve => exact ⟨trivial, frame ⟨rfl, rfl, rfl⟩⟩
  | setMemberBanned groupId memberId banned => exact ⟨trivial, frame ⟨rfl, rfl, rfl⟩⟩
  | gatewayId draw =>
    refine ⟨trivial, frame ?_⟩
    simp only [GatewayStore.perform, gatewayId]
    split <;> exact ⟨rfl, rfl, rfl⟩
  | authorizeJoin groupId credential nickname draw =>
    exact ⟨trivial, frame (settle_same fun _ _ => authorizeJoin_same)⟩
  | createJoinRequest groupId nickname draw =>
    refine ⟨trivial, frame (settle_same fun _ _ h => ?_)⟩
    obtain ⟨requests, rfl⟩ := createJoinRequest_ok h
    exact ⟨rfl, rfl, rfl⟩
  | updateMemberNickname groupId memberId nickname =>
    refine ⟨trivial, frame (settle_same fun _ s h => ?_)⟩
    cases updated : store.updateMemberNickname groupId memberId nickname with
    | error e => simp [updated, Except.map] at h
    | ok s' =>
      obtain rfl : s' = s := by simpa [updated, Except.map] using h
      rw [updateMemberNickname_ok updated]
      exact ⟨rfl, rfl, rfl⟩
  | rotateGroupToken groupId actor kind draw =>
    exact ⟨trivial, frame (settle_same fun _ _ => rotateGroupToken_same)⟩
  | setRoomMember groupId roomId actor role target included =>
    exact ⟨trivial, frame (settle_same fun _ _ => setRoomMember_same)⟩
  | createGroup name draw =>
    simp only [GatewayStore.perform, GatewayStore.createGroup]
    cases creation : store.createGroupWithAccess prims name .isPublic draw with
    | error e => exact ⟨trivial, frame (.refl store)⟩
    | ok success => exact represents.createGroup creation
  | createGroupWithAccess name mode draw =>
    simp only [GatewayStore.perform]
    cases creation : store.createGroupWithAccess prims name mode draw with
    | error e => exact ⟨trivial, frame (.refl store)⟩
    | ok success => exact represents.createGroup creation
  | createRoom groupId name draw =>
    simp only [GatewayStore.perform, GatewayStore.createRoom]
    cases creation : store.createRoomWithVisibility groupId name .isPublic none draw with
    | error e => exact ⟨trivial, frame (.refl store)⟩
    | ok success => exact represents.createRoom creation
  | createRoomWithVisibility groupId name visibility creator draw =>
    simp only [GatewayStore.perform]
    cases creation : store.createRoomWithVisibility groupId name visibility creator draw with
    | error e => exact ⟨trivial, frame (.refl store)⟩
    | ok success => exact represents.createRoom creation
  | history groupId roomId limit =>
    simp only [GatewayStore.perform, represents.history]
    exact ⟨rfl, trivial, represents⟩
  | historyBefore groupId roomId before limit =>
    simp only [GatewayStore.perform, represents.historyBefore]
    exact ⟨rfl, trivial, represents⟩
  | appendMessage groupId roomId messageId sender sentAtMs text draw =>
    simp only [GatewayStore.perform, represents.appendMessage_eq, LogReply, AppendRefused]
    by_cases closed : logs groupId roomId = none
    · rw [if_pos closed]
      exact ⟨.inl ⟨.inl closed, _, rfl⟩, frame (.refl store)⟩
    rw [if_neg closed]
    by_cases full : i64Max ≤ (logs.records groupId roomId).length + 1
    · rw [if_pos full]
      exact ⟨.inl ⟨.inr (.inr (.inr full)), _, rfl⟩, frame (.refl store)⟩
    rw [if_neg full]
    cases encryption : encryptBody prims store.key groupId roomId messageId
      ((logs.records groupId roomId).length + 1) (utf8Encode text) draw with
    | error e => exact ⟨.inl ⟨.inr (.inr (.inl rfl)), _, rfl⟩, frame (.refl store)⟩
    | ok encrypted =>
      simp only
      by_cases used : (store.groupMessages.any fun m => m.messageId == messageId) = true
      · rw [if_pos used]
        exact ⟨.inl ⟨.inr (.inl ((represents.hasMessage_iff messageId).1 used)), _, rfl⟩,
          frame (.refl store)⟩
      rw [if_neg used]
      refine ⟨.inr ⟨?_, rfl⟩, rfl, represents.append aead closed (by omega) encryption used⟩
      rintro (isClosed | hasMessage | failed | isFull)
      · exact closed isClosed
      · exact used ((represents.hasMessage_iff messageId).2 hasMessage)
      · cases failed
      · exact full isFull

/-- **The run lemma.** -/
theorem Represents.performAll (represents : Represents prims store logs) (aead : AeadCorrect prims)
    (ops : List StoreOp) :
    (store.performAll prims ops).2.key = store.key ∧
      Represents prims (store.performAll prims ops).2
        ((store.performAll prims ops).1.foldl Logs.observe logs) := by
  induction ops generalizing store logs with
  | nil => exact ⟨rfl, represents⟩
  | cons op ops ih =>
    obtain ⟨-, key, next⟩ := represents.perform aead op
    obtain ⟨rest, last⟩ := ih next
    exact ⟨rest.trans key, last⟩

/-- What the tables represent counts from one and never repeats an id. -/
theorem Represents.wellFormed (represents : Represents prims store logs) : logs.WellFormed := by
  constructor
  · intro g r
    rw [← represents.numbered g r, ← List.forall₂_eq_eq_eq, List.forall₂_map_left_iff,
      List.forall₂_map_right_iff]
    exact (represents.reads g r).flip.imp fun _ _ read => (readMessage_ok read).1
  · intro g g' r r' i i' m m' at_i at_i' same
    -- the rows behind the two records have one id, so they are one row
    have row : ∀ {g : Uuid} {r : String} {i : ℕ} {m : ChatRecord}, (logs.records g r)[i]? = some m →
        ∃ row : MessageRow,
          (store.roomMessages g r)[i]? = some row ∧ row.messageId = m.messageId := by
      intro g r i m at_i
      have mapped : ((store.roomMessages g r).map MessageRow.messageId)[i]? = some m.messageId := by
        rw [represents.messageIds, List.getElem?_map, at_i]
        rfl
      rw [List.getElem?_map] at mapped
      exact Option.map_eq_some_iff.1 mapped
    obtain ⟨a, at_a, ida⟩ := row at_i
    obtain ⟨b, at_b, idb⟩ := row at_i'
    have mema := List.mem_filter.1 (List.mem_of_getElem? at_a)
    have memb := List.mem_filter.1 (List.mem_of_getElem? at_b)
    obtain rfl : a = b := List.inj_on_of_nodup_map represents.ids mema.1 memb.1
      (ida.trans (same.trans idb.symm))
    simp only [Bool.and_eq_true, beq_iff_eq] at mema memb
    obtain ⟨rfl, rfl⟩ := mema.2
    obtain ⟨rfl, rfl⟩ := memb.2
    have distinct : (store.roomMessages a.groupId a.roomId).Nodup :=
      (List.Nodup.of_map _ represents.ids).filter _
    exact ⟨rfl, rfl, (List.getElem?_inj (List.getElem?_eq_some_iff.1 at_a).1 distinct).1
      (at_a.trans at_b.symm)⟩

end GatewayStore

open GatewayStore in
/-- **The message store refines one append-only list per room.** After any
operations on an empty store, the lists that the replies so far describe count
their records from one and repeat no id, and the next operation replies as
these lists say. -/
theorem message_store_refines_logs (prims : Primitives) (aead : AeadCorrect prims)
    (key : BitVec 256) (ops : List StoreOp) (op : StoreOp) :
    let run := (GatewayStore.empty key).performAll prims ops
    (Logs.ofTrace run.1).WellFormed ∧
      LogReply prims key (Logs.ofTrace run.1) op (run.2.perform prims op).1 := by
  obtain ⟨sameKey, represents⟩ := (represents_empty prims key).performAll aead ops
  refine ⟨represents.wellFormed, ?_⟩
  have reply := (represents.perform aead op).1
  rwa [sameKey] at reply

/-- A group with three messages, the last of which repeats an id. -/
def threeMessages : List StoreOp :=
  let draw : Draw := { id := ⟨1⟩, id₂ := ⟨2⟩, random := 0, random₂ := 0, nonce := 0, millis := 0 }
  let sender : Peer := { sessionId := ⟨3⟩, memberId := ⟨2⟩, nickname := "Ana", direct := none }
  [.createGroup "team" draw, .appendMessage ⟨1⟩ defaultRoomId ⟨10⟩ sender 5 "one" draw,
    .appendMessage ⟨1⟩ defaultRoomId ⟨11⟩ sender 6 "two" draw,
    .appendMessage ⟨1⟩ defaultRoomId ⟨10⟩ sender 7 "three" draw]

theorem message_store_refines_logs_three_messages :
    let run := (GatewayStore.empty 0).performAll .checksummed threeMessages
    (Logs.ofTrace run.1).WellFormed ∧ LogReply .checksummed 0 (Logs.ofTrace run.1)
      (.history ⟨1⟩ defaultRoomId 1) (run.2.perform .checksummed (.history ⟨1⟩ defaultRoomId 1)).1 :=
  message_store_refines_logs .checksummed aeadCorrect_checksummed 0 threeMessages _

end LanChat
