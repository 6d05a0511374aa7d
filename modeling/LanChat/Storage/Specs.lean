import LanChat.Storage.Store

/-!
# What each operation of the store can do

One lemma for each operation that writes: the checks it passed and the tables
it leaves. Later modules use these and never unfold an operation.
-/

namespace LanChat

namespace GatewayStore

variable {prims : Primitives} {store store' : GatewayStore}

/-! ## Insertions -/

theorem insertGroup_ok {row : GroupRow} (h : store.insertGroup row = .ok store') :
    (∀ g ∈ store.groups, g.groupId ≠ row.groupId ∧ nocase g.name ≠ nocase row.name) ∧
      store' = { store with groups := store.groups ++ [row] } := by
  unfold insertGroup at h
  split at h
  · cases h
  · rename_i free
    cases h
    simpa using free

theorem hasGroup_iff {groupId : Uuid} :
    store.hasGroup groupId = true ↔ ∃ g ∈ store.groups, g.groupId = groupId := by
  simp [hasGroup]

theorem hasRoom_iff {g : Uuid} {r : String} :
    store.hasRoom g r = true ↔ ∃ row ∈ store.rooms, row.groupId = g ∧ row.roomId = r := by
  simp [hasRoom]

theorem insertRoom_ok {row : RoomRow} (h : store.insertRoom row = .ok store') :
    store.hasGroup row.groupId = true ∧ store.hasRoom row.groupId row.roomId = false ∧
      (∀ r ∈ store.rooms, r.groupId = row.groupId → r.name ≠ row.name) ∧
      store' = { store with rooms := store.rooms ++ [row] } := by
  unfold insertRoom at h
  split at h
  · cases h
  · rename_i free
    cases h
    simp only [Bool.or_eq_true, Bool.not_eq_true', List.any_eq_true, Bool.and_eq_true, beq_iff_eq,
      not_or, not_exists, not_and, Bool.not_eq_false] at free
    refine ⟨free.1, ?_, fun r mem group => (free.2 r mem group).2, rfl⟩
    rw [Bool.eq_false_iff, ne_eq, hasRoom_iff]
    rintro ⟨r, mem, group, id⟩
    exact (free.2 r mem group).1 id

theorem insertMember_ok {row : MemberRow} (h : store.insertMember row = .ok store') :
    store.hasGroup row.groupId = true ∧
      (∀ m ∈ store.groupMembers, m.memberId ≠ row.memberId ∧
        (m.groupId = row.groupId → m.credentialHash ≠ row.credentialHash)) ∧
      store' = { store with groupMembers := store.groupMembers ++ [row] } := by
  unfold insertMember at h
  split at h
  · cases h
  · rename_i free
    cases h
    simp only [Bool.or_eq_true, Bool.not_eq_true', List.any_eq_true, Bool.and_eq_true, beq_iff_eq,
      not_or, not_exists, not_and, Bool.not_eq_false] at free
    exact ⟨free.1, free.2, rfl⟩

/-- A row with a new id and a new hash fits in. -/
theorem insertMember_fresh {row : MemberRow} (known : store.hasGroup row.groupId = true)
    (fresh : ∀ m ∈ store.groupMembers, m.memberId ≠ row.memberId ∧
      (m.groupId = row.groupId → m.credentialHash ≠ row.credentialHash)) :
    store.insertMember row = .ok { store with groupMembers := store.groupMembers ++ [row] } := by
  rw [insertMember, if_neg]
  simpa [known] using fresh

theorem insertJoinRequest_ok {row : JoinRequestRow} (h : store.insertJoinRequest row = .ok store') :
    (∀ r ∈ store.joinRequests, r.requestId ≠ row.requestId) ∧
      store' = { store with joinRequests := store.joinRequests ++ [row] } := by
  unfold insertJoinRequest at h
  split at h
  · cases h
  · rename_i free
    cases h
    simp only [Bool.or_eq_true, Bool.not_eq_true', List.any_eq_true, beq_iff_eq, not_or, not_exists,
      not_and] at free
    exact ⟨fun r mem => (free.2 r mem).1, rfl⟩

theorem insertRoomMember_ok {row : RoomMemberRow} (h : store.insertRoomMember row = .ok store') :
    store.hasRoom row.groupId row.roomId = true ∧
      (∃ m ∈ store.groupMembers, m.memberId = row.memberId) ∧
      (∀ old ∈ store.roomMembers, old.key ≠ row.key) ∧
      store' = { store with roomMembers := store.roomMembers ++ [row] } := by
  unfold insertRoomMember at h
  split at h
  · cases h
  · rename_i free
    cases h
    simp only [Bool.or_eq_true, Bool.not_eq_true', not_or, Bool.not_eq_false, List.any_eq_true,
      beq_iff_eq] at free
    refine ⟨free.1.1, free.1.2, fun old mem same => free.2 ⟨old, mem, ?_⟩, rfl⟩
    simpa [RoomMemberRow.key, and_assoc] using same

theorem updateCredentialHash_ok {g : Uuid} {hash : List UInt8} {selects : MemberRow → Bool}
    (h : store.updateCredentialHash g hash selects = .ok store') :
    store' = { store with groupMembers :=
      store.groupMembers |> Table.updateWhere selects fun m => { m with credentialHash := hash } } := by
  unfold updateCredentialHash at h
  split at h
  · cases h
  · cases h
    rfl

theorem credentialHash_ok {token : String} {hash : List UInt8}
    (h : credentialHash prims token = .ok hash) :
    isValidGroupCredential token = true ∧ hash = tokenHash prims token := by
  unfold credentialHash at h
  split at h
  · rename_i valid
    cases h
    exact ⟨valid, rfl⟩
  · cases h

/-! ## Groups and memberships -/

/-- A created group: its row, its general room and its administrator. -/
theorem createGroupWithAccess_ok {name : String} {mode : GroupAccessMode} {draw : Draw}
    {created : CreatedGroup}
    (h : store.createGroupWithAccess prims name mode draw = .ok (created, store')) :
    ∃ adminHash inviteHash,
      credentialHash prims created.credentials.adminToken = .ok adminHash ∧
      created.summary = { groupId := draw.id, groupName := name, accessMode := mode } ∧
      created.credentials.adminToken = generateCredential "admin" draw.random ∧
      created.creatorMemberId = draw.id₂ ∧
      (∀ g ∈ store.groups, g.groupId ≠ draw.id ∧ nocase g.name ≠ nocase name) ∧
      store.hasRoom draw.id defaultRoomId = false ∧
      (∀ m ∈ store.groupMembers, m.memberId ≠ draw.id₂ ∧
        (m.groupId = draw.id → m.credentialHash ≠ adminHash)) ∧
      store' = { store with
        groups := store.groups ++ [
          { groupId := draw.id, name, accessMode := mode, adminTokenHash := some adminHash,
            inviteTokenHash := inviteHash }],
        rooms := store.rooms ++ [
          { roomId := defaultRoomId, groupId := draw.id, name := defaultRoomName,
            visibility := .isPublic, nextSequence := 1 }],
        groupMembers := store.groupMembers ++ [
          { memberId := draw.id₂, groupId := draw.id, credentialHash := adminHash, role := .admin,
            status := .active, lastNickname := "administrator" }] } := by
  simp only [createGroupWithAccess, bind_eq_ok, ensure_eq_ok] at h
  obtain ⟨-, -, adminHash, hashed, inviteHash, -, s₁, group, s₂, room, s₃, member, h⟩ := h
  obtain ⟨freeGroup, rfl⟩ := insertGroup_ok group
  obtain ⟨-, freeRoom, -, rfl⟩ := insertRoom_ok room
  obtain ⟨-, freeMember, rfl⟩ := insertMember_ok member
  cases h
  exact ⟨adminHash, inviteHash, hashed, rfl, rfl, rfl, freeGroup, freeRoom, freeMember, rfl⟩

/-- The four ways a join is decided. -/
inductive JoinOutcome (prims : Primitives) (store : GatewayStore) (groupId : Uuid)
    (credential : Option String) (nickname : String) (draw : Draw) :
    JoinAuthorization → GatewayStore → Prop where
  /-- Not admitted. At the member limit an approved request is used up all the same. -/
  | refused {authorization : JoinAuthorization} {requests : List JoinRequestRow}
      (refusal : ∀ role memberId token, authorization ≠ .allowed role memberId token) :
      JoinOutcome prims store groupId credential nickname draw authorization
        { store with joinRequests := requests }
  /-- The credential is that of an active membership. -/
  | known {token : String} {member : MemberRow} (supplied : credential = some token)
      (mem : member ∈ store.groupMembers) (ofGroup : member.groupId = groupId)
      (hashed : credentialHash prims token = .ok member.credentialHash)
      (active : member.status = .active) :
      JoinOutcome prims store groupId credential nickname draw
        (.allowed member.role member.memberId none)
        (store.setNickname groupId member.memberId nickname)
  /-- The group's administrator token, which no membership has: a new administrator. -/
  | administrator {token : String} {hash : List UInt8} {row : GroupRow}
      (supplied : credential = some token) (hashed : credentialHash prims token = .ok hash)
      (found : store.findGroup groupId = some row) (current : row.adminTokenHash = some hash)
      (fresh : ∀ m ∈ store.groupMembers, m.memberId ≠ draw.id ∧
        (m.groupId = groupId → m.credentialHash ≠ hash)) :
      JoinOutcome prims store groupId credential nickname draw (.allowed .admin draw.id none)
        { store with groupMembers := store.groupMembers ++ [
          { memberId := draw.id, groupId, credentialHash := hash, role := .admin,
            status := .active, lastNickname := nickname }] }
  /-- A new member with a token of its own. -/
  | issued {hash : List UInt8} {requests : List JoinRequestRow}
      (hashed : credentialHash prims (generateCredential "member" draw.random) = .ok hash)
      (fresh : ∀ m ∈ store.groupMembers, m.memberId ≠ draw.id ∧
        (m.groupId = groupId → m.credentialHash ≠ hash)) :
      JoinOutcome prims store groupId credential nickname draw
        (.allowed .member draw.id (some (generateCredential "member" draw.random)))
        { store with
          groupMembers := store.groupMembers ++ [
            { memberId := draw.id, groupId, credentialHash := hash, role := .member,
              status := .active, lastNickname := nickname }],
          joinRequests := requests }

section
variable {g : Uuid} {credential : Option String} {nickname : String} {draw : Draw}
  {authorization : JoinAuthorization}

theorem insertGroupMember_ok {token : String} {role : GroupRole} {memberId : Uuid}
    (h : store.insertGroupMember prims g token role nickname draw = .ok (memberId, store')) :
    ∃ hash, credentialHash prims token = .ok hash ∧ memberId = draw.id ∧
      (∀ m ∈ store.groupMembers, m.memberId ≠ draw.id ∧
        (m.groupId = g → m.credentialHash ≠ hash)) ∧
      store' = { store with groupMembers := store.groupMembers ++ [
        { memberId := draw.id, groupId := g, credentialHash := hash, role, status := .active,
          lastNickname := nickname }] } := by
  simp only [insertGroupMember, bind_eq_ok] at h
  obtain ⟨hash, hashed, s, inserted, h⟩ := h
  obtain ⟨-, fresh, rfl⟩ := insertMember_ok inserted
  cases h
  exact ⟨hash, hashed, rfl, fresh, rfl⟩

theorem issueMember_ok (h : store.issueMember prims g nickname draw = .ok (authorization, store'))
    (requests : List JoinRequestRow) :
    JoinOutcome prims store g credential nickname draw authorization
      { store' with joinRequests := requests } := by
  unfold issueMember at h
  split at h
  · cases h
    exact .refused nofun
  · simp only [bind_eq_ok] at h
    obtain ⟨⟨memberId, s⟩, inserted, h⟩ := h
    obtain ⟨hash, hashed, rfl, fresh, rfl⟩ := insertGroupMember_ok inserted
    cases h
    exact .issued hashed fresh

theorem authorizeRequest_ok {token : String} {hash : List UInt8}
    (h : store.authorizeRequest prims g token nickname hash draw = .ok (authorization, store')) :
    JoinOutcome prims store g credential nickname draw authorization store' := by
  unfold authorizeRequest at h
  split at h
  · cases h
    exact .refused nofun
  · split at h
    · simp only [bind_eq_ok] at h
      obtain ⟨⟨authorization, s⟩, issued, h⟩ := h
      cases h
      exact issueMember_ok issued _
    · cases h
      exact .refused nofun
    · cases h
      exact .refused nofun

theorem authorizeByMode_ok {row : GroupRow} {hash : Option (List UInt8)}
    (h : store.authorizeByMode prims row credential hash nickname draw = .ok (authorization, store')) :
    JoinOutcome prims store row.groupId credential nickname draw authorization store' := by
  unfold authorizeByMode at h
  split at h
  · cases h
    exact .refused nofun
  · exact issueMember_ok h _
  · cases h
    exact .refused nofun
  · split at h
    · exact issueMember_ok h _
    · cases h
      exact .refused nofun
  · exact authorizeRequest_ok h
  · cases h
    exact .refused nofun

theorem findGroup_some {row : GroupRow} (h : store.findGroup g = some row) :
    row ∈ store.groups ∧ row.groupId = g :=
  ⟨List.mem_of_find?_eq_some h, by simpa using List.find?_some h⟩

/-- **What `authorize_join` can do.** -/
theorem authorizeJoin_ok
    (h : store.authorizeJoin prims g credential nickname draw = .ok (authorization, store')) :
    JoinOutcome prims store g credential nickname draw authorization store' := by
  unfold authorizeJoin at h
  split at h
  · cases h
  · rename_i row found
    obtain ⟨-, rfl⟩ := findGroup_some found
    split at h
    · exact authorizeByMode_ok h
    · rename_i token
      simp only [bind_eq_ok] at h
      obtain ⟨hash, hashed, h⟩ := h
      split at h
      · rename_i member isMember
        have found := List.find?_some isMember
        simp only [Bool.and_eq_true, beq_iff_eq] at found
        obtain ⟨group, rfl⟩ := found
        split at h
        · cases h
          exact .refused (by simp)
        · rename_i active
          cases h
          refine .known rfl (List.mem_of_find?_eq_some isMember) group hashed ?_
          cases status : member.status
          · rfl
          · exact absurd status active
      · split at h
        · rename_i current
          simp only [bind_eq_ok] at h
          obtain ⟨⟨memberId, s⟩, inserted, h⟩ := h
          obtain ⟨hash', hashed', rfl, fresh, rfl⟩ := insertGroupMember_ok inserted
          cases h
          rw [hashed] at hashed'
          cases hashed'
          exact .administrator rfl hashed found current fresh
        · exact authorizeByMode_ok h

theorem updateMemberNickname_ok {memberId : Uuid}
    (h : store.updateMemberNickname g memberId nickname = .ok store') :
    store' = store.setNickname g memberId nickname := by
  simp only [updateMemberNickname, bind_eq_ok] at h
  obtain ⟨-, -, h⟩ := h
  cases h
  rfl

theorem createJoinRequest_ok {request : Uuid × String}
    (h : store.createJoinRequest prims g nickname draw = .ok (request, store')) :
    ∃ requests, store' = { store with joinRequests := requests } := by
  simp only [createJoinRequest, bind_eq_ok] at h
  obtain ⟨-, -, -, -, hash, -, s, inserted, h⟩ := h
  cases h
  exact ⟨_, (insertJoinRequest_ok inserted).2⟩

end

/-- The role a rotation of each kind asks of the actor. -/
def rotatorRole : GroupTokenKind → GroupRole
  | .member => .member
  | .admin | .invite => .admin

/-- **What a rotation can do.** -/
theorem rotateGroupToken_ok {g actor : Uuid} {kind : GroupTokenKind} {draw : Draw} {token : String}
    (h : store.rotateGroupToken prims g actor kind draw = .ok (token, store')) :
    ∃ hash, credentialHash prims token = .ok hash ∧
      token = generateCredential kind.asStr draw.random ∧
      (∃ m ∈ store.groupMembers, m.groupId = g ∧ m.memberId = actor ∧ m.status = .active ∧
        m.role = rotatorRole kind) ∧
      match kind with
      | .member =>
        let selects (m : MemberRow) :=
          m.groupId == g && m.memberId == actor && m.role == .member && m.status == .active
        store' = { store with groupMembers :=
          store.groupMembers |> Table.updateWhere selects fun m => { m with credentialHash := hash } }
      | .admin =>
        let selects (m : MemberRow) := m.groupId == g && m.memberId == actor && m.role == .admin
        store' = { store with
          groups := store.groups |> Table.updateWhere (·.groupId == g)
            fun row => { row with adminTokenHash := some hash }
          groupMembers :=
            store.groupMembers |> Table.updateWhere selects fun m => { m with credentialHash := hash } }
      | .invite =>
        let selects (row : GroupRow) := row.groupId == g && row.accessMode == .invite
        store' = { store with groups :=
          store.groups |> Table.updateWhere selects fun row => { row with inviteTokenHash := some hash } } := by
  simp only [rotateGroupToken, bind_eq_ok, ensure_eq_ok] at h
  obtain ⟨-, permitted, hash, hashed, h⟩ := h
  have actorRole : ∃ m ∈ store.groupMembers, m.groupId = g ∧ m.memberId = actor ∧
      m.status = .active ∧ m.role = rotatorRole kind := by
    have role : (store.groupMembers.find? fun m =>
        m.groupId == g && m.memberId == actor && m.status == .active).map (·.role) =
        some (rotatorRole kind) := by
      cases kind <;> exact of_decide_eq_true permitted
    obtain ⟨m, found, role⟩ := Option.map_eq_some_iff.1 role
    have select := List.find?_some found
    simp only [Bool.and_eq_true, beq_iff_eq] at select
    exact ⟨m, List.mem_of_find?_eq_some found, select.1.1, select.1.2, select.2, role⟩
  cases kind with
  | member =>
    simp only [bind_eq_ok] at h
    obtain ⟨s, updated, -, -, h⟩ := h
    cases h
    exact ⟨hash, hashed, rfl, actorRole, updateCredentialHash_ok updated⟩
  | admin =>
    simp only [bind_eq_ok] at h
    obtain ⟨s, updated, h⟩ := h
    cases h
    exact ⟨hash, hashed, rfl, actorRole, updateCredentialHash_ok updated⟩
  | invite =>
    simp only [bind_eq_ok] at h
    obtain ⟨-, -, h⟩ := h
    cases h
    exact ⟨hash, hashed, rfl, actorRole, rfl⟩

/-- Only an invite group has an invite token. -/
theorem rotateGroupToken_inviteGroup {g actor : Uuid} {draw : Draw} {token : String}
    (h : store.rotateGroupToken prims g actor .invite draw = .ok (token, store')) :
    ∃ row ∈ store.groups, row.groupId = g ∧ row.accessMode = .invite := by
  simp only [rotateGroupToken, bind_eq_ok, ensure_eq_ok, decide_eq_true_eq] at h
  obtain ⟨-, -, hash, -, -, one, -⟩ := h
  have some := List.countP_pos_iff.1 (Nat.lt_of_lt_of_eq Nat.zero_lt_one one.symm)
  simpa using some

/-! ## Rooms -/

/-- The owner's row of a new private room. -/
def ownerRows (groupId : Uuid) (roomId : String) : Option Uuid → RoomVisibility → List RoomMemberRow
  | some memberId, .isPrivate => [{ groupId, roomId, memberId, role := .owner }]
  | _, _ => []

/-- A created room, and the owner's row when it is private. -/
theorem createRoomWithVisibility_ok {g : Uuid} {name : String} {visibility : RoomVisibility}
    {creator : Option Uuid} {draw : Draw} {room : RoomSummary}
    (h : store.createRoomWithVisibility g name visibility creator draw = .ok (room, store')) :
    room = { roomId := draw.id.simple, roomName := name, visibility } ∧
      (∀ r ∈ store.rooms, r.groupId = g → nocase r.name ≠ nocase name) ∧
      store.hasGroup g = true ∧ store.hasRoom g draw.id.simple = false ∧
      (∀ new ∈ ownerRows g draw.id.simple creator visibility,
        ∀ old ∈ store.roomMembers, old.key ≠ new.key) ∧
      store' = { store with
        rooms := store.rooms ++ [
          { roomId := draw.id.simple, groupId := g, name, visibility, nextSequence := 1 }],
        roomMembers := store.roomMembers ++ ownerRows g draw.id.simple creator visibility } := by
  simp only [createRoomWithVisibility, bind_eq_ok, ensure_eq_ok] at h
  obtain ⟨-, unused, -, -, s, inserted, h⟩ := h
  obtain ⟨group, free, -, rfl⟩ := insertRoom_ok inserted
  have unused : ∀ r ∈ store.rooms, r.groupId = g → nocase r.name ≠ nocase name := by
    simpa using unused
  split at h
  · simp only [bind_eq_ok] at h
    obtain ⟨s, owner, h⟩ := h
    obtain ⟨-, -, fresh, rfl⟩ := insertRoomMember_ok owner
    cases h
    refine ⟨rfl, unused, group, free, fun new mem => ?_, rfl⟩
    rw [List.mem_singleton.1 mem]
    exact fresh
  · rename_i notPrivate
    cases h
    have noOwner : ownerRows g draw.id.simple creator visibility = [] := by
      cases creator with
      | none => rfl
      | some memberId =>
        cases visibility with
        | isPublic => rfl
        | isPrivate => exact (notPrivate memberId rfl rfl).elim
    rw [noOwner, List.append_nil]
    exact ⟨rfl, unused, group, free, by simp, rfl⟩

/-- A private room has a creator. -/
theorem createRoomWithVisibility_owner {g : Uuid} {name : String} {visibility : RoomVisibility}
    {creator : Option Uuid} {draw : Draw} {room : RoomSummary}
    (h : store.createRoomWithVisibility g name visibility creator draw = .ok (room, store'))
    (isPrivate : visibility = .isPrivate) : creator.isSome = true := by
  simp only [createRoomWithVisibility, bind_eq_ok, ensure_eq_ok] at h
  obtain ⟨-, -, -, owned, -⟩ := h
  simpa [isPrivate, Option.isSome_iff_ne_none] using owned

/-- **What a change of a room's members can do.** -/
theorem setRoomMember_ok {g : Uuid} {r : String} {actor target : Uuid} {role : GroupRole}
    {included changed : Bool}
    (h : store.setRoomMember g r actor role target included = .ok (changed, store')) :
    store.isPrivateRoom g r = true ∧
      (role = .admin ∨ store.isRoomOwner g r actor = true) ∧
      (∃ m ∈ store.groupMembers, m.groupId = g ∧ m.memberId = target ∧ m.status = .active ∧
        m.role ≠ .admin) ∧
      (if included then
        (changed = false ∧ store' = store) ∨
        (changed = true ∧ (∀ old ∈ store.roomMembers, old.key ≠ (g, r, target)) ∧
          store' = { store with roomMembers := store.roomMembers ++ [
            { groupId := g, roomId := r, memberId := target, role := .member }] })
      else
        let selects (rm : RoomMemberRow) := rm.groupId == g && rm.roomId == r &&
          rm.memberId == target && rm.role == .member
        changed = decide (store.roomMembers.countP selects = 1) ∧
          store' = { store with roomMembers := Table.deleteWhere selects store.roomMembers }) := by
  simp only [setRoomMember, bind_eq_ok, ensure_eq_ok] at h
  obtain ⟨-, isPrivate, -, allowed, -, active, h⟩ := h
  refine ⟨isPrivate, by simpa using allowed, by simpa [and_assoc] using active, ?_⟩
  cases included with
  | true =>
    simp only [if_true] at h ⊢
    split at h
    · cases h
      exact .inl ⟨rfl, rfl⟩
    · simp only [bind_eq_ok] at h
      obtain ⟨s, inserted, h⟩ := h
      obtain ⟨-, -, fresh, rfl⟩ := insertRoomMember_ok inserted
      cases h
      exact .inr ⟨rfl, fresh, rfl⟩
  | false =>
    simp only [Bool.false_eq_true, if_false] at h ⊢
    cases h
    exact ⟨rfl, rfl⟩

/-! ## Messages -/

/-- The row `append_message` inserts. -/
abbrev messageRow (groupId : Uuid) (roomId : String) (messageId : Uuid) (sender : Peer)
    (sentAtMs sequence : ℕ) (encrypted : List UInt8) : MessageRow :=
  { messageId, groupId, roomId, sequence, senderSessionId := sender.sessionId,
    senderMemberId := sender.memberId, senderNickname := sender.nickname,
    sentAtMs := min sentAtMs i64Max, encryptedBody := encrypted }

/-- The counter of one room, one higher. -/
def countUp (rooms : List RoomRow) (groupId : Uuid) (roomId : String) : List RoomRow :=
  Table.updateWhere (fun r => r.groupId == groupId && r.roomId == roomId)
    (fun r => { r with nextSequence := r.nextSequence + 1 }) rooms

/-- A stored message: one row, and the room's counter one higher. -/
theorem appendMessage_ok {g : Uuid} {r : String} {id : Uuid} {sender : Peer} {sentAtMs : ℕ}
    {text : String} {draw : Draw} {record : ChatRecord}
    (h : store.appendMessage prims g r id sender sentAtMs text draw = .ok (record, store')) :
    ∃ encrypted sequence,
      record = { sequence, messageId := id, sender, roomId := r, sentAtMs, text } ∧
      store' = { store with
        rooms := countUp store.rooms g r,
        groupMessages := store.groupMessages ++
          [messageRow g r id sender sentAtMs sequence encrypted] } := by
  simp only [appendMessage, bind_eq_ok] at h
  obtain ⟨⟨sequence, s⟩, taken, encrypted, -, s', inserted, h⟩ := h
  cases h
  simp only [takeSequence] at taken
  split at taken
  · cases taken
  · split at taken
    · cases taken
    · cases taken
      simp only [insertMessage] at inserted
      split at inserted
      · cases inserted
      · cases inserted
        exact ⟨encrypted, _, rfl, rfl⟩

end GatewayStore

end LanChat
