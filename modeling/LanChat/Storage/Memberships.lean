import LanChat.Storage.Operations
import LanChat.Storage.Specs

/-!
# Memberships over a run of the store

What an operation can do to the membership rows (`MembersStep`), and from it
what bans and rotations mean for a membership: only a ban bans, only a rotation
by the member itself replaces its token, and an admission leaves the token it
was made with current.
-/

namespace LanChat

/-- The operations that write rooms, room members or messages. -/
def StoreOp.isOfRooms : StoreOp → Bool
  | createRoom _ _ _ | createRoomWithVisibility _ _ _ _ _ | setRoomMember _ _ _ _ _ _
  | appendMessage _ _ _ _ _ _ _ => true
  | _ => false

namespace GatewayStore

variable {prims : Primitives} {store store' : GatewayStore}

/-- The rows `set_member_banned` selects. -/
def bannable (groupId memberId : Uuid) (m : MemberRow) : Bool :=
  m.groupId == groupId && m.memberId == memberId && m.role != .admin

/-- What one operation with its reply does to the membership rows. -/
inductive MembersStep (prims : Primitives) (rows : List MemberRow) :
    StoreOp → StoreReply → List MemberRow → Prop where
  | same {op : StoreOp} {reply : StoreReply} : MembersStep prims rows op reply rows
  | renamed {op : StoreOp} {reply : StoreReply} (selects : MemberRow → Bool) (nickname : String) :
      MembersStep prims rows op reply
        (rows |> Table.updateWhere selects fun m => { m with lastNickname := nickname })
  | added {op : StoreOp} {reply : StoreReply} {row : MemberRow} (active : row.status = .active)
      (fresh : ∀ m ∈ rows, m.memberId ≠ row.memberId) :
      MembersStep prims rows op reply (rows ++ [row])
  | banned {g member : Uuid} {ban : Bool} :
      MembersStep prims rows (.setMemberBanned g member ban)
        (.flag (rows.countP (bannable g member) = 1))
        (rows |> Table.updateWhere (bannable g member) fun m =>
          { m with status := if ban then .banned else .active })
  | rotated {g actor : Uuid} {kind : GroupTokenKind} {draw : Draw} {token : String}
      {hash : List UInt8} (selects : MemberRow → Bool) (notInvite : kind ≠ .invite)
      (hashed : credentialHash prims token = .ok hash)
      (ofActor : ∀ m, selects m = true → m.groupId = g ∧ m.memberId = actor)
      (actorRow : ∃ m ∈ rows, selects m = true) :
      MembersStep prims rows (.rotateGroupToken g actor kind draw) (.token token)
        (rows |> Table.updateWhere selects fun m => { m with credentialHash := hash })

theorem settle_cases {α : Type} (store : GatewayStore) (reply : α → StoreReply)
    (result : Except StoreError (α × GatewayStore)) :
    (∃ error, store.settle reply result = (.failed error, store)) ∨
      ∃ a s, result = .ok (a, s) ∧ store.settle reply result = (reply a, s) := by
  cases result with
  | error e => exact .inl ⟨e, rfl⟩
  | ok success => exact .inr ⟨success.1, success.2, rfl, rfl⟩

/-- The tables that say who may join a group. -/
structure SameAccounts (store store' : GatewayStore) : Prop where
  groups : store'.groups = store.groups
  joinRequests : store'.joinRequests = store.joinRequests
  groupMembers : store'.groupMembers = store.groupMembers

theorem sameAccounts_settle {α : Type} {reply : α → StoreReply} {result : Except StoreError (α × GatewayStore)}
    (kept : ∀ a s, result = .ok (a, s) → SameAccounts store s) :
    SameAccounts store (store.settle reply result).2 := by
  rcases settle_cases store reply result with ⟨e, h⟩ | ⟨a, s, ok, h⟩
  · rw [h]
    exact ⟨rfl, rfl, rfl⟩
  · rw [h]
    exact kept a s ok

/-- What is done to rooms and messages leaves the accounts alone. -/
theorem sameAccounts (prims : Primitives) (store : GatewayStore) {op : StoreOp} (ofRooms : op.isOfRooms = true) :
    SameAccounts store (store.perform prims op).2 := by
  cases op with
  | createRoom | createRoomWithVisibility =>
    refine sameAccounts_settle fun room s ok => ?_
    obtain ⟨-, -, -, -, -, rfl⟩ := createRoomWithVisibility_ok ok
    exact ⟨rfl, rfl, rfl⟩
  | setRoomMember =>
    refine sameAccounts_settle fun changed s ok => ?_
    obtain ⟨-, -, -, wrote⟩ := setRoomMember_ok ok
    split at wrote
    · rcases wrote with ⟨-, rfl⟩ | ⟨-, -, rfl⟩ <;> exact ⟨rfl, rfl, rfl⟩
    · obtain ⟨-, rfl⟩ := wrote
      exact ⟨rfl, rfl, rfl⟩
  | appendMessage =>
    refine sameAccounts_settle fun record s ok => ?_
    obtain ⟨encrypted, sequence, -, rfl⟩ := appendMessage_ok ok
    exact ⟨rfl, rfl, rfl⟩
  | _ => cases ofRooms

/-- A rotation replaces the token of the rows of its actor, or that of no member. -/
theorem membersStep_rotated {g actor : Uuid} {kind : GroupTokenKind} {draw : Draw} {token : String}
    (ok : store.rotateGroupToken prims g actor kind draw = .ok (token, store')) :
    MembersStep prims store.groupMembers (.rotateGroupToken g actor kind draw) (.token token)
      store'.groupMembers := by
  obtain ⟨hash, hashed, -, ⟨m, mem, group, member, active, role⟩, wrote⟩ := rotateGroupToken_ok ok
  cases kind with
  | member =>
    simp only at wrote
    subst wrote
    refine .rotated _ (by simp) hashed (fun m selected => ?_) ⟨m, mem, ?_⟩
    · simp only [Bool.and_eq_true, beq_iff_eq] at selected
      exact selected.1.1
    · simp [group, member, active, role, rotatorRole]
  | admin =>
    simp only at wrote
    subst wrote
    refine .rotated _ (by simp) hashed (fun m selected => ?_) ⟨m, mem, ?_⟩
    · simp only [Bool.and_eq_true, beq_iff_eq] at selected
      exact selected.1
    · simp [group, member, role, rotatorRole]
  | invite =>
    simp only at wrote
    subst wrote
    exact .same

/-- **What an operation can do to the memberships.** -/
theorem membersStep (prims : Primitives) (store : GatewayStore) (op : StoreOp) :
    MembersStep prims store.groupMembers op (store.perform prims op).1
      (store.perform prims op).2.groupMembers := by
  cases op with
  | listGroups | group | pendingJoinRequests | rooms | roomsForMember | memberCanAccessRoom
  | groupMembers | memberCanManageRoom | roomMembers | history | historyBefore
  | decideJoinRequest => exact .same
  | gatewayId draw =>
    simp only [perform, gatewayId]
    split <;> exact .same
  | createGroup name draw =>
    simp only [perform, GatewayStore.createGroup]
    cases creation : store.createGroupWithAccess prims name .isPublic draw with
    | error e => exact .same
    | ok success =>
      obtain ⟨_, _, -, -, -, -, -, -, fresh, wrote⟩ := createGroupWithAccess_ok creation
      simp only [settle, Except.map, wrote]
      exact .added rfl fun m mem => (fresh m mem).1
  | createGroupWithAccess name mode draw =>
    rcases settle_cases store .created
      (store.createGroupWithAccess prims name mode draw) with ⟨e, h⟩ | ⟨created, s, ok, h⟩
    · rw [perform, h]
      exact .same
    · rw [perform, h]
      obtain ⟨_, _, -, -, -, -, -, -, fresh, rfl⟩ := createGroupWithAccess_ok ok
      exact .added rfl fun m mem => (fresh m mem).1
  | authorizeJoin groupId credential nickname draw =>
    rcases settle_cases store .authorization
      (store.authorizeJoin prims groupId credential nickname draw) with ⟨e, h⟩ | ⟨a, s, ok, h⟩
    · rw [perform, h]
      exact .same
    · rw [perform, h]
      cases authorizeJoin_ok ok with
      | refused => exact .same
      | known => exact .renamed _ _
      | administrator _ _ _ _ fresh => exact .added rfl fun m mem => (fresh m mem).1
      | issued _ fresh => exact .added rfl fun m mem => (fresh m mem).1
  | createJoinRequest groupId nickname draw =>
    simp only [perform]
    cases created : store.createJoinRequest prims groupId nickname draw with
    | error e => exact .same
    | ok success =>
      obtain ⟨requests, wrote⟩ := createJoinRequest_ok created
      simp only [settle, wrote]
      exact .same
  | updateMemberNickname groupId memberId nickname =>
    simp only [perform]
    cases updated : store.updateMemberNickname groupId memberId nickname with
    | error e => exact .same
    | ok s =>
      rw [updateMemberNickname_ok updated]
      exact .renamed _ _
  | createRoom | createRoomWithVisibility | setRoomMember | appendMessage =>
    rw [(sameAccounts prims store rfl).groupMembers]
    exact .same
  | setMemberBanned groupId memberId banned => exact .banned
  | rotateGroupToken groupId actor kind draw =>
    rcases settle_cases store .token
      (store.rotateGroupToken prims groupId actor kind draw) with ⟨e, h⟩ | ⟨token, s, ok, h⟩
    · rw [perform, h]
      exact .same
    · rw [perform, h]
      exact membersStep_rotated ok

/-! ## Bans and tokens -/

/-- `PRIMARY KEY(member_id)`. -/
def MemberIdsUnique (store : GatewayStore) : Prop :=
  (store.groupMembers.map MemberRow.memberId).Nodup

def IsBanned (store : GatewayStore) (groupId memberId : Uuid) : Prop :=
  ∃ m ∈ store.groupMembers, m.groupId = groupId ∧ m.memberId = memberId ∧ m.status = .banned

instance (store : GatewayStore) (groupId memberId : Uuid) :
    Decidable (store.IsBanned groupId memberId) :=
  inferInstanceAs (Decidable (∃ m ∈ store.groupMembers, _))

/-- The membership's row is found by this hash. -/
def IsCurrent (store : GatewayStore) (groupId memberId : Uuid) (hash : List UInt8) : Prop :=
  ∃ m ∈ store.groupMembers, m.groupId = groupId ∧ m.memberId = memberId ∧ m.credentialHash = hash

theorem MemberIdsUnique.eq (unique : store.MemberIdsUnique) {m m' : MemberRow}
    (hm : m ∈ store.groupMembers) (hm' : m' ∈ store.groupMembers)
    (same : m.memberId = m'.memberId) : m = m' :=
  List.inj_on_of_nodup_map unique hm hm' same

theorem MemberIdsUnique.memberHash_eq (unique : store.MemberIdsUnique) {g m : Uuid}
    {hash : List UInt8} (current : store.IsCurrent g m hash) : store.memberHash g m = hash := by
  obtain ⟨row, mem, rfl, rfl, rfl⟩ := current
  unfold memberHash findMember
  cases found : store.groupMembers.find? fun m =>
      m.groupId == row.groupId && m.memberId == row.memberId with
  | none => simpa using List.find?_eq_none.1 found row mem
  | some other =>
    have selected := List.find?_some found
    simp only [Bool.and_eq_true, beq_iff_eq] at selected
    rw [unique.eq (List.mem_of_find?_eq_some found) mem selected.2]
    rfl

theorem memberIdsUnique_perform (prims : Primitives) (unique : store.MemberIdsUnique)
    (op : StoreOp) :
    (store.perform prims op).2.MemberIdsUnique := by
  have step := membersStep prims store op
  unfold MemberIdsUnique at unique ⊢
  generalize (store.perform prims op).2.groupMembers = rows at step ⊢
  generalize (store.perform prims op).1 = reply at step
  have updated : ∀ (selects : MemberRow → Bool) (change : MemberRow → MemberRow),
      (∀ m, (change m).memberId = m.memberId) →
      ((Table.updateWhere selects change store.groupMembers).map MemberRow.memberId).Nodup := by
    intro selects change keeps
    rw [Table.map_updateWhere fun m _ _ => keeps m]
    exact unique
  cases step with
  | same => exact unique
  | renamed | banned | rotated => exact updated _ _ fun _ => rfl
  | added _ fresh =>
    rw [List.map_append, List.map_singleton]
    refine List.Nodup.append unique (List.nodup_singleton _) ?_
    simpa [eq_comm] using fresh

/-- **Only a ban bans**, and its reply says so. -/
theorem isBanned_perform (unique : store.MemberIdsUnique) {op : StoreOp} {g m : Uuid}
    (banned : (store.perform prims op).2.IsBanned g m) :
    store.IsBanned g m ∨
      (op = .setMemberBanned g m true ∧ (store.perform prims op).1 = .flag true) := by
  have step := membersStep prims store op
  obtain ⟨row, mem, group, member, status⟩ := banned
  generalize (store.perform prims op).2.groupMembers = rows at step mem
  generalize (store.perform prims op).1 = reply at step ⊢
  cases step with
  | same => exact .inl ⟨row, mem, group, member, status⟩
  | renamed =>
    rcases Table.mem_updateWhere.1 mem with ⟨mem, -⟩ | ⟨old, before, -, rfl⟩
    · exact .inl ⟨row, mem, group, member, status⟩
    · exact .inl ⟨old, before, group, member, status⟩
  | added active =>
    rcases List.mem_append.1 mem with mem | mem
    · exact .inl ⟨row, mem, group, member, status⟩
    · rw [List.mem_singleton.1 mem, active] at status
      cases status
  | rotated =>
    rcases Table.mem_updateWhere.1 mem with ⟨mem, -⟩ | ⟨old, before, -, rfl⟩
    · exact .inl ⟨row, mem, group, member, status⟩
    · exact .inl ⟨old, before, group, member, status⟩
  | @banned g' m' ban =>
    rcases Table.mem_updateWhere.1 mem with ⟨mem, -⟩ | ⟨old, before, selected, rfl⟩
    · exact .inl ⟨row, mem, group, member, status⟩
    · have ids := selected
      simp only [bannable, Bool.and_eq_true, beq_iff_eq] at ids
      obtain ⟨⟨rfl, rfl⟩, -⟩ := ids
      simp only at group member
      subst group member
      cases ban with
      | false => cases status
      | true =>
        refine .inr ⟨rfl, ?_⟩
        rw [Table.countP_eq_one unique before selected fun m' selected' => ?_]
        · rfl
        · simp only [bannable, Bool.and_eq_true, beq_iff_eq] at selected'
          exact selected'.1.2

/-- **Only a rotation by the member itself replaces its token.** -/
theorem isCurrent_perform {op : StoreOp} {g m : Uuid} {hash : List UInt8}
    (current : store.IsCurrent g m hash) :
    (store.perform prims op).2.IsCurrent g m hash ∨
      ∃ kind draw new, op = .rotateGroupToken g m kind draw ∧ kind ≠ .invite ∧
        (store.perform prims op).1 = .token new := by
  have step := membersStep prims store op
  obtain ⟨row, mem, group, member, hashed⟩ := current
  unfold IsCurrent
  generalize (store.perform prims op).2.groupMembers = rows at step ⊢
  generalize (store.perform prims op).1 = reply at step ⊢
  -- an update that keeps ids and hashes keeps the row's
  have kept : ∀ (selects : MemberRow → Bool) (change : MemberRow → MemberRow),
      (∀ m, (change m).groupId = m.groupId ∧ (change m).memberId = m.memberId ∧
        (change m).credentialHash = m.credentialHash) →
      ∃ row ∈ Table.updateWhere selects change store.groupMembers, row.groupId = g ∧
        row.memberId = m ∧ row.credentialHash = hash := by
    intro selects change keeps
    cases picked : selects row with
    | false => exact ⟨row, Table.mem_updateWhere.2 (.inl ⟨mem, picked⟩), group, member, hashed⟩
    | true =>
      obtain ⟨keepsGroup, keepsMember, keepsHash⟩ := keeps row
      exact ⟨change row, Table.mem_updateWhere.2 (.inr ⟨row, mem, picked, rfl⟩),
        keepsGroup.trans group, keepsMember.trans member, keepsHash.trans hashed⟩
  cases step with
  | same => exact .inl ⟨row, mem, group, member, hashed⟩
  | renamed | banned => exact .inl (kept _ _ fun _ => ⟨rfl, rfl, rfl⟩)
  | added => exact .inl ⟨row, List.mem_append_left _ mem, group, member, hashed⟩
  | @rotated g' actor kind draw new hash selects notInvite _ ofActor _ =>
    cases picked : selects row with
    | false => exact .inl ⟨row, Table.mem_updateWhere.2 (.inl ⟨mem, picked⟩), group, member, hashed⟩
    | true =>
      obtain ⟨rfl, rfl⟩ := ofActor row picked
      subst group member
      exact .inr ⟨kind, draw, new, rfl, notInvite, rfl⟩

/-- A rotation makes its token the member's. -/
theorem isCurrent_rotated {g m : Uuid} {kind : GroupTokenKind} {draw : Draw} {token : String}
    (notInvite : kind ≠ .invite)
    (reply : (store.perform prims (.rotateGroupToken g m kind draw)).1 = .token token) :
    (store.perform prims (.rotateGroupToken g m kind draw)).2.IsCurrent g m (tokenHash prims token) := by
  rcases settle_cases store .token
    (store.rotateGroupToken prims g m kind draw) with ⟨e, h⟩ | ⟨new, s, ok, h⟩
  · rw [perform, h] at reply
    cases reply
  · rw [perform, h] at reply ⊢
    cases reply
    obtain ⟨hash, hashed, -, ⟨row, mem, group, member, active, role⟩, wrote⟩ := rotateGroupToken_ok ok
    have replaced : ∀ (selects : MemberRow → Bool), selects row = true →
        { row with credentialHash := hash } ∈ Table.updateWhere selects
          (fun m => { m with credentialHash := hash }) store.groupMembers := fun selects picked =>
      Table.mem_updateWhere.2 (.inr ⟨row, mem, picked, rfl⟩)
    cases kind with
    | member =>
      simp only at wrote
      subst wrote
      exact ⟨_, replaced _ (by simp [group, member, active, role, rotatorRole]), group, member,
        (credentialHash_ok hashed).2⟩
    | admin =>
      simp only at wrote
      subst wrote
      exact ⟨_, replaced _ (by simp [group, member, role, rotatorRole]), group, member,
        (credentialHash_ok hashed).2⟩
    | invite => exact absurd rfl notInvite

/-- An active row is not a banned one. -/
theorem not_isBanned (unique : store.MemberIdsUnique) {m : MemberRow}
    (mem : m ∈ store.groupMembers) (active : m.status = .active) :
    ¬ store.IsBanned m.groupId m.memberId := by
  rintro ⟨m', mem', -, member, banned⟩
  rw [unique.eq mem' mem member, active] at banned
  cases banned

/-- **An admission** leaves its membership active, and found by the token it
was made with or has issued. -/
theorem authorizeJoin_admits (unique : store.MemberIdsUnique) {g : Uuid} {credential : Option String}
    {nickname : String} {draw : Draw} {role : GroupRole} {memberId : Uuid} {issued : Option String}
    (reply : (store.perform prims (.authorizeJoin g credential nickname draw)).1 =
      .authorization (.allowed role memberId issued)) :
    let store' := (store.perform prims (.authorizeJoin g credential nickname draw)).2
    ¬ store'.IsBanned g memberId ∧
      store'.IsCurrent g memberId (tokenHash prims (issued.getD (credential.getD ""))) := by
  have unique' := memberIdsUnique_perform prims unique
    (.authorizeJoin g credential nickname draw)
  rcases settle_cases store .authorization
    (store.authorizeJoin prims g credential nickname draw) with ⟨e, h⟩ | ⟨a, s, ok, h⟩
  · rw [perform, h] at reply
    cases reply
  · rw [perform, h] at reply unique' ⊢
    cases reply
    have admitted : ∃ m ∈ s.groupMembers, m.groupId = g ∧ m.memberId = memberId ∧
        m.status = .active ∧
        m.credentialHash = tokenHash prims (issued.getD (credential.getD "")) := by
      cases authorizeJoin_ok ok with
      | refused refusal => exact absurd rfl (refusal _ _ _)
      | @known token member supplied mem ofGroup hashed active =>
        subst supplied
        refine ⟨{ member with lastNickname := nickname },
          Table.mem_updateWhere.2 (.inr ⟨member, mem, ?_, rfl⟩), ofGroup, rfl, active,
          (credentialHash_ok hashed).2⟩
        simp [ofGroup]
      | administrator supplied hashed =>
        subst supplied
        exact ⟨_, List.mem_append_right _ (List.mem_singleton_self _), rfl, rfl, rfl,
          (credentialHash_ok hashed).2⟩
      | issued hashed =>
        exact ⟨_, List.mem_append_right _ (List.mem_singleton_self _), rfl, rfl, rfl,
          (credentialHash_ok hashed).2⟩
    obtain ⟨m, mem, rfl, rfl, active, hashed⟩ := admitted
    exact ⟨not_isBanned unique' mem active, m, mem, rfl, rfl, hashed⟩

/-- The creator of a group is admitted with its administrator token. -/
theorem createGroup_admits (unique : store.MemberIdsUnique) {name : String}
    {mode : GroupAccessMode} {draw : Draw} {created : CreatedGroup}
    (reply : (store.perform prims (.createGroupWithAccess name mode draw)).1 = .created created) :
    let store' := (store.perform prims (.createGroupWithAccess name mode draw)).2
    ¬ store'.IsBanned created.summary.groupId created.creatorMemberId ∧
      store'.IsCurrent created.summary.groupId created.creatorMemberId
        (tokenHash prims created.credentials.adminToken) := by
  have unique' := memberIdsUnique_perform prims unique
    (.createGroupWithAccess name mode draw)
  rcases settle_cases store .created
    (store.createGroupWithAccess prims name mode draw) with ⟨e, h⟩ | ⟨a, s, ok, h⟩
  · rw [perform, h] at reply
    cases reply
  · rw [perform, h] at reply unique' ⊢
    cases reply
    obtain ⟨hash, _, hashed, summary, -, creator, -, -, -, rfl⟩ := createGroupWithAccess_ok ok
    rw [summary, creator]
    have mem := List.mem_append_right store.groupMembers (List.mem_singleton_self
      ({ memberId := draw.id₂, groupId := draw.id, credentialHash := hash, role := .admin,
         status := .active, lastNickname := "administrator" } : MemberRow))
    exact ⟨not_isBanned unique' mem rfl, _, mem, rfl, rfl, (credentialHash_ok hashed).2⟩

end GatewayStore

end LanChat
