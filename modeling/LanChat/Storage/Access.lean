import LanChat.Storage.Tokens

/-!
# The access of an administrator

The administrator of a group is admitted by the token of the membership whatever
else is done at the store, until that token is rotated.
-/

namespace LanChat

/-- The group whose administrator's token an operation replaces. -/
def StoreOp.replacesAdmin : StoreOp → Option Uuid
  | rotateGroupToken groupId _ .admin _ => some groupId
  | _ => none

namespace GatewayStore

/-- The token of an administrator's membership. -/
def Administers (prims : Primitives) (store : GatewayStore) (g : Uuid) (token : String) : Prop :=
  isValidGroupCredential token = true ∧
    ∃ m ∈ store.memberTable, m.groupId = g ∧ m.role = .admin ∧ m.credentialHash = tokenHash prims token

variable {prims : Primitives} {store store' : GatewayStore} {op : StoreOp} {reply : StoreReply} {g : Uuid}
  {token : String}

theorem updateCredentialHash_free {hash : List UInt8} {selects : MemberRow → Bool} {s : GatewayStore}
    (h : s.updateCredentialHash g hash selects = .ok store') (selected : ∃ m ∈ s.groupMembers, selects m = true)
    {row : MemberRow} (mem : row ∈ s.groupMembers) (ofGroup : row.groupId = g) (other : selects row = false) :
    row.credentialHash ≠ hash := by
  unfold updateCredentialHash at h
  split at h
  · cases h
  · rename_i free
    intro same
    refine free ?_
    simp only [Bool.and_eq_true, List.any_eq_true, Bool.not_eq_true', beq_iff_eq]
    exact ⟨selected, row, mem, ⟨other, ofGroup⟩, same⟩

/-- A rotation replaces a hash by one that no other row of the group has. -/
theorem rotateGroupToken_fresh {actor : Uuid} {kind : GroupTokenKind} {draw : Draw} (notInvite : kind ≠ .invite)
    (h : store.rotateGroupToken prims g actor kind draw = .ok (token, store')) {m : Membership}
    (mem : m ∈ store.memberTable) (ofGroup : m.groupId = g) (other : replaces g actor kind m = false) :
    m.credentialHash ≠ tokenHash prims token := by
  obtain ⟨row, inRows, rfl⟩ := mem_memberTable.1 mem
  obtain ⟨-, -, -, ⟨own, ownRow, ownGroup, isActor, active, role⟩, -⟩ := rotateGroupToken_ok h
  simp only [rotateGroupToken, bind_eq_ok, ensure_eq_ok] at h
  obtain ⟨-, -, hash, hashed, h⟩ := h
  cases kind with
  | invite => exact absurd rfl notInvite
  | member =>
    simp only [bind_eq_ok] at h
    obtain ⟨s, updated, -, -, h⟩ := h
    cases h
    obtain ⟨-, rfl⟩ := credentialHash_ok hashed
    refine updateCredentialHash_free updated ⟨own, ownRow, ?_⟩ inRows ofGroup ?_
    · simp [ownGroup, isActor, active, role, rotatorRole]
    · simpa [replaces, rotates, MemberRow.membership, rotatorRole] using other
  | admin =>
    simp only [bind_eq_ok] at h
    obtain ⟨s, updated, h⟩ := h
    cases h
    obtain ⟨-, rfl⟩ := credentialHash_ok hashed
    refine updateCredentialHash_free updated ⟨own, ownRow, ?_⟩ inRows ofGroup ?_
    · simp [ownGroup, isActor, role, rotatorRole]
    · simpa [replaces, rotates, MemberRow.membership, rotatorRole] using other

/-- A row is found by its hash in its group. -/
def HashesUnique (rows : List Membership) : Prop :=
  ∀ m ∈ rows, ∀ m' ∈ rows, m.groupId = m'.groupId → m.credentialHash = m'.credentialHash → m = m'

theorem HashesUnique.append {rows : List Membership} (unique : HashesUnique rows) {row : Membership}
    (apart : ∀ m ∈ rows, m.groupId = row.groupId → m.credentialHash ≠ row.credentialHash) :
    HashesUnique (rows ++ [row]) := by
  intro m mem m' mem' group hash
  rcases List.mem_append.1 mem with before | new <;> rcases List.mem_append.1 mem' with before' | new'
  · exact unique m before m' before' group hash
  · obtain rfl := List.mem_singleton.1 new'
    exact absurd hash (apart m before group)
  · obtain rfl := List.mem_singleton.1 new
    exact absurd hash.symm (apart m' before' group.symm)
  · exact (List.mem_singleton.1 new).trans (List.mem_singleton.1 new').symm

/-- An update of other columns keeps the rows apart. -/
theorem HashesUnique.update {rows : List Membership} (unique : HashesUnique rows) {selects : Membership → Bool}
    {change : Membership → Membership}
    (keeps : ∀ m, (change m).groupId = m.groupId ∧ (change m).credentialHash = m.credentialHash) :
    HashesUnique (Table.updateWhere selects change rows) := by
  intro m mem m' mem' group hash
  rcases Table.mem_updateWhere.1 mem with ⟨before, skipped⟩ | ⟨old, before, selected, rfl⟩ <;>
    rcases Table.mem_updateWhere.1 mem' with ⟨before', skipped'⟩ | ⟨old', before', selected', rfl⟩
  · exact unique m before m' before' group hash
  · rw [(keeps old').1] at group
    rw [(keeps old').2] at hash
    obtain rfl := unique m before old' before' group hash
    rw [skipped] at selected'
    cases selected'
  · rw [(keeps old).1] at group
    rw [(keeps old).2] at hash
    obtain rfl := unique old before m' before' group hash
    rw [skipped'] at selected
    cases selected
  · rw [(keeps old).1, (keeps old').1] at group
    rw [(keeps old).2, (keeps old').2] at hash
    rw [unique old before old' before' group hash]

/-- One row gets a hash that no other row of its group has. -/
theorem HashesUnique.rehash {rows : List Membership} (unique : HashesUnique rows) {selects : Membership → Bool}
    {g : Uuid} {hash : List UInt8} (one : ∀ m ∈ rows, ∀ m' ∈ rows, selects m = true → selects m' = true → m = m')
    (ofGroup : ∀ m, selects m = true → m.groupId = g)
    (free : ∀ m ∈ rows, m.groupId = g → selects m = false → m.credentialHash ≠ hash) :
    HashesUnique (Table.updateWhere selects (fun m => { m with credentialHash := hash }) rows) := by
  intro m mem m' mem' group same
  rcases Table.mem_updateWhere.1 mem with ⟨before, skipped⟩ | ⟨old, before, selected, rfl⟩ <;>
    rcases Table.mem_updateWhere.1 mem' with ⟨before', skipped'⟩ | ⟨old', before', selected', rfl⟩
  · exact unique m before m' before' group same
  · exact absurd same (free m before (group.trans (ofGroup old' selected')) skipped)
  · exact absurd same.symm (free m' before' (group.symm.trans (ofGroup old selected)) skipped')
  · rw [one old before old' before' selected selected']

/-- What the constraints of the table keep. -/
structure MembersSound (store : GatewayStore) : Prop where
  memberIds : store.MemberIdsUnique
  hashes : HashesUnique store.memberTable
  grouped : ∀ m ∈ store.memberTable, store.hasGroup m.groupId = true
  active : ∀ m ∈ store.memberTable, m.role = .admin → m.status = .active

/-- The reply of a rotation is the token it has drawn. -/
theorem rotateGroupToken_of_reply {actor : Uuid} {kind : GroupTokenKind} {draw : Draw}
    (reply : (store.perform prims (.rotateGroupToken g actor kind draw)).1 = .token token) :
    ∃ s, store.rotateGroupToken prims g actor kind draw = .ok (token, s) := by
  rcases settle_cases store .token (store.rotateGroupToken prims g actor kind draw) with ⟨e, h⟩ | ⟨other, s, ok, h⟩
  · rw [perform, h] at reply
    cases reply
  · rw [perform, h] at reply
    cases reply
    exact ⟨s, ok⟩

theorem MembersSound.hashes_perform (sound : store.MembersSound) (prims : Primitives) (op : StoreOp) :
    HashesUnique (store.perform prims op).2.memberTable := by
  have step := credentialStep prims store op
  generalize replied : (store.perform prims op).1 = reply at step
  generalize (store.perform prims op).2 = store' at step ⊢
  cases step with
  | same _ _ _ members | full _ _ _ _ members | requested _ _ _ _ _ _ _ members
  | decided _ _ members | rotatedInvite _ _ _ _ _ _ members =>
    rw [members]
    exact sound.hashes
  | created _ _ _ _ free _ _ _ members =>
    rw [members]
    refine sound.hashes.append fun m mem group => ?_
    obtain ⟨row, inGroups, ofGroup⟩ := hasGroup_iff.1 (sound.grouped m mem)
    exact absurd (ofGroup.trans group) (free row inGroups)
  | administrator _ _ _ apart _ _ members | admitted _ _ _ _ _ apart _ _ members =>
    rw [members]
    exact sound.hashes.append fun m mem => (apart m mem).2
  | banned _ _ members =>
    rw [members]
    exact sound.hashes.update fun m => ⟨rfl, rfl⟩
  | rotated notInvite _ _ _ _ _ members =>
    rw [members]
    obtain ⟨_, rotated⟩ := rotateGroupToken_of_reply replied
    refine sound.hashes.rehash (fun m mem m' mem' selected selected' => ?_)
      (fun m selected => (ids_of_replaces selected).1)
      (fun m mem group other => rotateGroupToken_fresh notInvite rotated mem group other)
    have same := (ids_of_replaces selected).2.trans (ids_of_replaces selected').2.symm
    exact sound.memberIds.eq_of_memberId mem mem' same

theorem MembersSound.active_perform (sound : store.MembersSound) (prims : Primitives) (op : StoreOp) {m : Membership}
    (mem : m ∈ (store.perform prims op).2.memberTable) (role : m.role = .admin) : m.status = .active := by
  have step := credentialStep prims store op
  generalize (store.perform prims op).1 = reply at step
  generalize (store.perform prims op).2 = store' at step mem
  cases step with
  | same _ _ _ members | full _ _ _ _ members | requested _ _ _ _ _ _ _ members
  | decided _ _ members | rotatedInvite _ _ _ _ _ _ members =>
    rw [members] at mem
    exact sound.active m mem role
  | created _ _ _ _ _ _ _ _ members | administrator _ _ _ _ _ _ members
  | admitted _ _ _ _ _ _ _ _ members =>
    rw [members] at mem
    rcases List.mem_append.1 mem with before | new
    · exact sound.active m before role
    · rw [List.mem_singleton.1 new]
  | banned _ _ members =>
    rw [members] at mem
    rcases Table.mem_updateWhere.1 mem with ⟨before, -⟩ | ⟨old, before, selected, rfl⟩
    · exact sound.active m before role
    · -- a ban passes administrators by
      replace role : old.role = .admin := role
      simp [role] at selected
  | rotated _ _ _ _ _ _ members =>
    rw [members] at mem
    rcases Table.mem_updateWhere.1 mem with ⟨before, -⟩ | ⟨old, before, -, rfl⟩
    · exact sound.active m before role
    · exact sound.active old before role

/-- **Every operation keeps the table sound.** -/
theorem MembersSound.perform (sound : store.MembersSound) (prims : Primitives) (op : StoreOp) :
    (store.perform prims op).2.MembersSound where
  memberIds := memberIdsUnique_perform prims sound.memberIds op
  hashes := sound.hashes_perform prims op
  grouped _ mem := (credentialStep prims store op).grouped sound.grouped (fun _ => hasGroup_perform op) mem
  active _ mem role := sound.active_perform prims op mem role

/-! ## The administrator -/

/-- **The token of an administrator admits** to the administrator's membership. -/
theorem Administers.admitted (administers : store.Administers prims g token) (sound : store.MembersSound)
    (nickname : String) (draw : Draw) :
    ∃ memberId after, store.authorizeJoin prims g (some token) nickname draw =
      .ok (.allowed .admin memberId none, after) := by
  obtain ⟨valid, m, mem, ofGroup, role, hash⟩ := administers
  have active := sound.active m mem role
  obtain ⟨row, inGroups⟩ := findGroup_of_hasGroup (sound.grouped m mem)
  rw [ofGroup] at inGroups
  cases isMember : store.groupMembers.find? fun other =>
      other.groupId == g && other.credentialHash == tokenHash prims token with
  | none =>
    obtain ⟨own, ownRow, rfl⟩ := mem_memberTable.1 mem
    have missed := List.find?_eq_none.1 isMember own ownRow
    simp only [MemberRow.membership] at ofGroup hash
    simp [ofGroup, hash] at missed
  | some other =>
    have selected := List.find?_some isMember
    simp only [Bool.and_eq_true, beq_iff_eq] at selected
    have same : other.membership = m := sound.hashes _
      (mem_memberTable.2 ⟨other, List.mem_of_find?_eq_some isMember, rfl⟩) m mem
      (selected.1.trans ofGroup.symm) (selected.2.trans hash.symm)
    have isAdmin : other.role = .admin := (congrArg Membership.role same).trans role
    have isActive : other.status = .active := (congrArg Membership.status same).trans active
    refine ⟨other.memberId, store.setNickname g other.memberId nickname, ?_⟩
    simp only [authorizeJoin, inGroups, credentialHash_valid valid, ok_bind, isMember, isActive, isAdmin]
    rfl

/-- **An administrator stays one** by the same token, unless the operation replaces it. -/
theorem Administers.perform (administers : store.Administers prims g token) (op : StoreOp)
    (kept : op.replacesAdmin ≠ some g) : (store.perform prims op).2.Administers prims g token := by
  obtain ⟨valid, m, mem, ofGroup, role, hash⟩ := administers
  refine ⟨valid, ?_⟩
  have stays : ∀ {rows : List Membership}, m ∈ rows →
      ∃ m ∈ rows, m.groupId = g ∧ m.role = .admin ∧ m.credentialHash = tokenHash prims token :=
    fun there => ⟨m, there, ofGroup, role, hash⟩
  have step := credentialStep prims store op
  generalize (store.perform prims op).1 = reply at step
  generalize (store.perform prims op).2 = store' at step ⊢
  cases step with
  | same _ _ _ members | full _ _ _ _ members | requested _ _ _ _ _ _ _ members
  | decided _ _ members | rotatedInvite _ _ _ _ _ _ members =>
    rw [members]
    exact stays mem
  | created _ _ _ _ _ _ _ _ members | administrator _ _ _ _ _ _ members
  | admitted _ _ _ _ _ _ _ _ members =>
    rw [members]
    exact stays (List.mem_append_left _ mem)
  | banned _ _ members =>
    rw [members]
    exact stays (Table.mem_updateWhere.2 (.inl ⟨mem, by simp [role]⟩))
  | @rotated g' actor kind _ _ _ notInvite _ _ _ _ _ members =>
    rw [members]
    refine stays (Table.mem_updateWhere.2 (.inl ⟨mem, ?_⟩))
    cases kind with
    | admin =>
      have other : g ≠ g' := fun same => kept (congrArg some same.symm)
      simp [replaces, rotates, ofGroup, other]
    | member => simp [replaces, rotates, rotatorRole, role]
    | invite => exact absurd rfl notInvite

/-- A rotation makes its token the administrator's. -/
theorem administers_rotated {actor : Uuid} {draw : Draw}
    (h : store.rotateGroupToken prims g actor .admin draw = .ok (token, store')) :
    store'.Administers prims g token := by
  obtain ⟨hash, hashed, -, ⟨m, mem, ofGroup, isActor, -, role⟩, wrote⟩ := rotateGroupToken_ok h
  obtain ⟨valid, rfl⟩ := credentialHash_ok hashed
  simp only at wrote
  subst wrote
  let now : MemberRow := { m with credentialHash := tokenHash prims token }
  refine ⟨valid, now.membership, mem_memberTable.2 ⟨now, Table.mem_updateWhere.2 (.inr ⟨m, mem, ?_, rfl⟩), rfl⟩,
    ofGroup, role, rfl⟩
  simp [ofGroup, isActor, role, rotatorRole]

/-! ## Operations that leave the administrator's token alone -/

/-- Some operations lead from one store to the other, none of which replaces an administrator's token. -/
inductive Quiet (prims : Primitives) (store : GatewayStore) : GatewayStore → Prop where
  | refl : Quiet prims store store
  | step {store' : GatewayStore} (before : Quiet prims store store') (op : StoreOp)
      (kept : op.replacesAdmin = none) : Quiet prims store (store'.perform prims op).2

theorem Quiet.sound (quiet : Quiet prims store store') (sound : store.MembersSound) : store'.MembersSound := by
  induction quiet with
  | refl => exact sound
  | step _ op _ ih => exact ih.perform prims op

theorem Quiet.administers (quiet : Quiet prims store store') (administers : store.Administers prims g token) :
    store'.Administers prims g token := by
  induction quiet with
  | refl => exact administers
  | step _ op kept ih => exact ih.perform op (by simp [kept])

/-- An operation that succeeds, as one of the store. -/
theorem Quiet.settled {α : Type} {reply : α → StoreReply} {result : Except StoreError (α × GatewayStore)} {a : α}
    (quiet : Quiet prims store store') {after : GatewayStore} (ok : result = .ok (a, after)) (op : StoreOp)
    (performed : store'.perform prims op = store'.settle reply result) (kept : op.replacesAdmin = none) :
    Quiet prims store after := by
  have next := quiet.step op kept
  rwa [performed, ok] at next

end GatewayStore

end LanChat
