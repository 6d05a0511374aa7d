import LanChat.Storage.Memberships
import LanChat.Storage.Rooms

/-!
# Credentials over a run of the store

What one operation does to the three tables that hold credential hashes
(`CredentialStep`): groups, memberships and join requests. A reply may hand a
token to a holder, or take one back (`StoreOp.issues`). Every law about tokens
is proved by cases on this step.
-/

namespace LanChat

/-- Who holds a token of a group: a membership, everybody who has been given the
invite token, or the author of a join request, which its token names. -/
inductive Holder where
  | member (memberId : Uuid)
  | invite
  | request (token : String)
deriving DecidableEq, Repr

namespace StoreOp

/-- The credentials an operation may draw. -/
def tokens : StoreOp → List String
  | createGroup _ draw => [generateCredential "admin" draw.random]
  | createGroupWithAccess _ accessMode draw => generateCredential "admin" draw.random ::
    if accessMode = .invite then [generateCredential "invite" draw.random₂] else []
  | authorizeJoin _ _ _ draw => [generateCredential "member" draw.random]
  | createJoinRequest _ _ draw => [generateCredential "request" draw.random]
  | rotateGroupToken _ _ kind draw => [generateCredential kind.asStr draw.random]
  | _ => []

/-- A join takes the request token it is made with back. -/
def consumes (groupId : Uuid) (credential : Option String) : List (Uuid × Holder × Option String) :=
  credential.toList.map fun token => (groupId, .request token, none)

/-- What a reply says about tokens: a holder of a group has a new one, or none. -/
def issues : StoreOp → StoreReply → List (Uuid × Holder × Option String)
  | createGroup _ draw, .group (some summary) =>
    [(summary.groupId, .member draw.id₂, some (generateCredential "admin" draw.random))]
  | createGroupWithAccess _ _ _, .created created =>
    (created.summary.groupId, .member created.creatorMemberId, some created.credentials.adminToken) ::
      created.credentials.inviteToken.toList.map fun token =>
        (created.summary.groupId, .invite, some token)
  | authorizeJoin groupId credential _ _, .authorization (.allowed _ memberId (some token)) =>
    (groupId, .member memberId, some token) :: consumes groupId credential
  | authorizeJoin groupId credential _ _, .authorization .memberLimit => consumes groupId credential
  | createJoinRequest groupId _ _, .request _ token => [(groupId, .request token, some token)]
  | rotateGroupToken groupId _ .invite _, .token token => [(groupId, .invite, some token)]
  | rotateGroupToken groupId actor _ _, .token token => [(groupId, .member actor, some token)]
  | _, _ => []

end StoreOp

/-- A membership row without the nickname. -/
structure Membership where
  memberId : Uuid
  groupId : Uuid
  credentialHash : List UInt8
  role : GroupRole
  status : GroupMemberStatus
deriving DecidableEq, Repr

def MemberRow.membership (row : MemberRow) : Membership :=
  { memberId := row.memberId, groupId := row.groupId, credentialHash := row.credentialHash,
    role := row.role, status := row.status }

namespace GatewayStore

variable {prims : Primitives} {store store' : GatewayStore}

def memberTable (store : GatewayStore) : List Membership :=
  store.groupMembers.map MemberRow.membership

theorem mem_memberTable {m : Membership} :
    m ∈ store.memberTable ↔ ∃ row ∈ store.groupMembers, row.membership = m := List.mem_map

theorem memberTable_setNickname (g m : Uuid) (nickname : String) :
    (store.setNickname g m nickname).memberTable = store.memberTable :=
  Table.map_updateWhere fun _ _ _ => rfl

/-- An update of the rows is one of the memberships. -/
theorem memberTable_update {selects : MemberRow → Bool} {change : MemberRow → MemberRow}
    {selects' : Membership → Bool} {change' : Membership → Membership}
    (agrees : ∀ row : MemberRow, selects row = selects' row.membership)
    (changes : ∀ row : MemberRow, (change row).membership = change' row.membership)
    (rows : List MemberRow) :
    (Table.updateWhere selects change rows).map MemberRow.membership =
      Table.updateWhere selects' change' (rows.map MemberRow.membership) := by
  simp only [Table.updateWhere, List.map_map]
  refine List.map_congr_left fun row _ => ?_
  simp only [Function.comp_apply, ← agrees, ← changes]
  split <;> rfl

/-! ## Joining -/

/-- How a join without a membership of its own may enter: the group is public,
or the credential is its invite token, or that of an approved request. -/
inductive Enters (prims : Primitives) (store : GatewayStore) (row : GroupRow) :
    Option String → Option JoinRequestRow → Prop where
  | isPublic (mode : row.accessMode = .isPublic) : Enters prims store row none none
  | invited {token : String} {hash : List UInt8} (mode : row.accessMode = .invite)
      (hashed : credentialHash prims token = .ok hash) (current : row.inviteTokenHash = some hash) :
      Enters prims store row (some token) none
  | approved {token : String} {request : JoinRequestRow} (mode : row.accessMode = .approval)
      (mem : request ∈ store.joinRequests) (ofGroup : request.groupId = row.groupId)
      (hashed : credentialHash prims token = .ok request.requestTokenHash)
      (status : request.status = .approved) : Enters prims store row (some token) (some request)

/-- The requests without one that has been used. -/
def withoutRequest (store : GatewayStore) (g : Uuid) : Option JoinRequestRow → List JoinRequestRow
  | none => store.joinRequests
  | some request =>
    Table.deleteWhere (fun r => r.groupId == g && r.requestId == request.requestId) store.joinRequests

/-- **How a join is decided**, with the request it uses up. -/
inductive JoinCase (prims : Primitives) (store : GatewayStore) (g : Uuid)
    (credential : Option String) (nickname : String) (draw : Draw) :
    JoinAuthorization → GatewayStore → Prop where
  | refused {authorization : JoinAuthorization}
      (refusal : ∀ role memberId token, authorization ≠ .allowed role memberId token)
      (notFull : authorization ≠ .memberLimit) :
      JoinCase prims store g credential nickname draw authorization store
  | known {token : String} {member : MemberRow} (supplied : credential = some token)
      (mem : member ∈ store.groupMembers) (ofGroup : member.groupId = g)
      (hashed : credentialHash prims token = .ok member.credentialHash)
      (active : member.status = .active) :
      JoinCase prims store g credential nickname draw (.allowed member.role member.memberId none)
        (store.setNickname g member.memberId nickname)
  | administrator {token : String} {hash : List UInt8} {row : GroupRow}
      (supplied : credential = some token) (hashed : credentialHash prims token = .ok hash)
      (found : store.findGroup g = some row) (current : row.adminTokenHash = some hash)
      (fresh : ∀ m ∈ store.groupMembers, m.memberId ≠ draw.id ∧
        (m.groupId = g → m.credentialHash ≠ hash)) :
      JoinCase prims store g credential nickname draw (.allowed .admin draw.id none)
        { store with groupMembers := store.groupMembers ++ [
          { memberId := draw.id, groupId := g, credentialHash := hash, role := .admin,
            status := .active, lastNickname := nickname }] }
  | full {row : GroupRow} {request : Option JoinRequestRow} (found : store.findGroup g = some row)
      (enters : Enters prims store row credential request)
      (many : maxGroupMembers ≤ store.groupMembers.countP (·.groupId == g)) :
      JoinCase prims store g credential nickname draw .memberLimit
        { store with joinRequests := store.withoutRequest g request }
  | issued {row : GroupRow} {request : Option JoinRequestRow} {hash : List UInt8}
      (found : store.findGroup g = some row) (enters : Enters prims store row credential request)
      (few : store.groupMembers.countP (·.groupId == g) < maxGroupMembers)
      (hashed : credentialHash prims (generateCredential "member" draw.random) = .ok hash)
      (fresh : ∀ m ∈ store.groupMembers, m.memberId ≠ draw.id ∧
        (m.groupId = g → m.credentialHash ≠ hash)) :
      JoinCase prims store g credential nickname draw
        (.allowed .member draw.id (some (generateCredential "member" draw.random)))
        { store with
          groupMembers := store.groupMembers ++ [
            { memberId := draw.id, groupId := g, credentialHash := hash, role := .member,
              status := .active, lastNickname := nickname }],
          joinRequests := store.withoutRequest g request }

section
variable {g : Uuid} {credential : Option String} {nickname : String} {draw : Draw}
  {authorization : JoinAuthorization} {row : GroupRow}

theorem issueMember_requests
    (h : store.issueMember prims g nickname draw = .ok (authorization, store')) :
    store'.joinRequests = store.joinRequests := by
  unfold issueMember at h
  split at h
  · cases h
    rfl
  · simp only [bind_eq_ok] at h
    obtain ⟨_, inserted, h⟩ := h
    obtain ⟨_, -, -, -, wrote⟩ := insertGroupMember_ok inserted
    cases h
    rw [wrote]

theorem issueMember_cases (found : store.findGroup g = some row) {request : Option JoinRequestRow}
    (enters : Enters prims store row credential request)
    (h : store.issueMember prims g nickname draw = .ok (authorization, store')) :
    JoinCase prims store g credential nickname draw authorization
      { store' with joinRequests := store.withoutRequest g request } := by
  unfold issueMember at h
  split at h
  · rename_i many
    cases h
    exact .full found enters many
  · rename_i few
    simp only [bind_eq_ok] at h
    obtain ⟨⟨memberId, s⟩, inserted, h⟩ := h
    obtain ⟨hash, hashed, rfl, fresh, rfl⟩ := insertGroupMember_ok inserted
    cases h
    exact .issued found enters (Nat.lt_of_not_le few) hashed fresh

theorem authorizeRequest_cases (found : store.findGroup g = some row)
    (mode : row.accessMode = .approval) {token : String} {hash : List UInt8}
    (hashed : credentialHash prims token = .ok hash)
    (h : store.authorizeRequest prims g token nickname hash draw = .ok (authorization, store')) :
    JoinCase prims store g (some token) nickname draw authorization store' := by
  unfold authorizeRequest at h
  split at h
  · cases h
    exact .refused nofun nofun
  · rename_i request isRequest
    have selected := List.find?_some isRequest
    simp only [Bool.and_eq_true, beq_iff_eq] at selected
    obtain ⟨ofGroup, rfl⟩ := selected
    obtain ⟨-, same⟩ := findGroup_some found
    split at h
    · rename_i status
      simp only [bind_eq_ok] at h
      obtain ⟨⟨authorization, s⟩, issued, h⟩ := h
      have enters : Enters prims store row (some token) (some request) :=
        .approved mode (List.mem_of_find?_eq_some isRequest) (ofGroup.trans same.symm) hashed status
      have decided := issueMember_cases found enters issued
      cases h
      rw [issueMember_requests issued]
      exact decided
    · cases h
      exact .refused nofun nofun
    · cases h
      exact .refused nofun nofun

theorem authorizeByMode_cases (found : store.findGroup g = some row) {hash : Option (List UInt8)}
    (hashed : ∀ token, credential = some token → ∃ h, hash = some h ∧ credentialHash prims token = .ok h)
    (h : store.authorizeByMode prims row credential hash nickname draw = .ok (authorization, store')) :
    JoinCase prims store g credential nickname draw authorization store' := by
  obtain ⟨-, rfl⟩ := findGroup_some found
  unfold authorizeByMode at h
  split at h
  · cases h
    exact .refused nofun nofun
  · rename_i mode
    have decided := issueMember_cases found (.isPublic mode) h
    rwa [withoutRequest, ← issueMember_requests h] at decided
  · cases h
    exact .refused nofun nofun
  · rename_i mode
    split at h
    · rename_i matched
      obtain ⟨given, rfl, isHash⟩ := hashed _ rfl
      have current : some given = row.inviteTokenHash := by simpa using matched
      have decided := issueMember_cases found (.invited mode isHash current.symm) h
      rwa [withoutRequest, ← issueMember_requests h] at decided
    · cases h
      exact .refused nofun nofun
  · rename_i token given mode
    obtain ⟨given', same, hashed⟩ := hashed token rfl
    cases same
    exact authorizeRequest_cases found mode hashed h
  · cases h
    exact .refused nofun nofun

/-- **What `authorize_join` can do.** -/
theorem authorizeJoin_cases
    (h : store.authorizeJoin prims g credential nickname draw = .ok (authorization, store')) :
    JoinCase prims store g credential nickname draw authorization store' := by
  unfold authorizeJoin at h
  split at h
  · cases h
  · rename_i row found
    split at h
    · exact authorizeByMode_cases found (by simp) h
    · rename_i token
      simp only [bind_eq_ok] at h
      obtain ⟨hash, hashed, h⟩ := h
      split at h
      · rename_i member isMember
        have selected := List.find?_some isMember
        simp only [Bool.and_eq_true, beq_iff_eq] at selected
        obtain ⟨group, rfl⟩ := selected
        split at h
        · cases h
          exact .refused (by simp) (by simp)
        · rename_i active
          cases h
          refine .known rfl (List.mem_of_find?_eq_some isMember) group hashed ?_
          cases status : member.status
          · rfl
          · exact absurd status active
      · split at h
        · rename_i current
          simp only [bind_eq_ok] at h
          obtain ⟨⟨memberId, s⟩, inserted, h⟩ := h
          obtain ⟨hash', hashed', rfl, fresh, rfl⟩ := insertGroupMember_ok inserted
          cases h
          rw [hashed] at hashed'
          cases hashed'
          exact .administrator rfl hashed found current fresh
        · refine authorizeByMode_cases found (fun other same => ?_) h
          cases same
          exact ⟨hash, rfl, hashed⟩

end

/-! ## Requests -/

theorem createJoinRequest_cases {g : Uuid} {nickname : String} {draw : Draw} {request : Uuid × String}
    (h : store.createJoinRequest prims g nickname draw = .ok (request, store')) :
    ∃ row hash, store.findGroup g = some row ∧ row.accessMode = .approval ∧
      store.joinRequests.countP (fun r => r.groupId == g && r.status == .pending) <
        maxPendingJoinRequests ∧
      credentialHash prims (generateCredential "request" draw.random) = .ok hash ∧
      request = (draw.id, generateCredential "request" draw.random) ∧
      (∀ r ∈ store.joinRequests, r.requestId ≠ draw.id) ∧
      store' = { store with joinRequests := store.joinRequests ++ [
        { requestId := draw.id, groupId := g, nickname, requestTokenHash := hash,
          status := .pending, requestedAtMs := draw.nowMsI64 }] } := by
  simp only [createJoinRequest, bind_eq_ok, ensure_eq_ok] at h
  obtain ⟨-, mode, -, few, hash, hashed, s, inserted, h⟩ := h
  obtain ⟨row, found, mode⟩ := (Option.any_eq_true _ _).1 mode
  cases h
  obtain ⟨fresh, wrote⟩ := insertJoinRequest_ok inserted
  exact ⟨row, hash, found, of_decide_eq_true mode, of_decide_eq_true few, hashed, rfl, fresh, wrote⟩

/-- The request a decision is about, if it is pending. -/
def awaitsDecision (g requestId : Uuid) (r : JoinRequestRow) : Bool :=
  r.groupId == g && r.requestId == requestId && r.status == .pending

def JoinRequestRow.decided (approve : Bool) (r : JoinRequestRow) : JoinRequestRow :=
  { r with status := if approve then .approved else .rejected }

/-! ## One step -/

/-- The membership a rotation by the actor changes. -/
def rotates (g actor : Uuid) (role : GroupRole) (m : Membership) : Bool :=
  m.groupId == g && m.memberId == actor && m.role == role

/-- The memberships whose token a rotation by the actor replaces. -/
def replaces (g actor : Uuid) (kind : GroupTokenKind) (m : Membership) : Bool :=
  rotates g actor (rotatorRole kind) m && (kind == .admin || m.status == .active)

/-- **What an operation with its reply does to the credentials.** -/
inductive CredentialStep (prims : Primitives) (store : GatewayStore) :
    StoreOp → StoreReply → GatewayStore → Prop where
  | same {op : StoreOp} {reply : StoreReply} {store' : GatewayStore} (quiet : op.issues reply = [])
      (groups : store'.groups = store.groups) (requests : store'.joinRequests = store.joinRequests)
      (members : store'.memberTable = store.memberTable) : CredentialStep prims store op reply store'
  | created {op : StoreOp} {reply : StoreReply} {store' : GatewayStore} {group : GroupRow}
      {creator : Uuid} {admin : String} {invite : Option String}
      (issued : op.issues reply = (group.groupId, .member creator, some admin) ::
        invite.toList.map fun token => (group.groupId, .invite, some token))
      (drawn : op.tokens = admin :: invite.toList)
      (adminHash : group.adminTokenHash = some (tokenHash prims admin))
      (inviteHash : group.inviteTokenHash = invite.map (tokenHash prims))
      (free : ∀ g ∈ store.groups, g.groupId ≠ group.groupId)
      (fresh : ∀ m ∈ store.memberTable, m.memberId ≠ creator)
      (groups : store'.groups = store.groups ++ [group])
      (requests : store'.joinRequests = store.joinRequests)
      (members : store'.memberTable = store.memberTable ++ [
        { memberId := creator, groupId := group.groupId, credentialHash := tokenHash prims admin,
          role := .admin, status := .active }]) : CredentialStep prims store op reply store'
  | administrator {g : Uuid} {token nickname : String} {draw : Draw} {row : GroupRow}
      {store' : GatewayStore} (valid : isValidGroupCredential token = true)
      (found : store.findGroup g = some row)
      (current : row.adminTokenHash = some (tokenHash prims token))
      (fresh : ∀ m ∈ store.memberTable, m.memberId ≠ draw.id ∧
        (m.groupId = g → m.credentialHash ≠ tokenHash prims token))
      (groups : store'.groups = store.groups) (requests : store'.joinRequests = store.joinRequests)
      (members : store'.memberTable = store.memberTable ++ [
        { memberId := draw.id, groupId := g, credentialHash := tokenHash prims token,
          role := .admin, status := .active }]) :
      CredentialStep prims store (.authorizeJoin g (some token) nickname draw)
        (.authorization (.allowed .admin draw.id none)) store'
  | full {g : Uuid} {credential : Option String} {nickname : String} {draw : Draw} {row : GroupRow}
      {request : Option JoinRequestRow} {store' : GatewayStore}
      (found : store.findGroup g = some row) (enters : Enters prims store row credential request)
      (groups : store'.groups = store.groups)
      (requests : store'.joinRequests = store.withoutRequest g request)
      (members : store'.memberTable = store.memberTable) :
      CredentialStep prims store (.authorizeJoin g credential nickname draw)
        (.authorization .memberLimit) store'
  | admitted {g : Uuid} {credential : Option String} {nickname token : String} {draw : Draw}
      {row : GroupRow} {request : Option JoinRequestRow} {store' : GatewayStore}
      (generated : token = generateCredential "member" draw.random)
      (valid : isValidGroupCredential token = true) (found : store.findGroup g = some row)
      (enters : Enters prims store row credential request)
      (few : store.memberTable.countP (·.groupId == g) < maxGroupMembers)
      (fresh : ∀ m ∈ store.memberTable, m.memberId ≠ draw.id ∧
        (m.groupId = g → m.credentialHash ≠ tokenHash prims token))
      (groups : store'.groups = store.groups)
      (requests : store'.joinRequests = store.withoutRequest g request)
      (members : store'.memberTable = store.memberTable ++ [
        { memberId := draw.id, groupId := g, credentialHash := tokenHash prims token,
          role := .member, status := .active }]) :
      CredentialStep prims store (.authorizeJoin g credential nickname draw)
        (.authorization (.allowed .member draw.id (some token))) store'
  | requested {g : Uuid} {nickname token : String} {draw : Draw} {row : GroupRow}
      {store' : GatewayStore} (generated : token = generateCredential "request" draw.random)
      (valid : isValidGroupCredential token = true) (found : store.findGroup g = some row)
      (mode : row.accessMode = .approval)
      (few : store.joinRequests.countP (fun r => r.groupId == g && r.status == .pending) <
        maxPendingJoinRequests)
      (groups : store'.groups = store.groups)
      (requests : store'.joinRequests = store.joinRequests ++ [
        { requestId := draw.id, groupId := g, nickname, requestTokenHash := tokenHash prims token,
          status := .pending, requestedAtMs := draw.nowMsI64 }])
      (members : store'.memberTable = store.memberTable)
      (freshId : ∀ r ∈ store.joinRequests, r.requestId ≠ draw.id) :
      CredentialStep prims store (.createJoinRequest g nickname draw) (.request draw.id token) store'
  | decided {g requestId : Uuid} {approve : Bool} {store' : GatewayStore}
      (groups : store'.groups = store.groups)
      (requests : store'.joinRequests = Table.updateWhere (awaitsDecision g requestId)
        (JoinRequestRow.decided approve) store.joinRequests)
      (members : store'.memberTable = store.memberTable) :
      CredentialStep prims store (.decideJoinRequest g requestId approve)
        (.flag (store.joinRequests.countP (awaitsDecision g requestId) = 1)) store'
  | banned {g m : Uuid} {ban : Bool} {reply : StoreReply} {store' : GatewayStore}
      (groups : store'.groups = store.groups) (requests : store'.joinRequests = store.joinRequests)
      (members : store'.memberTable = Table.updateWhere
        (fun row => row.groupId == g && row.memberId == m && row.role != .admin)
        (fun row => { row with status := if ban then .banned else .active }) store.memberTable) :
      CredentialStep prims store (.setMemberBanned g m ban) reply store'
  | rotated {g actor : Uuid} {kind : GroupTokenKind} {draw : Draw} {token : String}
      {store' : GatewayStore} (notInvite : kind ≠ .invite)
      (generated : token = generateCredential kind.asStr draw.random)
      (valid : isValidGroupCredential token = true)
      (actorRow : ∃ m ∈ store.memberTable, rotates g actor (rotatorRole kind) m = true ∧
        m.status = .active)
      (groups : store'.groups = match kind with
        | .admin => Table.updateWhere (·.groupId == g)
            (fun row => { row with adminTokenHash := some (tokenHash prims token) }) store.groups
        | _ => store.groups)
      (requests : store'.joinRequests = store.joinRequests)
      (members : store'.memberTable = Table.updateWhere
        (replaces g actor kind) (fun m => { m with credentialHash := tokenHash prims token }) store.memberTable) :
      CredentialStep prims store (.rotateGroupToken g actor kind draw) (.token token) store'
  | rotatedInvite {g actor : Uuid} {draw : Draw} {token : String} {store' : GatewayStore}
      (generated : token = generateCredential "invite" draw.random)
      (valid : isValidGroupCredential token = true)
      (actorRow : ∃ m ∈ store.memberTable, rotates g actor .admin m = true ∧ m.status = .active)
      (inviteGroup : ∃ row ∈ store.groups, row.groupId = g ∧ row.accessMode = .invite)
      (groups : store'.groups = Table.updateWhere
        (fun row => row.groupId == g && row.accessMode == .invite)
        (fun row => { row with inviteTokenHash := some (tokenHash prims token) }) store.groups)
      (requests : store'.joinRequests = store.joinRequests)
      (members : store'.memberTable = store.memberTable) :
      CredentialStep prims store (.rotateGroupToken g actor .invite draw) (.token token) store'

theorem issues_failed (op : StoreOp) (error : StoreError) : op.issues (.failed error) = [] := by
  cases op with
  | rotateGroupToken _ _ kind => cases kind <;> rfl
  | _ => rfl

/-- A failed operation. -/
theorem CredentialStep.failed (op : StoreOp) (error : StoreError) :
    CredentialStep prims store op (.failed error) store :=
  .same (issues_failed op error) rfl rfl rfl

theorem fresh_memberTable {id g : Uuid} {hash : List UInt8}
    (fresh : ∀ m ∈ store.groupMembers, m.memberId ≠ id ∧ (m.groupId = g → m.credentialHash ≠ hash)) :
    ∀ m ∈ store.memberTable, m.memberId ≠ id ∧ (m.groupId = g → m.credentialHash ≠ hash) := by
  intro m mem
  obtain ⟨row, inRows, rfl⟩ := mem_memberTable.1 mem
  exact fresh row inRows

theorem countP_memberTable (g : Uuid) :
    store.memberTable.countP (·.groupId == g) = store.groupMembers.countP (·.groupId == g) := by
  rw [memberTable, List.countP_map]
  rfl

theorem optionalHash_ok {token : Option String} {hash : Option (List UInt8)}
    (h : optionalHash prims token = .ok hash) : hash = token.map (tokenHash prims) := by
  cases token with
  | none =>
    cases h
    rfl
  | some token =>
    simp only [optionalHash] at h
    cases hashed : credentialHash prims token with
    | error e =>
      rw [hashed] at h
      cases h
    | ok hash =>
      rw [hashed] at h
      cases h
      rw [(credentialHash_ok hashed).2]
      rfl

theorem credentialStep_created {name : String} {mode : GroupAccessMode} {draw : Draw}
    {created : CreatedGroup} {op : StoreOp} {reply : StoreReply}
    (issued : op.issues reply =
      (created.summary.groupId, .member created.creatorMemberId, some created.credentials.adminToken) ::
        created.credentials.inviteToken.toList.map fun token =>
          (created.summary.groupId, .invite, some token))
    (drawn : op.tokens = generateCredential "admin" draw.random ::
      if mode = .invite then [generateCredential "invite" draw.random₂] else [])
    (h : store.createGroupWithAccess prims name mode draw = .ok (created, store')) :
    CredentialStep prims store op reply store' := by
  simp only [createGroupWithAccess, bind_eq_ok, ensure_eq_ok] at h
  obtain ⟨-, -, adminHash, hashed, inviteHash, invited, s₁, group, s₂, room, s₃, member, h⟩ := h
  obtain ⟨free, rfl⟩ := insertGroup_ok group
  obtain ⟨-, -, -, rfl⟩ := insertRoom_ok room
  obtain ⟨-, fresh, rfl⟩ := insertMember_ok member
  cases h
  obtain ⟨-, rfl⟩ := credentialHash_ok hashed
  refine .created issued ?_ rfl (optionalHash_ok invited) (fun g mem => (free g mem).1)
    (fun m mem => (fresh_memberTable fresh m mem).1) rfl rfl ?_
  · rw [drawn]
    split <;> rfl
  · rw [memberTable, List.map_append]
    rfl

theorem credentialStep_authorized {g : Uuid} {credential : Option String} {nickname : String} {draw : Draw}
    {authorization : JoinAuthorization}
    (ok : store.authorizeJoin prims g credential nickname draw = .ok (authorization, store')) :
    CredentialStep prims store (.authorizeJoin g credential nickname draw)
      (.authorization authorization) store' := by
  cases authorizeJoin_cases ok with
  | refused refusal notFull =>
    refine .same ?_ rfl rfl rfl
    cases authorization with
    | allowed role m token => exact absurd rfl (refusal role m token)
    | memberLimit => exact absurd rfl notFull
    | _ => rfl
  | known => exact .same rfl rfl rfl (memberTable_setNickname _ _ _)
  | administrator supplied hashed found current fresh =>
    subst supplied
    obtain ⟨valid, rfl⟩ := credentialHash_ok hashed
    refine .administrator valid found current (fresh_memberTable fresh) rfl rfl ?_
    rw [memberTable, List.map_append]
    rfl
  | full found enters => exact .full found enters rfl rfl rfl
  | issued found enters few hashed fresh =>
    obtain ⟨valid, rfl⟩ := credentialHash_ok hashed
    refine .admitted rfl valid found enters ?_ (fresh_memberTable fresh) rfl rfl ?_
    · rwa [countP_memberTable]
    · rw [memberTable, List.map_append]
      rfl

theorem credentialStep_rotated {g actor : Uuid} {kind : GroupTokenKind} {draw : Draw} {token : String}
    (ok : store.rotateGroupToken prims g actor kind draw = .ok (token, store')) :
    CredentialStep prims store (.rotateGroupToken g actor kind draw) (.token token) store' := by
  obtain ⟨hash, hashed, generated, ⟨m, mem, rfl, rfl, active, role⟩, wrote⟩ := rotateGroupToken_ok ok
  obtain ⟨valid, rfl⟩ := credentialHash_ok hashed
  have actorRow : ∃ row ∈ store.memberTable,
      rotates m.groupId m.memberId (rotatorRole kind) row = true ∧ row.status = .active :=
    ⟨m.membership, mem_memberTable.2 ⟨m, mem, rfl⟩,
      by simp [rotates, MemberRow.membership, role], active⟩
  cases kind with
  | member =>
    simp only at wrote
    subst wrote
    refine .rotated (by simp) generated valid actorRow rfl rfl
      (memberTable_update ?_ ?_ store.groupMembers) <;> exact fun _ => rfl
  | admin =>
    simp only at wrote
    subst wrote
    refine .rotated (by simp) generated valid actorRow rfl rfl
      (memberTable_update (fun row => ?_) (fun _ => rfl) store.groupMembers)
    simp [replaces, rotates, MemberRow.membership, rotatorRole]
  | invite =>
    simp only at wrote
    subst wrote
    exact .rotatedInvite generated valid actorRow (rotateGroupToken_inviteGroup ok) rfl rfl rfl

/-- **What an operation does to the credentials.** -/
theorem credentialStep (prims : Primitives) (store : GatewayStore) (op : StoreOp) :
    CredentialStep prims store op (store.perform prims op).1 (store.perform prims op).2 := by
  have accounts := @sameAccounts prims store op
  cases op with
  | listGroups | group | pendingJoinRequests | rooms | roomsForMember | memberCanAccessRoom
  | groupMembers | memberCanManageRoom | roomMembers | history | historyBefore =>
    exact .same rfl rfl rfl rfl
  | decideJoinRequest groupId requestId approve => exact .decided rfl rfl rfl
  | gatewayId draw =>
    simp only [perform, gatewayId]
    split <;> exact .same rfl rfl rfl rfl
  | createGroup name draw =>
    simp only [perform, GatewayStore.createGroup]
    cases creation : store.createGroupWithAccess prims name .isPublic draw with
    | error e => exact .failed _ e
    | ok success =>
      obtain ⟨_, _, -, summary, admin, creator, -, -, -, -⟩ := createGroupWithAccess_ok creation
      refine credentialStep_created ?_ rfl creation
      have noInvite : success.1.credentials.inviteToken = none := by
        simp only [createGroupWithAccess, bind_eq_ok] at creation
        obtain ⟨-, -, _, -, _, -, _, -, _, -, _, -, creation⟩ := creation
        cases creation
        rfl
      rw [noInvite, admin, creator]
      rfl
  | createGroupWithAccess name mode draw =>
    rcases settle_cases store .created
      (store.createGroupWithAccess prims name mode draw) with ⟨e, h⟩ | ⟨created, s, ok, h⟩
    · rw [perform, h]
      exact .failed _ e
    · rw [perform, h]
      exact credentialStep_created rfl rfl ok
  | authorizeJoin groupId credential nickname draw =>
    rcases settle_cases store .authorization
      (store.authorizeJoin prims groupId credential nickname draw) with ⟨e, h⟩ | ⟨a, s, ok, h⟩
    · rw [perform, h]
      exact .failed _ e
    · rw [perform, h]
      exact credentialStep_authorized ok
  | createJoinRequest groupId nickname draw =>
    simp only [perform]
    cases created : store.createJoinRequest prims groupId nickname draw with
    | error e => exact .failed _ e
    | ok success =>
      obtain ⟨issued, s⟩ := success
      obtain ⟨row, hash, found, mode, few, hashed, rfl, freshId, rfl⟩ := createJoinRequest_cases created
      obtain ⟨valid, rfl⟩ := credentialHash_ok hashed
      exact .requested rfl valid found mode few rfl rfl rfl freshId
  | updateMemberNickname groupId memberId nickname =>
    simp only [perform]
    cases updated : store.updateMemberNickname groupId memberId nickname with
    | error e => exact .failed _ e
    | ok s =>
      rw [updateMemberNickname_ok updated]
      exact .same rfl rfl rfl (memberTable_setNickname _ _ _)
  | createRoom | createRoomWithVisibility | setRoomMember | appendMessage =>
    obtain ⟨groups, requests, members⟩ := accounts rfl
    exact .same rfl groups requests (congrArg (List.map MemberRow.membership) members)
  | setMemberBanned groupId memberId ban =>
    refine .banned rfl rfl (memberTable_update ?_ ?_ store.groupMembers) <;> exact fun _ => rfl
  | rotateGroupToken groupId actor kind draw =>
    rcases settle_cases store .token
      (store.rotateGroupToken prims groupId actor kind draw) with ⟨e, h⟩ | ⟨token, s, ok, h⟩
    · rw [perform, h]
      exact .failed _ e
    · rw [perform, h]
      exact credentialStep_rotated ok

/-- **What an operation does to the join requests** alone. -/
inductive RequestsStep (prims : Primitives) (store : GatewayStore) :
    StoreOp → StoreReply → List JoinRequestRow → Prop where
  | fewer {op : StoreOp} {reply : StoreReply} {rows : List JoinRequestRow}
      (sub : rows.Sublist store.joinRequests) : RequestsStep prims store op reply rows
  | decided {g requestId : Uuid} {approve : Bool} :
      RequestsStep prims store (.decideJoinRequest g requestId approve)
        (.flag (store.joinRequests.countP (awaitsDecision g requestId) = 1))
        (Table.updateWhere (awaitsDecision g requestId) (JoinRequestRow.decided approve)
          store.joinRequests)
  | requested {g : Uuid} {nickname token : String} {draw : Draw}
      (generated : token = generateCredential "request" draw.random)
      (valid : isValidGroupCredential token = true)
      (few : store.joinRequests.countP (fun r => r.groupId == g && r.status == .pending) <
        maxPendingJoinRequests)
      (freshId : ∀ r ∈ store.joinRequests, r.requestId ≠ draw.id) :
      RequestsStep prims store (.createJoinRequest g nickname draw) (.request draw.id token)
        (store.joinRequests ++ [
          { requestId := draw.id, groupId := g, nickname, requestTokenHash := tokenHash prims token,
            status := .pending, requestedAtMs := draw.nowMsI64 }])

theorem withoutRequest_sublist (g : Uuid) (request : Option JoinRequestRow) :
    (store.withoutRequest g request).Sublist store.joinRequests := by
  cases request with
  | none => exact List.Sublist.refl _
  | some used => exact List.filter_sublist

theorem CredentialStep.requestsStep {op : StoreOp} {reply : StoreReply}
    (step : CredentialStep prims store op reply store') :
    RequestsStep prims store op reply store'.joinRequests := by
  cases step with
  | same _ _ requests | created _ _ _ _ _ _ _ requests | administrator _ _ _ _ _ requests
  | banned _ requests | rotated _ _ _ _ _ requests | rotatedInvite _ _ _ _ _ requests =>
    rw [requests]
    exact .fewer (List.Sublist.refl _)
  | full _ _ _ requests | admitted _ _ _ _ _ _ _ requests =>
    rw [requests]
    exact .fewer (withoutRequest_sublist _ _)
  | decided _ requests =>
    rw [requests]
    exact .decided
  | requested generated valid _ _ few _ requests _ freshId =>
    rw [requests]
    exact .requested generated valid few freshId

end GatewayStore

end LanChat
