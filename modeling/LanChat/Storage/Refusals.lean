import LanChat.Storage.Caps

/-!
# Refused joins

A join that is refused leaves the store as it was, with one exception: an
approved request is used up before the cap of its group refuses the join.
-/

namespace LanChat

/-- Anything but `Allowed`. -/
def JoinAuthorization.refuses : JoinAuthorization → Bool
  | allowed _ _ _ => false
  | _ => true

namespace GatewayStore

/-- A hash by which `authorize_join` finds nothing but an approved request. -/
def standsForApproval (store : GatewayStore) (g : Uuid) (hash : List UInt8) : Bool :=
  !(store.groupMembers.any fun m => m.groupId == g && m.credentialHash == hash) &&
    (store.joinRequests.find? fun r => r.groupId == g && r.requestTokenHash == hash).any
      (·.status = .approved)

/-- The join spends an approved request on a group at its cap. -/
def spendsApproval (prims : Primitives) (store : GatewayStore) (g : Uuid)
    (credential : Option String) : Bool :=
  (store.findGroup g).any (·.accessMode = .approval) &&
    decide (maxGroupMembers ≤ store.groupMembers.countP (·.groupId == g)) &&
    credential.any fun token => store.standsForApproval g (tokenHash prims token)

variable {prims : Primitives} {store store' : GatewayStore} {g : Uuid} {credential : Option String}
  {nickname : String} {draw : Draw} {authorization : JoinAuthorization}

theorem issueMember_refuses
    (h : store.issueMember prims g nickname draw = .ok (authorization, store'))
    (refused : authorization.refuses = true) :
    store' = store ∧ maxGroupMembers ≤ store.groupMembers.countP (·.groupId == g) := by
  unfold issueMember at h
  split at h
  · rename_i full
    cases h
    exact ⟨rfl, full⟩
  · simp only [bind_eq_ok] at h
    obtain ⟨_, -, h⟩ := h
    cases h
    cases refused

/-- A deletion that selects a row changes the table. -/
theorem deleteWhere_ne {Row : Type} {selects : Row → Bool} {rows : List Row} {row : Row}
    (mem : row ∈ rows) (selected : selects row = true) : Table.deleteWhere selects rows ≠ rows := by
  intro same
  rw [← same, Table.deleteWhere, List.mem_filter, selected] at mem
  cases mem.2

/-- **The approval arm** uses up an approved request, also when the group is full. -/
theorem authorizeRequest_refuses {token : String} {hash : List UInt8}
    (h : store.authorizeRequest prims g token nickname hash draw = .ok (authorization, store'))
    (refused : authorization.refuses = true) :
    store' = store ↔ ¬ (maxGroupMembers ≤ store.groupMembers.countP (·.groupId == g) ∧
      (store.joinRequests.find? fun r => r.groupId == g && r.requestTokenHash == hash).any
        (·.status = .approved) = true) := by
  unfold authorizeRequest at h
  split at h
  · rename_i missing
    cases h
    simp [missing]
  · rename_i request found
    split at h
    · rename_i approved
      simp only [bind_eq_ok] at h
      obtain ⟨⟨decided, s⟩, issued, h⟩ := h
      cases h
      obtain ⟨rfl, full⟩ := issueMember_refuses issued refused
      have ofGroup : request.groupId = g := by
        have selected := List.find?_some found
        simp only [Bool.and_eq_true, beq_iff_eq] at selected
        exact selected.1
      have deleted : Table.deleteWhere
          (fun r => r.groupId == g && r.requestId == request.requestId) s.joinRequests ≠
            s.joinRequests :=
        deleteWhere_ne (List.mem_of_find?_eq_some found) (by simp [ofGroup])
      rw [found]
      refine iff_of_false (fun same => deleted (congrArg GatewayStore.joinRequests same)) ?_
      simp [full, approved]
    · rename_i pending
      cases h
      simp [found, pending]
    · rename_i rejected
      cases h
      simp [found, rejected]

/-- **A refused join changes nothing**, unless it spends an approved request on
a full group. -/
theorem refused_join_changes_nothing
    (h : store.authorizeJoin prims g credential nickname draw = .ok (authorization, store'))
    (refused : authorization.refuses = true) :
    store' = store ↔ store.spendsApproval prims g credential = false := by
  unfold authorizeJoin at h
  split at h
  · cases h
  · rename_i row found
    obtain ⟨-, ofGroup⟩ := findGroup_some found
    have mode : (store.findGroup g).any (·.accessMode = .approval) =
        decide (row.accessMode = .approval) := by rw [found]; rfl
    -- what is refused without a request leaves the store alone
    have unspent : ∀ {credential}, store' = store → row.accessMode ≠ .approval ∨ credential = none →
        (store' = store ↔ store.spendsApproval prims g credential = false) := by
      intro credential same other
      refine iff_of_true same ?_
      rw [spendsApproval, mode]
      rcases other with other | rfl
      · simp [other]
      · simp
    split at h
    · unfold authorizeByMode at h
      split at h
      case h_1 | h_4 | h_5 => simp_all
      case h_2 isPublic =>
        exact unspent (issueMember_refuses h refused).1 (.inr rfl)
      all_goals
        cases h
        exact unspent rfl (.inr rfl)
    · rename_i token
      simp only [bind_eq_ok] at h
      obtain ⟨hash, hashed, h⟩ := h
      obtain ⟨-, rfl⟩ := credentialHash_ok hashed
      split at h
      · rename_i member isMember
        split at h
        · cases h
          refine iff_of_true rfl ?_
          have held : (store.groupMembers.any fun m =>
              m.groupId == g && m.credentialHash == tokenHash prims token) = true := by
            have selected := List.find?_some isMember
            exact List.any_eq_true.2 ⟨member, List.mem_of_find?_eq_some isMember, selected⟩
          simp [spendsApproval, standsForApproval, held]
        · cases h
          cases refused
      · rename_i noMember
        split at h
        · simp only [bind_eq_ok] at h
          obtain ⟨_, -, h⟩ := h
          cases h
          cases refused
        · unfold authorizeByMode at h
          split at h
          case h_2 | h_3 | h_6 => simp_all
          case h_1 isPublic _ =>
            cases h
            exact unspent rfl (.inl (by simp [isPublic]))
          case h_4 invite _ =>
            split at h
            · exact unspent (issueMember_refuses h refused).1 (.inl (by simp [invite]))
            · cases h
              exact unspent rfl (.inl (by simp [invite]))
          case h_5 credential' hash' approval same supplied =>
            cases same
            cases supplied
            rw [ofGroup] at h
            rw [authorizeRequest_refuses h refused]
            have unheld : (store.groupMembers.any fun m =>
                m.groupId == g && m.credentialHash == tokenHash prims token) = false := by
              rw [List.any_eq_false]
              exact List.find?_eq_none.1 noMember
            simp [spendsApproval, standsForApproval, mode, approval, unheld]

theorem refused_join_changes_nothing_of_public : ∃ store',
    teamOfVersionTwo.migrate.authorizeJoin .checksummed ⟨1⟩ (some (generateCredential "request" 5))
        "Bob" (.numbered 9) = .ok (.invalidCredential, store') ∧
      store' = teamOfVersionTwo.migrate := by
  have refused : teamOfVersionTwo.migrate.authorizeJoin .checksummed ⟨1⟩
      (some (generateCredential "request" 5)) "Bob" (.numbered 9) =
        .ok (.invalidCredential, teamOfVersionTwo.migrate) := by decide +kernel
  exact ⟨_, refused, (refused_join_changes_nothing refused rfl).2 (by decide +kernel)⟩

/-! ## A full group with an approved request -/

/-- The refusal that uses up a request. -/
theorem authorizeJoin_full {row : GroupRow} {token : String} {request : JoinRequestRow}
    (found : store.findGroup g = some row) (mode : row.accessMode = .approval)
    (valid : isValidGroupCredential token = true)
    (noMember : ∀ m ∈ store.groupMembers, m.credentialHash ≠ tokenHash prims token)
    (notAdmin : row.adminTokenHash ≠ some (tokenHash prims token))
    (isRequest : store.joinRequests.find? (fun r => r.groupId == g &&
      r.requestTokenHash == tokenHash prims token) = some request)
    (approved : request.status = .approved)
    (full : maxGroupMembers ≤ store.groupMembers.countP (·.groupId == g)) :
    store.authorizeJoin prims g (some token) nickname draw = .ok (.memberLimit, { store with
      joinRequests := Table.deleteWhere
        (fun r => r.groupId == g && r.requestId == request.requestId) store.joinRequests }) := by
  have unheld : store.groupMembers.find? (fun m => m.groupId == g &&
      m.credentialHash == tokenHash prims token) = none := by
    rw [List.find?_eq_none]
    intro m mem selected
    simp only [Bool.and_eq_true, beq_iff_eq] at selected
    exact noMember m mem selected.2
  obtain ⟨-, ofGroup⟩ := findGroup_some found
  simp only [authorizeJoin, found, credentialHash_valid valid, ok_bind, unheld, if_neg notAdmin,
    authorizeByMode, mode, ofGroup, authorizeRequest, isRequest, approved, issueMember, if_pos full]

def approvedRequest : JoinRequestRow :=
  { requestId := ⟨5⟩, groupId := ⟨1⟩, nickname := "Bob",
    requestTokenHash := utf8Encode (generateCredential "request" 5), status := .approved,
    requestedAtMs := 0 }

def approvalTeam : GroupRow :=
  { groupId := ⟨1⟩, name := "team", accessMode := .approval,
    adminTokenHash := some (utf8Encode (generateCredential "admin" 2)), inviteTokenHash := none }

/-- The group at its cap, with the request approved. -/
def fullTeam : GatewayStore :=
  { crowded maxGroupMembers with groups := [approvalTeam], joinRequests := [approvedRequest] }

/-- **The refusal that changes something**: the approved request is gone. -/
theorem refused_join_spends_request : ¬ ∀ (store : GatewayStore) g credential nickname draw
    authorization store', store.authorizeJoin .checksummed g credential nickname draw =
      .ok (authorization, store') → authorization.refuses = true → store' = store := by
  intro claim
  have valid : isValidGroupCredential (generateCredential "request" 5) = true := by decide +kernel
  have members : fullTeam.groupMembers = (crowded maxGroupMembers).groupMembers := by
    rw [fullTeam]
  have noMember : ∀ m ∈ fullTeam.groupMembers,
      m.credentialHash ≠ tokenHash .checksummed (generateCredential "request" 5) := by
    intro m mem same
    obtain ⟨i, -, rfl⟩ := mem_crowded.1 (members ▸ mem)
    have decoded := congrArg utf8Decode same
    simp only [joined, tokenHash, Primitives.checksummed, utf8Decode_encode,
      Option.some.injEq] at decoded
    have letter := congrArg (fun token : String => token.toList[3]?) decoded
    simp [generateCredential] at letter
  have full : maxGroupMembers ≤ fullTeam.groupMembers.countP (·.groupId == ⟨1⟩) := by
    have count := memberCount_crowded maxGroupMembers
    rw [memberCount] at count
    rw [members, count]
  have found : fullTeam.findGroup ⟨1⟩ = some approvalTeam := rfl
  have isRequest : fullTeam.joinRequests.find? (fun r => r.groupId == ⟨1⟩ &&
      r.requestTokenHash == tokenHash .checksummed (generateCredential "request" 5)) =
        some approvedRequest := by
    change [approvedRequest].find? _ = _
    decide +kernel
  have joined := @authorizeJoin_full .checksummed fullTeam ⟨1⟩ "Bob" (.numbered 0) approvalTeam
    (generateCredential "request" 5) approvedRequest found rfl valid noMember (by decide +kernel)
    isRequest rfl full
  have refused := claim _ _ _ _ _ _ _ joined rfl
  have requests : Table.deleteWhere (fun r => r.groupId == ⟨1⟩ &&
      r.requestId == approvedRequest.requestId) fullTeam.joinRequests = fullTeam.joinRequests :=
    congrArg GatewayStore.joinRequests refused
  have waits : approvedRequest ∈ fullTeam.joinRequests := List.mem_singleton_self approvedRequest
  exact deleteWhere_ne waits rfl requests

end GatewayStore

end LanChat
