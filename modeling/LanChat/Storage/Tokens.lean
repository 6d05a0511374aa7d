import LanChat.Storage.Ledger

/-!
# The life of a token

What the accounts of a run decide: the token the ledger has for a membership
opens that membership and nothing else, and a token the ledger no longer has
for a group opens nothing there.
-/

namespace LanChat

open GatewayStore

/-- What a join with the token of a membership is told. -/
def MemberRow.authorization (row : MemberRow) : JoinAuthorization :=
  if row.status = .banned then .banned else .allowed row.role row.memberId none

namespace GatewayStore

variable {prims : Primitives} {store store' : GatewayStore} {trace : List (StoreOp × StoreReply)}
  {drawn : List String}

theorem credentialHash_valid {token : String} (valid : isValidGroupCredential token = true) :
    credentialHash prims token = .ok (tokenHash prims token) := by
  simp [credentialHash, valid]

theorem findGroup_of_hasGroup {g : Uuid} (known : store.hasGroup g = true) :
    ∃ row, store.findGroup g = some row := by
  obtain ⟨row, mem, group⟩ := hasGroup_iff.1 known
  rw [← Option.isSome_iff_exists, findGroup, List.find?_isSome]
  exact ⟨row, mem, by simp [group]⟩

/-- The membership a join finds has the token of its ledger entry, and the
other way around. -/
theorem Audited.member_iff (inj : TokenHashInjective prims) (audited : Audited prims trace drawn store)
    {row : MemberRow} (mem : row ∈ store.groupMembers) {token : String}
    (valid : isValidGroupCredential token = true) :
    row.credentialHash = tokenHash prims token ↔
      Ledger.ofTrace trace row.groupId (.member row.memberId) = some token := by
  obtain ⟨own, entry, hashed⟩ :=
    audited.accounts.members row.membership (mem_memberTable.2 ⟨row, mem, rfl⟩)
  have ownValid := audited.sound.valid (audited.sound.origin entry)
  replace entry : Ledger.ofTrace trace row.groupId (.member row.memberId) = some own := entry
  replace hashed : row.credentialHash = tokenHash prims own := hashed
  rw [entry, hashed, Option.some.injEq]
  exact ⟨inj own token ownValid valid, congrArg _⟩

theorem Audited.authorizeJoin_member (inj : TokenHashInjective prims)
    (audited : Audited prims trace drawn store) {row : MemberRow} (mem : row ∈ store.groupMembers)
    {token : String} (entry : Ledger.ofTrace trace row.groupId (.member row.memberId) = some token)
    (nickname : String) (draw : Draw) :
    store.authorizeJoin prims row.groupId (some token) nickname draw = .ok (row.authorization,
      if row.status = .banned then store
      else store.setNickname row.groupId row.memberId nickname) := by
  have valid := audited.sound.valid (audited.sound.origin entry)
  obtain ⟨group, found⟩ := findGroup_of_hasGroup
    (audited.accounts.grouped row.membership (mem_memberTable.2 ⟨row, mem, rfl⟩))
  have hashed := (audited.member_iff inj mem valid).2 entry
  -- the ledger has one holder for a token, so no other row of the group is found
  have isMember : store.groupMembers.find? (fun m =>
      m.groupId == row.groupId && m.credentialHash == tokenHash prims token) = some row := by
    cases lookup : store.groupMembers.find? (fun m =>
        m.groupId == row.groupId && m.credentialHash == tokenHash prims token) with
    | none =>
      have := List.find?_eq_none.1 lookup row mem
      simp [hashed] at this
    | some other =>
      have selected := List.find?_some lookup
      simp only [Bool.and_eq_true, beq_iff_eq] at selected
      have inRows := List.mem_of_find?_eq_some lookup
      have otherEntry := (audited.member_iff inj inRows valid).1 selected.2
      have same := (audited.sound.once (audited.sound.origin otherEntry)
        (audited.sound.origin entry)).2
      rw [audited.accounts.memberIds.eq inRows mem (Holder.member.inj same)]
  replace found : store.findGroup row.groupId = some group := found
  simp only [authorizeJoin, found, credentialHash_valid valid, ok_bind, isMember,
    MemberRow.authorization]
  by_cases banned : row.status = .banned <;> simp [banned]

/-- A token that opens nothing: it is no membership's, no administrator's, no
invite token and no request's. -/
theorem authorizeJoin_invalid {g : Uuid} {token : String} (known : store.hasGroup g = true)
    (valid : isValidGroupCredential token = true)
    (noMember : ∀ row ∈ store.groupMembers, row.groupId = g → row.credentialHash ≠ tokenHash prims token)
    (noGroup : ∀ row ∈ store.groups, row.groupId = g →
      row.adminTokenHash ≠ some (tokenHash prims token) ∧
      row.inviteTokenHash ≠ some (tokenHash prims token))
    (noRequest : ∀ r ∈ store.joinRequests, r.groupId = g → r.requestTokenHash ≠ tokenHash prims token)
    (nickname : String) (draw : Draw) :
    store.authorizeJoin prims g (some token) nickname draw = .ok (.invalidCredential, store) := by
  obtain ⟨group, found⟩ := findGroup_of_hasGroup known
  obtain ⟨inGroups, ofGroup⟩ := findGroup_some found
  obtain ⟨notAdmin, notInvite⟩ := noGroup group inGroups ofGroup
  have memberLookup : store.groupMembers.find? (fun m =>
      m.groupId == g && m.credentialHash == tokenHash prims token) = none := by
    simpa using noMember
  have requestLookup : store.joinRequests.find? (fun r =>
      r.groupId == g && r.requestTokenHash == tokenHash prims token) = none := by
    simpa using noRequest
  simp only [authorizeJoin, found, credentialHash_valid valid, ok_bind, memberLookup]
  rw [if_neg notAdmin]
  unfold authorizeByMode
  cases mode : group.accessMode with
  | isPublic => rfl
  | invite => simp [Ne.symm notInvite]
  | approval => simp [authorizeRequest, ofGroup, requestLookup]

section
variable {g : Uuid} {nickname : String} {draw : Draw}

/-- A malformed credential is an error. -/
theorem authorizeJoin_valid {token : String} {result : JoinAuthorization × GatewayStore}
    (h : store.authorizeJoin prims g (some token) nickname draw = .ok result) :
    isValidGroupCredential token = true := by
  unfold authorizeJoin at h
  split at h
  · cases h
  · simp only [bind_eq_ok] at h
    obtain ⟨hash, hashed, -⟩ := h
    exact (credentialHash_ok hashed).1

theorem issueMember_not_banned :
    store.issueMember prims g nickname draw ≠ .ok (.banned, store') := by
  intro h
  unfold issueMember at h
  split at h
  · cases h
  · simp only [bind_eq_ok] at h
    obtain ⟨_, -, h⟩ := h
    cases h

theorem authorizeRequest_not_banned {token : String} {hash : List UInt8} :
    store.authorizeRequest prims g token nickname hash draw ≠ .ok (.banned, store') := by
  intro h
  unfold authorizeRequest at h
  split at h
  · cases h
  · split at h
    · simp only [bind_eq_ok] at h
      obtain ⟨⟨authorization, s⟩, joined, h⟩ := h
      cases h
      exact issueMember_not_banned joined
    · cases h
    · cases h

theorem authorizeByMode_not_banned {row : GroupRow} {credential : Option String}
    {hash : Option (List UInt8)} :
    store.authorizeByMode prims row credential hash nickname draw ≠ .ok (.banned, store') := by
  intro h
  unfold authorizeByMode at h
  split at h
  · cases h
  · exact issueMember_not_banned h
  · cases h
  · split at h
    · exact issueMember_not_banned h
    · cases h
  · exact authorizeRequest_not_banned h
  · cases h

/-- Only the token of a banned membership is told so. -/
theorem authorizeJoin_banned {token : String}
    (h : store.authorizeJoin prims g (some token) nickname draw = .ok (.banned, store')) :
    ∃ row ∈ store.groupMembers, row.groupId = g ∧ row.status = .banned ∧
      isValidGroupCredential token = true ∧ row.credentialHash = tokenHash prims token := by
  unfold authorizeJoin at h
  split at h
  · cases h
  · simp only [bind_eq_ok] at h
    obtain ⟨hash, hashed, h⟩ := h
    obtain ⟨valid, rfl⟩ := credentialHash_ok hashed
    split at h
    · rename_i row isMember
      have selected := List.find?_some isMember
      simp only [Bool.and_eq_true, beq_iff_eq] at selected
      split at h
      · rename_i banned
        exact ⟨row, List.mem_of_find?_eq_some isMember, selected.1, banned, valid, selected.2⟩
      · cases h
    · split at h
      · simp only [bind_eq_ok] at h
        obtain ⟨_, -, h⟩ := h
        cases h
      · exact absurd h authorizeByMode_not_banned

end

/-- A token the ledger does not have for the group opens nothing there. -/
theorem Audited.authorizeJoin_gone (inj : TokenHashInjective prims)
    (audited : Audited prims trace drawn store) {g : Uuid} {token : String}
    (valid : isValidGroupCredential token = true)
    (gone : ∀ holder, Ledger.ofTrace trace g holder ≠ some token) (known : store.hasGroup g = true)
    (nickname : String) (draw : Draw) :
    store.authorizeJoin prims g (some token) nickname draw = .ok (.invalidCredential, store) := by
  refine authorizeJoin_invalid known valid ?_ ?_ ?_ nickname draw
  · rintro row mem rfl hashed
    exact gone _ ((audited.member_iff inj mem valid).1 hashed)
  · rintro row mem rfl
    constructor
    · intro current
      obtain ⟨m, inTable, group, -, hashed⟩ := audited.accounts.admins row mem
      obtain ⟨member, inRows, rfl⟩ := mem_memberTable.1 inTable
      refine gone (.member member.memberId) ?_
      rw [← group]
      refine (audited.member_iff inj inRows valid).1 (Option.some.inj (hashed.symm.trans current))
    · intro current
      have invite := audited.accounts.invites row mem
      rw [current] at invite
      obtain ⟨own, entry, hashed⟩ := Option.map_eq_some_iff.1 invite.symm
      obtain rfl := inj own token (audited.sound.valid (audited.sound.origin entry)) valid hashed
      exact gone _ entry
  · rintro r mem rfl hashed
    exact gone _ (audited.accounts.request_entry inj audited.sound mem valid hashed)

/-- **What a holder has lost it does not get back.** -/
theorem ledger_retired (inj : TokenHashInjective prims) (key : BitVec 256) {ops₁ ops₂ : List StoreOp}
    (fresh : FreshTokens (ops₁ ++ ops₂)) {g : Uuid} {holder : Holder} {token : String} :
    let before := ((GatewayStore.empty key).performAll prims ops₁).1
    let after := ((GatewayStore.empty key).performAll prims (ops₁ ++ ops₂)).1
    Issued before g holder token → Issued after g holder token ∧
      (Ledger.ofTrace after g holder = some token → Ledger.ofTrace before g holder = some token) := by
  intro before after issued
  induction ops₂ using List.reverseRecOn with
  | nil =>
    simp only [before, after, List.append_nil] at issued ⊢
    exact ⟨issued, id⟩
  | append_singleton ops op ih =>
    rw [← List.append_assoc] at fresh
    obtain ⟨earlier, -, apart⟩ := fresh.concat
    obtain ⟨grown, kept⟩ := ih earlier
    simp only [after, ← List.append_assoc, performAll_concat]
    refine ⟨issued_concat.2 (.inl grown), fun entry => ?_⟩
    rw [Ledger.ofTrace_concat] at entry
    rcases Ledger.post_some entry with now | old
    · -- a new token is not one that was drawn before
      have drawn := (audited_performAll inj key earlier).sound.drawn grown
      exact absurd drawn (apart token ((credentialStep prims _ op).issuesDrawn.drawn _ _ _ now))
    · exact kept old

end GatewayStore

open GatewayStore in
/-- **The life of a token.** After any operations on an empty store, a join with
a token finds a membership exactly if the token is the last one it has been
issued: an active membership joins as itself, a banned one is turned away, and
neither is added. What was issued and rotated away, given back, or issued by
another group, is invalid from then on. -/
theorem token_lifecycle (prims : Primitives) (inj : TokenHashInjective prims) (key : BitVec 256)
    (ops : List StoreOp) (fresh : FreshTokens ops) (g : Uuid) (token nickname : String) (draw : Draw) :
    let run := (GatewayStore.empty key).performAll prims ops
    let ledger := Ledger.ofTrace run.1
    let join := run.2.authorizeJoin prims g (some token) nickname draw
    (∀ id, ledger g (.member id) = some token →
      ∃ row ∈ run.2.groupMembers, row.groupId = g ∧ row.memberId = id) ∧
    (∀ row ∈ run.2.groupMembers, row.groupId = g → row.status = .active →
      (join = .ok (.allowed row.role row.memberId none, run.2.setNickname g row.memberId nickname) ↔
        ledger g (.member row.memberId) = some token)) ∧
    (join = .ok (.banned, run.2) ↔ ∃ row ∈ run.2.groupMembers, row.groupId = g ∧
      row.status = .banned ∧ ledger g (.member row.memberId) = some token) ∧
    (∀ role id store', join = .ok (.allowed role id none, store') →
      ∃ row ∈ run.2.groupMembers, row.groupId = g ∧ row.status = .active ∧ row.role = role ∧
        row.memberId = id ∧ ledger g (.member id) = some token) ∧
    ∀ ops₁ ops₂ g' holder, ops = ops₁ ++ ops₂ →
      let before := ((GatewayStore.empty key).performAll prims ops₁).1
      Issued before g' holder token →
      g' ≠ g ∨ Ledger.ofTrace before g' holder ≠ some token →
      run.2.hasGroup g = true → join = .ok (.invalidCredential, run.2) := by
  intro run ledger join
  have audited : Audited prims run.1 (ops.flatMap StoreOp.tokens) run.2 :=
    audited_performAll inj key fresh
  have found : ∀ {role id store'}, join = .ok (.allowed role id none, store') →
      ∃ row ∈ run.2.groupMembers, row.groupId = g ∧ row.status = .active ∧ row.role = role ∧
        row.memberId = id ∧ ledger g (.member id) = some token := by
    intro role id store' joined
    cases authorizeJoin_cases joined with
    | refused refusal => exact absurd rfl (refusal _ _ _)
    | known supplied mem ofGroup hashed active =>
      cases supplied
      obtain ⟨valid, hashed⟩ := credentialHash_ok hashed
      have entry := (audited.member_iff inj mem valid).1 hashed
      rw [ofGroup] at entry
      exact ⟨_, mem, ofGroup, active, rfl, rfl, entry⟩
    | administrator _ _ isGroup current fresh =>
      obtain ⟨m, inTable, group, -, hashed⟩ := audited.accounts.admins.holder isGroup current
      exact absurd hashed ((fresh_memberTable fresh m inTable).2 group)
  refine ⟨?_, ?_, ?_, fun _ _ _ => found, ?_⟩
  · intro id entry
    obtain ⟨m, inTable, group, member⟩ := audited.accounts.holders entry
    obtain ⟨row, mem, rfl⟩ := mem_memberTable.1 inTable
    exact ⟨row, mem, group, member⟩
  · rintro row mem rfl active
    constructor
    · intro joined
      obtain ⟨_, -, -, -, -, -, entry⟩ := found joined
      exact entry
    · intro entry
      have joined := audited.authorizeJoin_member inj mem entry nickname draw
      simpa [MemberRow.authorization, active] using joined
  · constructor
    · intro joined
      obtain ⟨row, mem, rfl, banned, valid, hashed⟩ := authorizeJoin_banned joined
      exact ⟨row, mem, rfl, banned, (audited.member_iff inj mem valid).1 hashed⟩
    · rintro ⟨row, mem, rfl, banned, entry⟩
      have joined := audited.authorizeJoin_member inj mem entry nickname draw
      simpa [MemberRow.authorization, banned] using joined
  · rintro ops₁ ops₂ g' holder rfl before issued lost known
    obtain ⟨stillIssued, kept⟩ := ledger_retired inj key fresh issued
    refine audited.authorizeJoin_gone inj (audited.sound.valid stillIssued) ?_ known nickname draw
    intro holder' entry
    obtain ⟨rfl, rfl⟩ := audited.sound.once (audited.sound.origin entry) stillIssued
    rcases lost with other | lost
    · exact other rfl
    · exact lost (kept entry)

theorem tokenHashInjective_checksummed : TokenHashInjective .checksummed := by
  intro token token' _ _ same
  have decoded := congrArg utf8Decode same
  simpa [tokenHash, Primitives.checksummed] using decoded

/-- An invite group whose administrator's token is rotated. -/
def adminRotated : List StoreOp :=
  [.createGroupWithAccess "team" .invite (.numbered 1), .rotateGroupToken ⟨1⟩ ⟨2⟩ .admin (.numbered 3)]

theorem token_lifecycle_adminRotated :
    let run := (GatewayStore.empty 0).performAll .checksummed adminRotated
    run.2.authorizeJoin .checksummed ⟨1⟩ (some (generateCredential "admin" 1)) "Ana" (.numbered 5) =
      .ok (.invalidCredential, run.2) :=
  (token_lifecycle .checksummed tokenHashInjective_checksummed 0 adminRotated (by decide +kernel) ⟨1⟩
    (generateCredential "admin" 1) "Ana" (.numbered 5)).2.2.2.2 adminRotated [] ⟨1⟩
    (.member ⟨2⟩) (List.append_nil _).symm (by decide +kernel) (.inr (by decide +kernel)) (by decide +kernel)

end LanChat
