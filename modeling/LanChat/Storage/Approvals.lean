import LanChat.Storage.Tokens

/-!
# Approvals over a run of the store

A membership of an approval group goes back to three replies, in this order: a
request is created, an administrator approves it, and a join with its token is
allowed (`ApprovedBy`). `Approvals` keeps the part of this chain each row has
behind it.
-/

namespace LanChat

open GatewayStore

/-- The replies behind a membership: its request, the approval, the join. -/
def ApprovedBy (trace : List (StoreOp × StoreReply)) (g memberId : Uuid) (token : String) : Prop :=
  ∃ requestId nickname draw nickname' draw' issued, List.Sublist [
    (StoreOp.createJoinRequest g nickname draw, StoreReply.request requestId token),
    (.decideJoinRequest g requestId true, .flag true),
    (.authorizeJoin g (some token) nickname' draw',
      .authorization (.allowed .member memberId (some issued)))] trace

section
variable {trace : List (StoreOp × StoreReply)} {g memberId : Uuid} {token : String}

theorem ApprovedBy.concat (approved : ApprovedBy trace g memberId token) (event : StoreOp × StoreReply) :
    ApprovedBy (trace ++ [event]) g memberId token := by
  obtain ⟨requestId, nickname, draw, nickname', draw', issued, sub⟩ := approved
  exact ⟨requestId, nickname, draw, nickname', draw', issued, sub.trans (List.sublist_append_left _ _)⟩

theorem ApprovedBy.issued (approved : ApprovedBy trace g memberId token) : Issued trace g (.request token) token := by
  obtain ⟨requestId, nickname, draw, _, _, _, sub⟩ := approved
  exact ⟨_, sub.subset List.mem_cons_self, List.mem_singleton_self _⟩

theorem ApprovedBy.joined (approved : ApprovedBy trace g memberId token) : ∃ nickname draw issued,
      (StoreOp.authorizeJoin g (some token) nickname draw,
        StoreReply.authorization (.allowed .member memberId (some issued))) ∈ trace := by
  obtain ⟨_, _, _, nickname, draw, issued, sub⟩ := approved
  exact ⟨nickname, draw, issued, sub.subset (by simp)⟩

end

/-- A join with the token is allowed. -/
def admits (token : String) : StoreOp × StoreReply → Bool
  | (.authorizeJoin _ (some token') _ _, .authorization (.allowed _ _ _)) => token' == token
  | _ => false

namespace GatewayStore

variable {prims : Primitives} {store store' : GatewayStore} {op : StoreOp} {reply : StoreReply}
  {trace : List (StoreOp × StoreReply)} {drawn : List String}

/-- The replies behind an approved request. -/
def Approved (prims : Primitives) (trace : List (StoreOp × StoreReply)) (r : JoinRequestRow) : Prop :=
  ∃ nickname draw token, isValidGroupCredential token = true ∧
    r.requestTokenHash = tokenHash prims token ∧ List.Sublist [
      (StoreOp.createJoinRequest r.groupId nickname draw, StoreReply.request r.requestId token),
      (.decideJoinRequest r.groupId r.requestId true, .flag true)] trace

/-- **What is behind the rows**: requests have been created, approved ones
approved, and members of an approval group have joined with such a request. -/
structure Approvals (prims : Primitives) (trace : List (StoreOp × StoreReply)) (store : GatewayStore) :
    Prop where
  requestIds : (store.joinRequests.map (·.requestId)).Nodup
  created : ∀ r ∈ store.joinRequests, ∃ nickname draw token, isValidGroupCredential token = true ∧
    r.requestTokenHash = tokenHash prims token ∧
    (StoreOp.createJoinRequest r.groupId nickname draw, StoreReply.request r.requestId token) ∈ trace
  approved : ∀ r ∈ store.joinRequests, r.status = .approved → Approved prims trace r
  admitted : ∀ summary ∈ store.groupTable, summary.accessMode = .approval → ∀ m ∈ store.memberTable,
    m.groupId = summary.groupId → m.role = .member → ∃ token, ApprovedBy trace m.groupId m.memberId token

theorem Approvals.empty (prims : Primitives) (key : BitVec 256) : Approvals prims [] (.empty key) := by
  constructor <;> simp [GatewayStore.empty, groupTable]

theorem Approved.concat {r : JoinRequestRow} (approved : Approved prims trace r)
    (event : StoreOp × StoreReply) : Approved prims (trace ++ [event]) r := by
  obtain ⟨nickname, draw, token, valid, hashed, sub⟩ := approved
  exact ⟨nickname, draw, token, valid, hashed, sub.trans (List.sublist_append_left _ _)⟩

theorem Approvals.requestIds_step (approvals : Approvals prims trace store)
    {rows : List JoinRequestRow} (step : RequestsStep prims store op reply rows) :
    (rows.map (·.requestId)).Nodup := by
  have unique := approvals.requestIds
  cases step with
  | fewer sub => exact unique.sublist (sub.map _)
  | decided =>
    rw [Table.map_updateWhere]
    · exact unique
    · exact fun _ _ _ => rfl
  | requested _ _ _ freshId =>
    rw [List.map_append]
    refine List.Nodup.append unique (List.nodup_singleton _) ?_
    simpa [eq_comm] using freshId

theorem Approvals.created_step (approvals : Approvals prims trace store) {rows : List JoinRequestRow}
    (step : RequestsStep prims store op reply rows) {r : JoinRequestRow} (mem : r ∈ rows) :
    ∃ nickname draw token, isValidGroupCredential token = true ∧
      r.requestTokenHash = tokenHash prims token ∧
      (StoreOp.createJoinRequest r.groupId nickname draw, StoreReply.request r.requestId token) ∈
        trace ++ [(op, reply)] := by
  have kept : ∀ old ∈ store.joinRequests, ∃ nickname draw token,
      isValidGroupCredential token = true ∧ old.requestTokenHash = tokenHash prims token ∧
      (StoreOp.createJoinRequest old.groupId nickname draw, StoreReply.request old.requestId token) ∈
        trace ++ [(op, reply)] := by
    intro old before
    obtain ⟨nickname, draw, token, valid, hashed, event⟩ := approvals.created old before
    exact ⟨nickname, draw, token, valid, hashed, List.mem_append_left _ event⟩
  cases step with
  | fewer sub => exact kept r (sub.subset mem)
  | decided =>
    rcases Table.mem_updateWhere.1 mem with ⟨before, -⟩ | ⟨old, before, -, rfl⟩
    · exact kept r before
    · exact kept old before
  | @requested g nickname token draw _ valid =>
    rcases List.mem_append.1 mem with before | new
    · exact kept r before
    · obtain rfl := List.mem_singleton.1 new
      exact ⟨nickname, draw, token, valid, rfl, List.mem_append_right _ (List.mem_singleton_self _)⟩

/-- Only an approval approves, and its reply says so. -/
theorem Approvals.approved_step (approvals : Approvals prims trace store) {rows : List JoinRequestRow}
    (step : RequestsStep prims store op reply rows) {r : JoinRequestRow} (mem : r ∈ rows)
    (status : r.status = .approved) : Approved prims (trace ++ [(op, reply)]) r := by
  cases step with
  | fewer sub => exact (approvals.approved r (sub.subset mem) status).concat _
  | requested =>
    rcases List.mem_append.1 mem with before | new
    · exact (approvals.approved r before status).concat _
    · rw [List.mem_singleton.1 new] at status
      cases status
  | @decided g requestId approve =>
    rcases Table.mem_updateWhere.1 mem with ⟨before, -⟩ | ⟨old, before, selected, rfl⟩
    · exact (approvals.approved r before status).concat _
    · cases approve with
      | false => cases status
      | true =>
        obtain ⟨nickname, draw, token, valid, hashed, event⟩ := approvals.created old before
        have one : store.joinRequests.countP (awaitsDecision g requestId) = 1 := by
          refine Table.countP_eq_one approvals.requestIds before selected fun other chosen => ?_
          simp only [awaitsDecision, Bool.and_eq_true, beq_iff_eq] at selected chosen
          exact chosen.1.2.trans selected.1.2.symm
        have ids := selected
        simp only [awaitsDecision, Bool.and_eq_true, beq_iff_eq] at ids
        obtain ⟨⟨rfl, rfl⟩, -⟩ := ids
        refine ⟨nickname, draw, token, valid, hashed, ?_⟩
        have decision := (List.singleton_sublist.2 event).append (List.Sublist.refl
          [(StoreOp.decideJoinRequest old.groupId old.requestId true, StoreReply.flag
            (decide (store.joinRequests.countP (awaitsDecision old.groupId old.requestId) = 1)))])
        simp only [one, decide_true] at decision ⊢
        exact decision

/-- A new member of an approval group has used an approved request. -/
theorem Approvals.admitted_step (inj : TokenHashInjective prims)
    (approvals : Approvals prims trace store) (audited : Audited prims trace drawn store)
    (step : CredentialStep prims store op reply store')
    (back : ∀ summary ∈ store'.groupTable, store.hasGroup summary.groupId = true →
      summary ∈ store.groupTable)
    {summary : GroupSummary} (group : summary ∈ store'.groupTable)
    (mode : summary.accessMode = .approval) {m : Membership} (mem : m ∈ store'.memberTable)
    (ofGroup : m.groupId = summary.groupId) (role : m.role = .member) :
    ∃ token, ApprovedBy (trace ++ [(op, reply)]) m.groupId m.memberId token := by
  have kept : ∀ old ∈ store.memberTable, old.groupId = summary.groupId → old.role = .member →
      ∃ token, ApprovedBy (trace ++ [(op, reply)]) old.groupId old.memberId token := by
    intro old before ofGroup role
    have known := back summary group (ofGroup ▸ audited.accounts.grouped old before)
    obtain ⟨token, approved⟩ := approvals.admitted summary known mode old before ofGroup role
    exact ⟨token, approved.concat _⟩
  cases step with
  | same _ _ _ members | full _ _ _ _ members | requested _ _ _ _ _ _ _ members
  | decided _ _ members | rotatedInvite _ _ _ _ _ _ members =>
    rw [members] at mem
    exact kept m mem ofGroup role
  | banned _ _ members | rotated _ _ _ _ _ _ members =>
    rw [members] at mem
    rcases Table.mem_updateWhere.1 mem with ⟨before, -⟩ | ⟨old, before, -, rfl⟩
    · exact kept m before ofGroup role
    · exact kept old before ofGroup role
  | created _ _ _ _ _ _ _ _ members | administrator _ _ _ _ _ _ members =>
    rw [members] at mem
    rcases List.mem_append.1 mem with before | new
    · exact kept m before ofGroup role
    · rw [List.mem_singleton.1 new] at role
      cases role
  | @admitted g credential nickname token draw row request _ _ _ found enters _ _ _ _ members =>
    rw [members] at mem
    rcases List.mem_append.1 mem with before | new
    · exact kept m before ofGroup role
    · obtain rfl := List.mem_singleton.1 new
      obtain ⟨inGroups, rfl⟩ := findGroup_some found
      -- the group the join has found is the approval group
      have known := back summary group (hasGroup_iff.2 ⟨row, inGroups, ofGroup⟩)
      obtain ⟨row', inGroups', rfl⟩ := List.mem_map.1 known
      obtain rfl := groupIdsUnique_eq audited.accounts.groupIds inGroups inGroups' ofGroup
      replace mode : row.accessMode = .approval := mode
      cases enters with
      | isPublic other | invited other => cases mode.symm.trans other
      | @approved given request _ isRequest sameGroup hashed status =>
        obtain ⟨nickname', draw', own, valid, ownHash, sub⟩ := approvals.approved request isRequest status
        obtain ⟨givenValid, givenHash⟩ := credentialHash_ok hashed
        obtain rfl := inj own given valid givenValid (ownHash.symm.trans givenHash)
        rw [sameGroup] at sub
        refine ⟨own, request.requestId, nickname', draw', nickname, draw, token, ?_⟩
        exact sub.append (List.Sublist.refl [_])

/-- **One operation keeps what is behind the rows.** -/
theorem Approvals.step (inj : TokenHashInjective prims) (approvals : Approvals prims trace store)
    (audited : Audited prims trace drawn store) (op : StoreOp) :
    Approvals prims (trace ++ [(op, (store.perform prims op).1)]) (store.perform prims op).2 := by
  have step := credentialStep prims store op
  exact {
    requestIds := approvals.requestIds_step step.requestsStep
    created := fun _ mem => approvals.created_step step.requestsStep mem
    approved := fun _ mem => approvals.approved_step step.requestsStep mem
    admitted := fun _ group mode _ mem => approvals.admitted_step inj audited step
      (fun _ mem known => groupTable_known op mem known) group mode mem }

theorem approvals_performAll (inj : TokenHashInjective prims) (key : BitVec 256) {ops : List StoreOp}
    (fresh : FreshTokens ops) :
    let run := (GatewayStore.empty key).performAll prims ops
    Approvals prims run.1 run.2 := by
  refine performAll_induction (motive := fun ops trace store => FreshTokens ops →
    Approvals prims trace store) ?_ ?_ ops fresh
  · exact fun _ => .empty prims key
  · intro ops op ih _ fresh
    exact (ih fresh.concat.1).step inj (audited_performAll inj key fresh.concat.1) op

/-! ## Admissions -/

/-- A join is allowed to the holder of a token: to a membership, by the invite
token, or by an approved request. -/
theorem Audited.allowed_cases (inj : TokenHashInjective prims) (audited : Audited prims trace drawn store)
    {g : Uuid} {token nickname : String} {draw : Draw} {role : GroupRole} {id : Uuid}
    {issued : Option String}
    (joined : store.authorizeJoin prims g (some token) nickname draw =
      .ok (.allowed role id issued, store')) :
    (∃ holder, holder ≠ .request token ∧ Ledger.ofTrace trace g holder = some token) ∨
      (Ledger.ofTrace trace g (.request token) = some token ∧
        (∃ new, issued = some new) ∧ ∃ r ∈ store.joinRequests, r.groupId = g ∧
          r.requestTokenHash = tokenHash prims token ∧ r.status = .approved) := by
  cases authorizeJoin_cases joined with
  | refused refusal => exact absurd rfl (refusal _ _ _)
  | known supplied mem ofGroup hashed =>
    cases supplied
    subst ofGroup
    obtain ⟨valid, hashed⟩ := credentialHash_ok hashed
    exact .inl ⟨.member _, nofun, (audited.member_iff inj mem valid).1 hashed⟩
  | administrator _ _ found current fresh =>
    obtain ⟨m, inTable, group, -, hashed⟩ := audited.accounts.admins.holder found current
    exact absurd hashed ((fresh_memberTable fresh m inTable).2 group)
  | issued found enters =>
    obtain ⟨inGroups, rfl⟩ := findGroup_some found
    cases enters with
    | invited _ hashed current =>
      obtain ⟨valid, rfl⟩ := credentialHash_ok hashed
      have invite := audited.accounts.invites _ inGroups
      rw [current] at invite
      obtain ⟨own, entry, same⟩ := Option.map_eq_some_iff.1 invite.symm
      obtain rfl := inj own token (audited.sound.valid (audited.sound.origin entry)) valid same
      exact .inl ⟨.invite, nofun, entry⟩
    | @approved _ request _ isRequest ofGroup hashed status =>
      obtain ⟨valid, hashed⟩ := credentialHash_ok hashed
      have entry := audited.accounts.request_entry inj audited.sound isRequest valid hashed
      rw [ofGroup] at entry
      exact .inr ⟨entry, ⟨_, rfl⟩, request, isRequest, ofGroup, hashed, status⟩

/-- The token of a request has admitted nobody, or one and is gone. -/
def AdmitsOnce (trace : List (StoreOp × StoreReply)) (token : String) : Prop :=
  trace.countP (admits token) = 0 ∨ trace.countP (admits token) = 1 ∧
    ∃ g, Issued trace g (.request token) token ∧ Ledger.ofTrace trace g (.request token) ≠ some token

theorem admits_iff {token : String} : admits token (op, reply) = true ↔ ∃ g nickname draw role id issued,
    op = .authorizeJoin g (some token) nickname draw ∧
      reply = .authorization (.allowed role id issued) := by
  constructor
  · intro admitted
    unfold admits at admitted
    split at admitted
    · rename_i same
      cases same
      exact ⟨_, _, _, _, _, _, by rw [beq_iff_eq.1 admitted], rfl⟩
    · cases admitted
  · rintro ⟨g, nickname, draw, role, id, issued, rfl, rfl⟩
    simp [admits]

theorem authorizeJoin_of_reply {g : Uuid} {credential : Option String} {nickname : String} {draw : Draw}
    {authorization : JoinAuthorization}
    (reply : (store.perform prims (.authorizeJoin g credential nickname draw)).1 =
      .authorization authorization) :
    ∃ s, store.authorizeJoin prims g credential nickname draw = .ok (authorization, s) := by
  rcases settle_cases store .authorization
    (store.authorizeJoin prims g credential nickname draw) with ⟨e, h⟩ | ⟨a, s, ok, h⟩
  · rw [perform, h] at reply
    cases reply
  · rw [perform, h] at reply
    cases reply
    exact ⟨s, ok⟩

theorem AdmitsOnce.step (inj : TokenHashInjective prims) (audited : Audited prims trace drawn store)
    (fresh : ∀ token ∈ op.tokens, token ∉ drawn) {token : String} (once : AdmitsOnce trace token)
    (request : ∀ g holder, Issued trace g holder token → holder = .request token) :
    AdmitsOnce (trace ++ [(op, (store.perform prims op).1)]) token := by
  unfold AdmitsOnce
  rw [List.countP_append, List.countP_singleton]
  cases admitted : admits token (op, (store.perform prims op).1) with
  | false =>
    refine once.imp (by simp) ?_
    rintro ⟨one, g, issued, gone⟩
    refine ⟨by simpa using one, g, issued_concat.2 (.inl issued), fun entry => ?_⟩
    rw [Ledger.ofTrace_concat] at entry
    rcases Ledger.post_some entry with now | old
    · exact fresh token ((credentialStep prims store op).issuesDrawn.drawn _ _ _ now)
        (audited.sound.drawn issued)
    · exact gone old
  | true =>
    obtain ⟨g, nickname, draw, role, id, issued, rfl, reply⟩ := admits_iff.1 admitted
    obtain ⟨s, joined⟩ := authorizeJoin_of_reply reply
    rcases audited.allowed_cases inj joined with ⟨holder, other, entry⟩ | ⟨entry, ⟨new, rfl⟩, -⟩
    · exact absurd (request g holder (audited.sound.origin entry)) other
    · have unused : trace.countP (admits token) = 0 := by
        rcases once with unused | ⟨-, g', issued, gone⟩
        · exact unused
        · obtain ⟨rfl, -⟩ := audited.sound.once (audited.sound.origin entry) issued
          exact absurd entry gone
      refine .inr ⟨by simp [unused], g, issued_concat.2 (.inl (audited.sound.origin entry)), ?_⟩
      rw [Ledger.ofTrace_concat, Ledger.observe, reply, Ledger.post_new Option.none]
      · simp
      · simp [StoreOp.issues, mem_consumes]
      · simp [StoreOp.issues, mem_consumes]

theorem admitsOnce_performAll (inj : TokenHashInjective prims) (key : BitVec 256) {ops : List StoreOp}
    (fresh : FreshTokens ops) {token : String} :
    let run := (GatewayStore.empty key).performAll prims ops
    (∀ g holder, Issued run.1 g holder token → holder = .request token) → AdmitsOnce run.1 token := by
  refine performAll_induction (motive := fun ops trace _ => FreshTokens ops →
    (∀ g holder, Issued trace g holder token → holder = .request token) →
      AdmitsOnce trace token) ?_ ?_ ops fresh
  · exact fun _ _ => .inl rfl
  · intro ops op ih _ fresh request
    have earlier : ∀ g holder, Issued _ g holder token → holder = .request token :=
      fun g holder issued => request g holder (issued_concat.2 (.inl issued))
    exact (ih fresh.concat.1 earlier).step inj (audited_performAll inj key fresh.concat.1)
      fresh.concat.2.2 earlier

/-! ## Decisions -/

/-- A request that is not pending is not decided again. -/
theorem Approvals.decideJoinRequest_decided (approvals : Approvals prims trace store)
    {r : JoinRequestRow} (mem : r ∈ store.joinRequests) (decided : r.status ≠ .pending)
    (approve : Bool) :
    store.decideJoinRequest r.groupId r.requestId approve = (false, store) := by
  have skipped : ∀ other ∈ store.joinRequests, awaitsDecision r.groupId r.requestId other = false := by
    intro other inRows
    by_contra selected
    simp only [awaitsDecision, Bool.not_eq_false, Bool.and_eq_true, beq_iff_eq] at selected
    obtain rfl := List.inj_on_of_nodup_map approvals.requestIds inRows mem selected.1.2
    exact decided selected.2
  have zero : store.joinRequests.countP (awaitsDecision r.groupId r.requestId) = 0 := by
    rw [List.countP_eq_zero]
    exact fun other inRows => by simp [skipped other inRows]
  have unchanged : Table.updateWhere (awaitsDecision r.groupId r.requestId)
      (JoinRequestRow.decided approve) store.joinRequests = store.joinRequests := by
    conv_rhs => rw [← List.map_id store.joinRequests]
    exact List.map_congr_left fun other inRows => by simp [skipped other inRows]
  change (decide (store.joinRequests.countP (awaitsDecision r.groupId r.requestId) = 1),
    { store with
      joinRequests := Table.updateWhere (awaitsDecision r.groupId r.requestId)
        (JoinRequestRow.decided approve) store.joinRequests }) = _
  rw [zero, unchanged]
  rfl

/-- **A decision stays**: under the token of a decided request there is never a
request of another status. -/
theorem decision_stays (inj : TokenHashInjective prims) (key : BitVec 256) {ops₁ ops₂ : List StoreOp}
    (fresh : FreshTokens (ops₁ ++ ops₂)) {r : JoinRequestRow}
    (mem : r ∈ ((GatewayStore.empty key).performAll prims ops₁).2.joinRequests)
    (decided : r.status ≠ .pending) :
    ∀ r' ∈ ((GatewayStore.empty key).performAll prims (ops₁ ++ ops₂)).2.joinRequests,
      r'.groupId = r.groupId → r'.requestTokenHash = r.requestTokenHash → r'.status = r.status := by
  induction ops₂ using List.reverseRecOn with
  | nil =>
    rw [List.append_nil] at fresh ⊢
    intro r' mem' group hash
    rw [(audited_performAll inj key fresh).accounts.request_eq mem' mem group hash]
  | append_singleton ops op ih =>
    rw [← List.append_assoc] at fresh
    rw [← List.append_assoc, performAll_concat]
    obtain ⟨earlier, -, apart⟩ := fresh.concat
    have kept := ih earlier
    intro r' mem' group hash
    have step := (credentialStep prims ((GatewayStore.empty key).performAll prims (ops₁ ++ ops)).2
      op).requestsStep
    generalize (GatewayStore.perform prims _ op).1 = reply at step
    simp only at mem'
    generalize (GatewayStore.perform prims _ op).2.joinRequests = rows at step mem'
    cases step with
    | fewer sub => exact kept r' (sub.subset mem') group hash
    | decided =>
      rcases Table.mem_updateWhere.1 mem' with ⟨before, -⟩ | ⟨old, before, selected, rfl⟩
      · exact kept r' before group hash
      · simp only [awaitsDecision, Bool.and_eq_true, beq_iff_eq] at selected
        exact absurd ((kept old before group hash).symm.trans selected.2) decided
    | @requested g nickname token draw generated valid =>
      rcases List.mem_append.1 mem' with before | new
      · exact kept r' before group hash
      · -- the token of the request was drawn long before
        obtain rfl := List.mem_singleton.1 new
        have audited := audited_performAll inj key earlier.left
        have entry := audited.accounts.request_entry inj audited.sound mem valid hash.symm
        have drawn := audited.sound.drawn (audited.sound.origin entry)
        refine absurd ?_ (apart token (List.mem_singleton.2 generated))
        rw [List.flatMap_append]
        exact List.mem_append_left _ drawn

end GatewayStore

open GatewayStore in
/-- **Approval admits what an administrator approved, once.** -/
theorem approval_admits_once (prims : Primitives) (inj : TokenHashInjective prims) (key : BitVec 256)
    (ops : List StoreOp) (fresh : FreshTokens ops) :
    let run := (GatewayStore.empty key).performAll prims ops
    let approved (m : MemberRow) : Prop :=
      m ∈ run.2.groupMembers ∧ m.role = .member ∧
        ∃ row ∈ run.2.groups, row.groupId = m.groupId ∧ row.accessMode = .approval
    (∃ token : Uuid → String,
      (∀ m, approved m → ApprovedBy run.1 m.groupId m.memberId (token m.memberId)) ∧
      ∀ m m', approved m → approved m' → token m.memberId = token m'.memberId → m = m') ∧
    (∀ g token, Issued run.1 g (.request token) token → run.1.countP (admits token) ≤ 1) ∧
    (∀ ops₁ ops₂, ops = ops₁ ++ ops₂ →
      let before := (GatewayStore.empty key).performAll prims ops₁
      ∀ r ∈ before.2.joinRequests, r.status ≠ .pending →
        (∀ approve, before.2.decideJoinRequest r.groupId r.requestId approve = (false, before.2)) ∧
        ∀ r' ∈ run.2.joinRequests, r'.groupId = r.groupId →
          r'.requestTokenHash = r.requestTokenHash → r'.status = r.status) ∧
    ∀ r ∈ run.2.joinRequests, r.status ≠ .approved →
      ∀ token, r.requestTokenHash = tokenHash prims token →
      ∀ g nickname draw role id issued store',
        run.2.authorizeJoin prims g (some token) nickname draw ≠
          .ok (.allowed role id issued, store') := by
  intro run approved
  have audited : Audited prims run.1 (ops.flatMap StoreOp.tokens) run.2 :=
    audited_performAll inj key fresh
  have approvals : Approvals prims run.1 run.2 := approvals_performAll inj key fresh
  have once : ∀ g token, Issued run.1 g (.request token) token → run.1.countP (admits token) ≤ 1 := by
    intro g token issued
    have admitted : AdmitsOnce run.1 token := admitsOnce_performAll inj key fresh
      fun _ _ other => (audited.sound.once other issued).2
    rcases admitted with zero | ⟨one, -⟩
    · omega
    · omega
  have behind : ∀ id, ∃ token, ∀ m, approved m → m.memberId = id →
      ApprovedBy run.1 m.groupId m.memberId token := by
    intro id
    by_cases some : ∃ m, approved m ∧ m.memberId = id
    · obtain ⟨m, ⟨mem, role, row, inGroups, group, mode⟩, rfl⟩ := some
      obtain ⟨token, chain⟩ := approvals.admitted row.summary (List.mem_map_of_mem inGroups) mode
        m.membership (mem_memberTable.2 ⟨m, mem, rfl⟩) group.symm role
      refine ⟨token, fun m' ⟨mem', _⟩ same => ?_⟩
      rw [audited.accounts.memberIds.eq mem' mem same]
      exact chain
    · exact ⟨"", fun m isApproved same => absurd ⟨m, isApproved, same⟩ some⟩
  refine ⟨?_, once, ?_, ?_⟩
  · choose token chain using behind
    refine ⟨token, fun m isApproved => chain _ m isApproved rfl, ?_⟩
    intro m m' isApproved isApproved' same
    have chain₁ := chain _ m isApproved rfl
    have chain₂ := chain _ m' isApproved' rfl
    rw [← same] at chain₂
    -- the two joins are one event of the trace
    obtain ⟨nickname, draw, issued, event⟩ := chain₁.joined
    obtain ⟨nickname', draw', issued', event'⟩ := chain₂.joined
    have single := Table.eq_of_countP_le_one (once _ _ chain₁.issued) event event'
      (by simp [admits]) (by simp [admits])
    simp only [Prod.mk.injEq, StoreReply.authorization.injEq, JoinAuthorization.allowed.injEq] at single
    exact audited.accounts.memberIds.eq isApproved.1 isApproved'.1 single.2.2.1
  · rintro ops₁ ops₂ rfl before r mem decided
    exact ⟨(approvals_performAll inj key fresh.left).decideJoinRequest_decided mem decided,
      decision_stays inj key fresh mem decided⟩
  · intro r mem notApproved token hashed g nickname draw role id issued store' joined
    have entry := audited.accounts.request_entry inj audited.sound mem (authorizeJoin_valid joined) hashed
    rcases audited.allowed_cases inj joined with
      ⟨holder, other, entry'⟩ | ⟨entry', -, r', mem', ofGroup, hashed', status⟩
    · exact other (audited.sound.once (audited.sound.origin entry') (audited.sound.origin entry)).2
    · obtain ⟨rfl, -⟩ := audited.sound.once (audited.sound.origin entry') (audited.sound.origin entry)
      rw [audited.accounts.request_eq mem mem' ofGroup.symm (hashed.trans hashed'.symm)] at notApproved
      exact notApproved status

/-- An approval group whose administrator lets Bob in. -/
def bobApproved : List StoreOp :=
  [.createGroupWithAccess "team" .approval (.numbered 1), .createJoinRequest ⟨1⟩ "Bob" (.numbered 3),
    .decideJoinRequest ⟨1⟩ ⟨3⟩ true,
    .authorizeJoin ⟨1⟩ (some (generateCredential "request" 3)) "Bob" (.numbered 5)]

theorem approval_admits_once_bobApproved :
    ∃ token, ApprovedBy ((GatewayStore.empty 0).performAll .checksummed bobApproved).1 ⟨1⟩ ⟨5⟩ token := by
  obtain ⟨token, chain, -⟩ := (approval_admits_once .checksummed tokenHashInjective_checksummed 0
    bobApproved (by decide +kernel)).1
  have bob : ∃ m ∈ ((GatewayStore.empty 0).performAll .checksummed bobApproved).2.groupMembers,
      m.groupId = ⟨1⟩ ∧ m.memberId = ⟨5⟩ ∧ m.role = .member ∧
        ∃ row ∈ ((GatewayStore.empty 0).performAll .checksummed bobApproved).2.groups,
          row.groupId = m.groupId ∧ row.accessMode = .approval := by
    decide +kernel
  obtain ⟨m, mem, group, member, role, mode⟩ := bob
  refine ⟨token m.memberId, ?_⟩
  rw [← group, ← member]
  exact chain m ⟨mem, role, mode⟩

end LanChat
