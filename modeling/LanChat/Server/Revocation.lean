import LanChat.Server.Runs
import LanChat.Storage.Memberships

/-!
# Bans and rotations reach every session

A ban or a rotation commits in the store and then sweeps the registered
sessions of the member. A session is a *holder* of its membership from the
`authorize_join` that admitted it on, but the sweep sees it only once it is
registered. `RevocationInv` says that a holder that should be disconnected has
been kicked or has a sweep still to come, and it holds along every run whose
sweeps miss no admission (`SweepsSeeAdmissions`).
-/

namespace LanChat

open Transition

/-- An admission that is not registered yet: its group, membership and hash. -/
def Task.admission (prims : Primitives) : Task → Option (Uuid × Uuid × List UInt8)
  | entering groupId entry => some (groupId, entry.memberId, entry.heldHash)
  | insertingGroup _ created | namingCreator _ created =>
    some (created.summary.groupId, created.creatorMemberId,
      tokenHash prims created.credentials.adminToken)
  | _ => none

/-- The task stands between the commit of a ban or a rotation and its sweep. -/
def Task.isSweep : Task → Bool
  | serving _ _ _ _ (some (.banSweep _)) | serving _ _ _ _ (some (.rotateSweep _ _)) => true
  | _ => false

/-! ## Kicks and held hashes -/

namespace ClientEntry

variable {client : ClientEntry} {change : Change} {changes : List Change}

theorem kick_apply (kicked : client.kick.isSome = true) : (client.apply change).kick.isSome = true := by
  cases change <;> simp only [apply, joinRoom, leaveRoom] <;> (try split) <;> (try split) <;>
    first | exact kicked | rfl

theorem kick_applyAll (kicked : client.kick.isSome = true) :
    (client.applyAll changes).kick.isSome = true := by
  induction changes generalizing client with
  | nil => exact kicked
  | cons change changes ih => exact ih (kick_apply kicked)

theorem heldHash_apply (keeps : ∀ sessionId replaced hash, change ≠ .hold sessionId replaced hash) :
    (client.apply change).heldHash = client.heldHash := by
  cases change <;> simp only [apply, joinRoom, leaveRoom] <;> (try split) <;> (try split) <;>
    first | rfl | exact absurd rfl (keeps _ _ _)

theorem heldHash_applyAll
    (keeps : ∀ change ∈ changes, ∀ sessionId replaced hash, change ≠ .hold sessionId replaced hash) :
    (client.applyAll changes).heldHash = client.heldHash := by
  induction changes generalizing client with
  | nil => rfl
  | cons change changes ih =>
    rw [applyAll_cons, ih fun c mem => keeps c (List.mem_cons_of_mem _ mem),
      heldHash_apply (keeps change List.mem_cons_self)]

end ClientEntry

/-! ## The store calls of handlers -/

namespace Handler

variable {groupId : Uuid} {me : Session} {draw : Draw} {handler : Handler}

theorem storeCall_ban {g m : Uuid} {ban : Bool}
    (h : handler.storeCall groupId me draw = some (.setMemberBanned g m ban)) :
    handler = .banStore m ban ∧ g = groupId := by
  cases handler <;> simp only [storeCall, Option.some.injEq, reduceCtorEq] at h
  cases h
  exact ⟨rfl, rfl⟩

theorem storeCall_rotate {g actor : Uuid} {kind : GroupTokenKind} {draw' : Draw}
    (h : handler.storeCall groupId me draw = some (.rotateGroupToken g actor kind draw')) :
    handler = .rotateStore kind ∧ g = groupId ∧ actor = me.peer.memberId := by
  cases handler <;> simp only [storeCall, Option.some.injEq, reduceCtorEq] at h
  cases h
  exact ⟨rfl, rfl, rfl⟩

end Handler

namespace Gateway

variable {prims : Primitives} {gateway gateway' : Gateway} {conn : Conn} {outcome : Outcome}

/-! ## Holders -/

/-- A ban of the member has committed and its sweep is still to come. -/
def BanPending (gateway : Gateway) (groupId memberId : Uuid) : Prop :=
  ∃ c ∈ gateway.conns, ∃ me used violations,
    c.task = .serving groupId me used violations (some (.banSweep memberId))

/-- A rotation by another session of the member has committed and its sweep is
still to come. -/
def RotationPending (gateway : Gateway) (groupId memberId : Uuid) (sessionId : Option Uuid) : Prop :=
  ∃ c ∈ gateway.conns, ∃ me used violations kind token,
    c.task = .serving groupId me used violations (some (.rotateSweep kind token)) ∧
      me.peer.memberId = memberId ∧ some me.peer.sessionId ≠ sessionId

/-- Who uses a membership: a registered session, or an admission under way. -/
inductive Holder (prims : Primitives) (gateway : Gateway) (groupId : Uuid) :
    (memberId : Uuid) → (hash : List UInt8) → (kicked : Bool) → (sessionId : Option Uuid) → Prop where
  | registered {group : GroupState} {client : ClientEntry} (known : group ∈ gateway.groups)
      (ofGroup : group.summary.groupId = groupId) (entry : client ∈ group.clients) :
      Holder prims gateway groupId client.peer.memberId client.heldHash client.kick.isSome
        (some client.peer.sessionId)
  | admitted {conn : Conn} {memberId : Uuid} {hash : List UInt8} (mem : conn ∈ gateway.conns)
      (admission : conn.task.admission prims = some (groupId, memberId, hash)) :
      Holder prims gateway groupId memberId hash false none

/-- A holder whose membership is banned, or whose token has been rotated away,
is kicked or awaits a sweep. -/
structure RevocationInv (prims : Primitives) (gateway : Gateway) : Prop where
  unique : gateway.store.MemberIdsUnique
  banned : ∀ {g m hash kicked sid}, Holder prims gateway g m hash kicked sid →
    gateway.store.IsBanned g m → kicked = true ∨ gateway.BanPending g m
  stale : ∀ {g m hash kicked sid}, Holder prims gateway g m hash kicked sid →
    ¬ gateway.store.IsCurrent g m hash → kicked = true ∨ gateway.RotationPending g m sid

/-- A holder without a session is an admission. -/
theorem Holder.of_none {g m : Uuid} {hash : List UInt8} {kicked : Bool}
    (holder : Holder prims gateway g m hash kicked none) :
    ∃ d ∈ gateway.conns, d.task.admission prims = some (g, m, hash) := by
  cases holder with
  | admitted mem admission => exact ⟨_, mem, admission⟩

/-- When a ban or rotation sweeps, every admission of its member under way is
one that need not be disconnected, or another sweep will see it. -/
def SweepsSeeAdmissions (prims : Primitives) (gateway : Gateway) (action : Action) : Prop :=
  ∀ c ∈ gateway.conns, action.actor = some c.id →
    ∀ g me used violations handler, c.task = .serving g me used violations (some handler) →
    ∀ d ∈ gateway.conns, ∀ m hash, d.task.admission prims = some (g, m, hash) →
      (handler = .banSweep m → gateway.store.IsBanned g m →
        ∃ c' ∈ gateway.conns, c'.id ≠ c.id ∧ ∃ me' used' violations',
          c'.task = .serving g me' used' violations' (some (.banSweep m))) ∧
      (∀ kind token, handler = .rotateSweep kind token → me.peer.memberId = m →
        ¬ gateway.store.IsCurrent g m hash →
        ∃ c' ∈ gateway.conns, c'.id ≠ c.id ∧ ∃ me' used' violations' kind' token',
          c'.task = .serving g me' used' violations' (some (.rotateSweep kind' token')) ∧
            me'.peer.memberId = m)

/-! ## What a step does to the holders -/

/-- The store bans nobody and no token is rotated away. -/
structure Calm (store store' : GatewayStore) : Prop where
  banned : ∀ {g m}, store'.IsBanned g m → store.IsBanned g m
  current : ∀ {g m hash}, store.IsCurrent g m hash → store'.IsCurrent g m hash

theorem Calm.refl (store : GatewayStore) : Calm store store := ⟨id, id⟩

/-- A call that is not a committed ban or rotation. -/
theorem calm_call (unique : gateway.store.MemberIdsUnique) {op : StoreOp} {fault : Bool}
    (notBan : ∀ g m, op = .setMemberBanned g m true → (gateway.call prims op fault).1 ≠ .flag true)
    (notRotation : ∀ g m kind draw token, op = .rotateGroupToken g m kind draw → kind ≠ .invite →
      (gateway.call prims op fault).1 ≠ .token token) :
    Calm gateway.store (gateway.call prims op fault).2 := by
  cases fault with
  | true => exact .refl _
  | false =>
    refine ⟨fun {g m} banned => ?_, fun {g m hash} current => ?_⟩
    · rcases GatewayStore.isBanned_perform unique banned with before | ⟨ban, reply⟩
      · exact before
      · exact absurd reply (notBan g m ban)
    · rcases GatewayStore.isCurrent_perform current with after | ⟨kind, draw, token, rotation, kept, reply⟩
      · exact after
      · exact absurd reply (notRotation g m kind draw token rotation kept)

/-- What a step does to the holders of memberships. -/
inductive HolderStep (prims : Primitives) (gateway : Gateway) (conn : Conn) (outcome : Outcome) :
    Prop where
  | quiet (calm : Calm gateway.store outcome.store) (noSweep : conn.task.isSweep = false)
      (admission : outcome.task.admission prims = none ∨
        outcome.task.admission prims = conn.task.admission prims)
      (keeps : ∀ change ∈ outcome.changes, (∀ client, change ≠ .register client) ∧
        ∀ sessionId replaced hash, change ≠ .hold sessionId replaced hash)
  | admits {g m : Uuid} {hash : List UInt8} (calm : Calm gateway.store outcome.store)
      (noSweep : conn.task.isSweep = false)
      (admission : outcome.task.admission prims = some (g, m, hash))
      (notBanned : ¬ outcome.store.IsBanned g m) (current : outcome.store.IsCurrent g m hash)
      (nothing : outcome.changes = [])
  | registers {g : Uuid} {entry : GroupEntry} {group : GroupState} {sessionId : Uuid}
      (task : conn.task = .entering g entry) (fresh : gateway.isFreshSession sessionId = true)
      (registered : outcome = gateway.register group g entry sessionId)
  | bans {g m : Uuid} {me : Session} {used violations : ℕ}
      (task : conn.task = .serving g me used violations (some (.banStore m true)))
      (committed : outcome.store = (gateway.store.perform prims (.setMemberBanned g m true)).2)
      (next : outcome.task = .serving g me used violations (some (.banSweep m)))
      (nothing : outcome.changes = [])
  | rotates {g : Uuid} {me : Session} {used violations : ℕ} {kind : GroupTokenKind} {draw : Draw}
      {token : String}
      (task : conn.task = .serving g me used violations (some (.rotateStore kind)))
      (notInvite : kind ≠ .invite)
      (reply : (gateway.store.perform prims
        (.rotateGroupToken g me.peer.memberId kind draw)).1 = .token token)
      (committed : outcome.store =
        (gateway.store.perform prims (.rotateGroupToken g me.peer.memberId kind draw)).2)
      (next : outcome.task = .serving g me used violations (some (.rotateSweep kind token)))
      (held : outcome.changes = [.hold me.peer.sessionId
        (gateway.store.memberHash g me.peer.memberId) (tokenHash prims token)])
  | sweepsBan {g m : Uuid} {me : Session} {used violations : ℕ} {handler : Option Handler}
      (task : conn.task = .serving g me used violations (some (.banSweep m)))
      (same : outcome.store = gateway.store)
      (next : outcome.task = .serving g me used violations handler)
      (kicks : outcome.changes = [.kick (.member m) .banned])
  | sweepsRotation {g : Uuid} {me : Session} {used violations : ℕ} {kind : GroupTokenKind}
      {token : String} {handler : Option Handler}
      (task : conn.task = .serving g me used violations (some (.rotateSweep kind token)))
      (same : outcome.store = gateway.store)
      (next : outcome.task = .serving g me used violations handler)
      (kicks : ∃ message, outcome.changes =
        [.kick (.otherSessions me.peer.memberId me.peer.sessionId) .credentialRotated,
          .send (.session me.peer.sessionId) message])

theorem calm_of_op (unique : gateway.store.MemberIdsUnique) {op : StoreOp} {fault : Bool}
    (notBan : ∀ g m, op ≠ .setMemberBanned g m true)
    (notRotation : ∀ g m kind draw, op ≠ .rotateGroupToken g m kind draw) :
    Calm gateway.store (gateway.call prims op fault).2 :=
  calm_call unique (fun g m same => absurd same (notBan g m))
    fun g m kind draw _ same => absurd same (notRotation g m kind draw)

/-- The store call of a handler. -/
theorem holderStep_call (unique : gateway.store.MemberIdsUnique) {g : Uuid} {me : Session}
    {used violations : ℕ} {handler : Handler} {op : StoreOp} {draw : Draw} {fault : Bool}
    (task : conn.task = .serving g me used violations (some handler))
    (waits : handler.storeCall g me draw = some op) :
    HolderStep prims gateway conn
      { gateway.moveTo (.serving g me used violations
          (some (handler.resume (gateway.call prims op fault).1))) with
        store := (gateway.call prims op fault).2
        changes := gateway.holds prims g me handler (gateway.call prims op fault).1 } := by
  have noSweep : conn.task.isSweep = false := by
    rw [task]
    cases handler <;> first | rfl | cases waits
  by_cases ban : ∃ m, handler = .banStore m true ∧ (gateway.call prims op fault).1 = .flag true
  · obtain ⟨m, rfl, reply⟩ := ban
    cases waits
    obtain ⟨-, committed⟩ := call_of_reply reply nofun
    refine .bans task committed ?_ rfl
    simp only [reply]
    rfl
  by_cases rotation : ∃ kind token, handler = .rotateStore kind ∧ kind ≠ .invite ∧
      (gateway.call prims op fault).1 = .token token
  · obtain ⟨kind, token, rfl, notInvite, reply⟩ := rotation
    cases waits
    obtain ⟨performed, committed⟩ := call_of_reply reply nofun
    refine .rotates task notInvite performed committed ?_ ?_
    · simp only [reply]
      cases kind <;> first | rfl | exact absurd rfl notInvite
    · simp only [reply]
      cases kind <;> first | rfl | exact absurd rfl notInvite
  refine .quiet (calm_call unique (fun g' m same reply => ban ?_)
    fun g' m kind draw' token same notInvite reply => rotation ?_) noSweep (.inl rfl) ?_
  · subst same
    exact ⟨m, (Handler.storeCall_ban waits).1, reply⟩
  · subst same
    exact ⟨kind, token, (Handler.storeCall_rotate waits).1, notInvite, reply⟩
  · intro change mem
    refine ⟨((holds_keeps _ _ _ _) change mem).1, fun sessionId replaced hash same => rotation ?_⟩
    simp only [holds] at mem
    split at mem
    · rename_i token reply
      exact ⟨.member, token, rfl, nofun, reply⟩
    · rename_i token reply
      exact ⟨.admin, token, rfl, nofun, reply⟩
    · cases mem

/-- The block of a handler. -/
theorem holderStep_block {g : Uuid} {me : Session} {used violations : ℕ} {handler : Handler}
    {group : GroupState} {changes : List Change} {next : Option Handler}
    (task : conn.task = .serving g me used violations (some handler))
    (blocked : handler.block group me = some (changes, next)) :
    HolderStep prims gateway conn
      { gateway.moveTo (.serving g me used violations next) with changes } := by
  by_cases sweep : conn.task.isSweep = true
  · rw [task] at sweep
    cases handler with
    | banSweep m =>
      cases blocked
      exact .sweepsBan task rfl rfl rfl
    | rotateSweep kind token =>
      cases blocked
      exact .sweepsRotation task rfl rfl ⟨_, rfl⟩
    | _ => cases sweep
  · refine .quiet (.refl _) (by simpa using sweep) (.inl rfl) fun change mem => ?_
    have inBlock := block_changes blocked change mem
    constructor
    all_goals
      intros
      rintro rfl
      cases inBlock

theorem LobbyCall.calm (unique : gateway.store.MemberIdsUnique) {store : GatewayStore}
    (called : LobbyCall prims gateway store) : Calm gateway.store store := by
  cases called with
  | none => exact .refl _
  | _ => exact calm_of_op unique nofun nofun

theorem InsideChanges.holdsNothing {task : Task} {me : Session} {changes : List Change}
    (speaks : InsideChanges task me changes) : ∀ change ∈ changes,
      (∀ client, change ≠ .register client) ∧
        ∀ sessionId replaced hash, change ≠ .hold sessionId replaced hash := by
  cases speaks <;> simp

theorem Task.admission_of_session {task : Task} {g : Uuid} {me : Session}
    (session : task.session = some (g, me)) : task.admission prims = none := by
  cases task <;> first | rfl | cases session

theorem Task.admission_of_inLobby {task : Task} (lobby : task.inLobby = true) :
    task.admission prims = none := by
  cases task <;> first | rfl | cases lobby

theorem Task.isSweep_of_idle {task : Task} (idle : task.handler = none) : task.isSweep = false := by
  unfold Task.isSweep
  split
  · cases idle
  · cases idle
  · rfl

/-- **What a step does to the holders.** -/
theorem holderStep (unique : gateway.store.MemberIdsUnique) {action : Action}
    (h : gateway.outcome prims conn action = some outcome) :
    HolderStep prims gateway conn outcome := by
  cases taken h with
  | lobby before after called =>
    refine .quiet (called.calm unique) ?_ (.inl ?_) (by simp [moveTo])
    · rcases before with before | before <;> cases task : conn.task <;> rw [task] at before <;>
        first | rfl | cases before
    · exact Task.admission_of_inLobby after
  | admits task reply =>
    obtain ⟨performed, committed⟩ := call_of_reply reply nofun
    obtain ⟨notBanned, current⟩ := GatewayStore.authorizeJoin_admits unique performed
    exact .admits (calm_of_op unique nofun nofun) (by rw [task]; rfl) rfl (by rwa [committed])
      (by rwa [committed]) rfl
  | creates task reply =>
    obtain ⟨performed, committed⟩ := call_of_reply reply nofun
    obtain ⟨notBanned, current⟩ := GatewayStore.createGroup_admits unique performed
    exact .admits (calm_of_op unique nofun nofun) (by rw [task]; rfl) rfl (by rwa [committed])
      (by rwa [committed]) rfl
  | inserts task =>
    exact .quiet (.refl _) (by rw [task]; rfl) (.inr (by rw [task]; rfl)) (by simp [insertGroup, moveTo])
  | names task =>
    exact .quiet (calm_of_op unique nofun nofun) (by rw [task]; rfl) (.inr (by rw [task]; rfl))
      (by simp [moveTo])
  | registers task fresh found => exact .registers task fresh rfl
  | inside before idle after starts speaks =>
    refine .quiet (.refl _) (Task.isSweep_of_idle idle) (.inl ?_) speaks.holdsNothing
    exact Task.admission_of_session after
  | calls task waits => exact holderStep_call unique task waits
  | blocks task found blocked => exact holderStep_block task blocked
  | removes before idle after =>
    refine .quiet (.refl _) (Task.isSweep_of_idle idle) (.inl ?_) (by simp)
    rcases after with rfl | rfl <;> rfl
  | parts task => exact .quiet (.refl _) (by rw [task]; rfl) (.inl rfl) (by simp)

/-! ## Sweeps that stay to come -/

theorem BanPending.commit {g m : Uuid} (pending : gateway.BanPending g m)
    (owned : Owned gateway) (mem : conn ∈ gateway.conns)
    (still : ∀ me used violations,
      conn.task ≠ .serving g me used violations (some (.banSweep m))) :
    (gateway.commit conn outcome).BanPending g m := by
  obtain ⟨c, hc, me, used, violations, task⟩ := pending
  refine ⟨c, other_mem_commit hc fun same => ?_, me, used, violations, task⟩
  obtain rfl := owned.eq_of_id hc mem same
  exact still me used violations task

theorem RotationPending.commit {g m : Uuid} {sid : Option Uuid}
    (pending : gateway.RotationPending g m sid) (owned : Owned gateway) (mem : conn ∈ gateway.conns)
    (still : ∀ me used violations kind token,
      conn.task = .serving g me used violations (some (.rotateSweep kind token)) →
      me.peer.memberId = m → some me.peer.sessionId = sid) :
    (gateway.commit conn outcome).RotationPending g m sid := by
  obtain ⟨c, hc, me, used, violations, kind, token, task, member, other⟩ := pending
  refine ⟨c, other_mem_commit hc fun same => ?_, me, used, violations, kind, token, task, member, other⟩
  obtain rfl := owned.eq_of_id hc mem same
  exact other (still me used violations kind token task member)

theorem BanPending.of_noSweep {g m : Uuid} (pending : gateway.BanPending g m)
    (owned : Owned gateway) (mem : conn ∈ gateway.conns) (noSweep : conn.task.isSweep = false) :
    (gateway.commit conn outcome).BanPending g m := by
  refine pending.commit owned mem fun me used violations task => ?_
  rw [task] at noSweep
  cases noSweep

theorem RotationPending.of_noSweep {g m : Uuid} {sid : Option Uuid}
    (pending : gateway.RotationPending g m sid) (owned : Owned gateway) (mem : conn ∈ gateway.conns)
    (noSweep : conn.task.isSweep = false) :
    (gateway.commit conn outcome).RotationPending g m sid := by
  refine pending.commit owned mem fun me used violations kind token task => ?_
  rw [task] at noSweep
  cases noSweep

/-! ## Holders after a step -/

/-- Where a holder after a step comes from. -/
inductive HolderAfter (prims : Primitives) (gateway : Gateway) (conn : Conn) (outcome : Outcome)
    (g m : Uuid) (hash : List UInt8) (kicked : Bool) (sid : Option Uuid) : Prop where
  | unchanged (before : Holder prims gateway g m hash kicked sid)
      (elsewhere : sid = none ∨ conn.task.groupId ≠ some g)
  | session {group : GroupState} {client : ClientEntry} (known : group ∈ gateway.groups)
      (ofGroup : group.summary.groupId = g) (entry : client ∈ group.clients)
      (own : conn.task.groupId = some g) (member : client.peer.memberId = m)
      (held : (client.applyAll outcome.changes).heldHash = hash)
      (kick : (client.applyAll outcome.changes).kick.isSome = kicked)
      (id : some client.peer.sessionId = sid)
  | admitted (admission : outcome.task.admission prims = some (g, m, hash)) (outside : sid = none)

theorem Holder.after {g m : Uuid} {hash : List UInt8} {kicked : Bool} {sid : Option Uuid}
    (holder : Holder prims (gateway.commit conn outcome) g m hash kicked sid)
    (stays : ∀ client, .register client ∉ outcome.changes)
    (inserted : ∀ group, outcome.inserted = some group → group.clients = []) :
    HolderAfter prims gateway conn outcome g m hash kicked sid := by
  cases holder with
  | registered known ofGroup entry =>
    rcases mem_groups_commit known with ⟨group, old, own, rfl⟩ | ⟨old, other⟩ | new
    · rw [GroupState.applyAll_summary] at ofGroup
      subst ofGroup
      rcases GroupState.mem_applyAll entry with ⟨client, was, rfl⟩ | ⟨before, new, later, split, -⟩
      · exact .session old rfl was own (by simp) rfl rfl (by simp)
      · exact absurd (split ▸ List.mem_append_right before List.mem_cons_self) (stays new)
    · exact .unchanged (.registered old ofGroup entry) (.inr (ofGroup ▸ other))
    · rw [inserted _ new] at entry
      cases entry
  | admitted mem admission =>
    rcases mem_conns_commit mem with ⟨mem, -⟩ | rfl
    · exact .unchanged (.admitted mem admission) (.inl rfl)
    · exact .admitted admission rfl

/-- A holder after a step that kicks nobody was one before, or is an admission. -/
theorem Holder.before {g m : Uuid} {hash : List UInt8} {kicked : Bool} {sid : Option Uuid}
    (holder : Holder prims (gateway.commit conn outcome) g m hash kicked sid)
    (keeps : ∀ change ∈ outcome.changes, (∀ client, change ≠ .register client) ∧
      ∀ sessionId replaced hash, change ≠ .hold sessionId replaced hash)
    (inserted : ∀ group, outcome.inserted = some group → group.clients = []) :
    (∃ kicked₀, Holder prims gateway g m hash kicked₀ sid ∧ (kicked₀ = true → kicked = true)) ∨
      (outcome.task.admission prims = some (g, m, hash) ∧ sid = none) := by
  rcases holder.after (fun client mem => (keeps _ mem).1 client rfl) inserted with
    ⟨before, -⟩ | ⟨known, ofGroup, entry, own, rfl, rfl, rfl, rfl⟩ | ⟨admission, outside⟩
  · exact .inl ⟨kicked, before, id⟩
  · refine .inl ⟨_, ?_, ClientEntry.kick_applyAll⟩
    rw [ClientEntry.heldHash_applyAll fun change mem => (keeps change mem).2]
    exact .registered known ofGroup entry
  · exact .inr ⟨admission, outside⟩

/-! ## The invariant -/

theorem Calm.stale {store store' : GatewayStore} (calm : Calm store store') {g m : Uuid}
    {hash : List UInt8} (stale : ¬ store'.IsCurrent g m hash) : ¬ store.IsCurrent g m hash :=
  fun current => stale (calm.current current)

/-- Steps that neither ban, rotate nor sweep. -/
theorem RevocationInv.quiet (inv : RevocationInv prims gateway) (owned : Owned gateway)
    (mem : conn ∈ gateway.conns) (calm : Calm gateway.store outcome.store)
    (unique : outcome.store.MemberIdsUnique) (noSweep : conn.task.isSweep = false)
    (keeps : ∀ change ∈ outcome.changes, (∀ client, change ≠ .register client) ∧
      ∀ sessionId replaced hash, change ≠ .hold sessionId replaced hash)
    (inserted : ∀ group, outcome.inserted = some group → group.clients = [])
    (admission : ∀ g m hash, outcome.task.admission prims = some (g, m, hash) →
      conn.task.admission prims = some (g, m, hash) ∨
        (¬ outcome.store.IsBanned g m ∧ outcome.store.IsCurrent g m hash)) :
    RevocationInv prims (gateway.commit conn outcome) := by
  refine ⟨unique, ?_, ?_⟩
  · intro g m hash kicked sid holder banned
    have before : gateway.store.IsBanned g m := calm.banned banned
    rcases holder.before keeps inserted with ⟨kicked₀, old, grows⟩ | ⟨admitted, rfl⟩
    · refine (inv.banned old before).imp grows fun pending => ?_
      exact pending.of_noSweep owned mem noSweep
    · rcases admission g m hash admitted with old | ⟨notBanned, -⟩
      · refine (inv.banned (.admitted mem old) before).imp (fun h => by cases h) fun pending => ?_
        exact pending.of_noSweep owned mem noSweep
      · exact absurd banned notBanned
  · intro g m hash kicked sid holder stale
    have before : ¬ gateway.store.IsCurrent g m hash := calm.stale stale
    rcases holder.before keeps inserted with ⟨kicked₀, old, grows⟩ | ⟨admitted, rfl⟩
    · refine (inv.stale old before).imp grows fun pending => ?_
      exact pending.of_noSweep owned mem noSweep
    · rcases admission g m hash admitted with old | ⟨-, current⟩
      · refine (inv.stale (.admitted mem old) before).imp (fun h => by cases h) fun pending => ?_
        exact pending.of_noSweep owned mem noSweep
      · exact absurd current stale

/-- A registration: the admission becomes a session, under an id that no
pending sweep belongs to. -/
theorem RevocationInv.registers (inv : RevocationInv prims gateway) (owned : Owned gateway)
    (mem : conn ∈ gateway.conns) {g : Uuid} {entry : GroupEntry} {group : GroupState}
    {sessionId : Uuid} (task : conn.task = .entering g entry)
    (fresh : gateway.isFreshSession sessionId = true) :
    RevocationInv prims (gateway.commit conn (gateway.register group g entry sessionId)) := by
  have noSweep : conn.task.isSweep = false := by rw [task]; rfl
  have admission : conn.task.admission prims = some (g, entry.memberId, entry.heldHash) := by
    rw [task]; rfl
  -- every holder after the step was one before, the new session as an admission
  have before : ∀ {g' m hash kicked sid},
      Holder prims (gateway.commit conn (gateway.register group g entry sessionId)) g' m hash kicked
        sid → Holder prims gateway g' m hash kicked sid ∨
      (Holder prims gateway g' m hash kicked none ∧ sid = some sessionId) := by
    intro g' m hash kicked sid holder
    cases holder with
    | registered known ofGroup inGroup =>
      rcases mem_groups_commit known with ⟨old, was, own, rfl⟩ | ⟨was, -⟩ | new
      · rcases List.mem_append.1 inGroup with inGroup | new
        · exact .inl (.registered was ofGroup inGroup)
        · obtain rfl := List.mem_singleton.1 new
          rw [task] at own
          cases own
          subst ofGroup
          exact .inr ⟨.admitted mem admission, rfl⟩
      · exact .inl (.registered was ofGroup inGroup)
      · cases new
    | admitted inConns admitted =>
      rcases mem_conns_commit inConns with ⟨inConns, -⟩ | rfl
      · exact .inl (.admitted inConns admitted)
      · cases admitted
  refine ⟨inv.unique, ?_, ?_⟩
  · intro g' m hash kicked sid holder banned
    rcases before holder with old | ⟨old, -⟩
    all_goals exact (inv.banned old banned).imp_right fun pending =>
      pending.of_noSweep owned mem noSweep
  · intro g' m hash kicked sid holder stale
    rcases before holder with old | ⟨old, rfl⟩
    · exact (inv.stale old stale).imp_right fun pending => pending.of_noSweep owned mem noSweep
    · refine (inv.stale old stale).imp_right fun pending => ?_
      have later : (gateway.commit conn
          (gateway.register group g entry sessionId)).RotationPending g' m none :=
        pending.of_noSweep owned mem noSweep
      obtain ⟨c, hc, me, used, violations, kind, token, sweep, member, -⟩ := later
      refine ⟨c, hc, me, used, violations, kind, token, sweep, member, fun same => ?_⟩
      rcases mem_conns_commit hc with ⟨old, -⟩ | rfl
      · exact ne_of_isFreshSession fresh old (by rw [sweep]; rfl) (Option.some.inj same)
      · cases sweep

/-- A ban commits: its sweep is to come. -/
theorem RevocationInv.bans (inv : RevocationInv prims gateway) (owned : Owned gateway)
    (mem : conn ∈ gateway.conns) {g m : Uuid} {me : Session} {used violations : ℕ}
    (task : conn.task = .serving g me used violations (some (.banStore m true)))
    (committed : outcome.store = (gateway.store.perform prims (.setMemberBanned g m true)).2)
    (next : outcome.task = .serving g me used violations (some (.banSweep m)))
    (nothing : outcome.changes = [])
    (inserted : ∀ group, outcome.inserted = some group → group.clients = []) :
    RevocationInv prims (gateway.commit conn outcome) := by
  have noSweep : conn.task.isSweep = false := by rw [task]; rfl
  have keeps : ∀ change ∈ outcome.changes, (∀ client, change ≠ .register client) ∧
      ∀ sessionId replaced hash, change ≠ .hold sessionId replaced hash := by simp [nothing]
  have noAdmission : outcome.task.admission prims = none := by rw [next]; rfl
  refine ⟨?_, ?_, ?_⟩
  · change outcome.store.MemberIdsUnique
    rw [committed]
    exact GatewayStore.memberIdsUnique_perform prims inv.unique _
  · intro g' m' hash kicked sid holder banned
    rcases holder.before keeps inserted with ⟨kicked₀, old, grows⟩ | ⟨admitted, -⟩
    · replace banned : outcome.store.IsBanned g' m' := banned
      rw [committed] at banned
      rcases GatewayStore.isBanned_perform inv.unique banned with before | ⟨same, -⟩
      · exact (inv.banned old before).imp grows fun pending => pending.of_noSweep owned mem noSweep
      · cases same
        exact .inr ⟨_, after_mem_commit mem, me, used, violations, next⟩
    · rw [noAdmission] at admitted
      cases admitted
  · intro g' m' hash kicked sid holder stale
    rcases holder.before keeps inserted with ⟨kicked₀, old, grows⟩ | ⟨admitted, -⟩
    · have before : ¬ gateway.store.IsCurrent g' m' hash := by
        intro current
        refine stale ?_
        change outcome.store.IsCurrent g' m' hash
        rw [committed]
        rcases GatewayStore.isCurrent_perform current with after | ⟨_, _, _, rotation, -⟩
        · exact after
        · cases rotation
      exact (inv.stale old before).imp grows fun pending => pending.of_noSweep owned mem noSweep
    · rw [noAdmission] at admitted
      cases admitted

/-- A rotation commits: its sweep is to come for everyone but the session that
rotates, which holds the new token unless its own had been rotated away before. -/
theorem RevocationInv.rotates (inv : RevocationInv prims gateway) (owned : Owned gateway)
    (mem : conn ∈ gateway.conns) {g : Uuid} {me : Session} {used violations : ℕ}
    {kind : GroupTokenKind} {draw : Draw} {token : String}
    (task : conn.task = .serving g me used violations (some (.rotateStore kind)))
    (notInvite : kind ≠ .invite)
    (reply : (gateway.store.perform prims
      (.rotateGroupToken g me.peer.memberId kind draw)).1 = .token token)
    (committed : outcome.store =
      (gateway.store.perform prims (.rotateGroupToken g me.peer.memberId kind draw)).2)
    (next : outcome.task = .serving g me used violations (some (.rotateSweep kind token)))
    (held : outcome.changes = [.hold me.peer.sessionId
      (gateway.store.memberHash g me.peer.memberId) (tokenHash prims token)])
    (inserted : ∀ group, outcome.inserted = some group → group.clients = []) :
    RevocationInv prims (gateway.commit conn outcome) := by
  have noSweep : conn.task.isSweep = false := by rw [task]; rfl
  have session : conn.task.session = some (g, me) := by rw [task]; rfl
  have stays : ∀ client, .register client ∉ outcome.changes := by simp [held]
  have noAdmission : outcome.task.admission prims = none := by rw [next]; rfl
  have sweeps : ∀ {sid}, some me.peer.sessionId ≠ sid →
      (gateway.commit conn outcome).RotationPending g me.peer.memberId sid := fun other =>
    ⟨_, after_mem_commit mem, me, used, violations, kind, token, next, rfl, other⟩
  -- what was current and is not has been rotated away by this step
  have rotated : ∀ {g' m' hash}, ¬ outcome.store.IsCurrent g' m' hash →
      gateway.store.IsCurrent g' m' hash → g' = g ∧ m' = me.peer.memberId := by
    intro g' m' hash stale current
    rw [committed] at stale
    rcases GatewayStore.isCurrent_perform current with after | ⟨_, _, _, rotation, -⟩
    · exact absurd after stale
    · cases rotation
      exact ⟨rfl, rfl⟩
  refine ⟨?_, ?_, ?_⟩
  · change outcome.store.MemberIdsUnique
    rw [committed]
    exact GatewayStore.memberIdsUnique_perform prims inv.unique _
  · intro g' m' hash kicked sid holder banned
    replace banned : outcome.store.IsBanned g' m' := banned
    have before : gateway.store.IsBanned g' m' := by
      rw [committed] at banned
      rcases GatewayStore.isBanned_perform inv.unique banned with before | ⟨ban, -⟩
      · exact before
      · cases ban
    rcases holder.after stays inserted with
      ⟨old, -⟩ | ⟨known, ofGroup, entry, -, rfl, -, rfl, -⟩ | ⟨admitted, -⟩
    · exact (inv.banned old before).imp_right fun pending => pending.of_noSweep owned mem noSweep
    · refine (inv.banned (.registered known ofGroup entry) before).imp ClientEntry.kick_applyAll
        fun pending => pending.of_noSweep owned mem noSweep
    · rw [noAdmission] at admitted
      cases admitted
  · intro g' m' hash kicked sid holder stale
    replace stale : ¬ outcome.store.IsCurrent g' m' hash := stale
    rcases holder.after stays inserted with
      ⟨old, elsewhere⟩ | ⟨known, ofGroup, entry, own, rfl, rfl, rfl, rfl⟩ | ⟨admitted, -⟩
    · by_cases current : gateway.store.IsCurrent g' m' hash
      · obtain ⟨rfl, rfl⟩ := rotated stale current
        rcases elsewhere with rfl | elsewhere
        · exact .inr (sweeps nofun)
        · exact absurd (by rw [task]; rfl) elsewhere
      · exact (inv.stale old current).imp_right fun pending =>
          pending.of_noSweep owned mem noSweep
    · rename_i group client
      have before : ¬ gateway.store.IsCurrent g' client.peer.memberId client.heldHash →
          (client.applyAll outcome.changes).kick.isSome = true ∨
            (gateway.commit conn outcome).RotationPending g' client.peer.memberId
              (some client.peer.sessionId) := fun gone =>
        (inv.stale (.registered known ofGroup entry) gone).imp ClientEntry.kick_applyAll
          fun pending => pending.of_noSweep owned mem noSweep
      have mine : g' = g := by
        rw [task] at own
        exact (Option.some.inj own).symm
      subst mine
      by_cases self : client.peer.sessionId = me.peer.sessionId
      · obtain ⟨peer, -, -⟩ := owned.peer_eq mem session known entry self
        by_cases follows : client.heldHash = gateway.store.memberHash g' me.peer.memberId
        · have new : (client.applyAll outcome.changes).heldHash = tokenHash prims token := by
            rw [held]
            simp [ClientEntry.apply, self, follows]
          rw [new, peer, committed] at stale
          exact absurd (GatewayStore.isCurrent_rotated notInvite reply) stale
        · refine before fun current => follows ?_
          rw [← peer]
          exact (inv.unique.memberHash_eq current).symm
      · by_cases current : gateway.store.IsCurrent g' client.peer.memberId client.heldHash
        · have keeps : (client.applyAll outcome.changes).heldHash = client.heldHash := by
            rw [held]
            simp [ClientEntry.apply, self]
          rw [keeps] at stale
          obtain ⟨-, member⟩ := rotated stale current
          rw [member]
          exact .inr (sweeps fun same => self (Option.some.inj same).symm)
        · exact before current
    · rw [noAdmission] at admitted
      cases admitted

/-- The sweep of a ban. -/
theorem RevocationInv.sweepsBan (inv : RevocationInv prims gateway) (owned : Owned gateway)
    (mem : conn ∈ gateway.conns) {g m : Uuid} {me : Session} {used violations : ℕ}
    {handler : Option Handler}
    (task : conn.task = .serving g me used violations (some (.banSweep m)))
    (same : outcome.store = gateway.store)
    (next : outcome.task = .serving g me used violations handler)
    (kicks : outcome.changes = [.kick (.member m) .banned])
    (inserted : ∀ group, outcome.inserted = some group → group.clients = [])
    (sees : ∀ d ∈ gateway.conns, ∀ hash, d.task.admission prims = some (g, m, hash) →
      gateway.store.IsBanned g m → ∃ c' ∈ gateway.conns, c'.id ≠ conn.id ∧
        ∃ me' used' violations', c'.task = .serving g me' used' violations' (some (.banSweep m))) :
    RevocationInv prims (gateway.commit conn outcome) := by
  have keeps : ∀ change ∈ outcome.changes, (∀ client, change ≠ .register client) ∧
      ∀ sessionId replaced hash, change ≠ .hold sessionId replaced hash := by simp [kicks]
  have stays : ∀ client, .register client ∉ outcome.changes := by simp [kicks]
  have noAdmission : outcome.task.admission prims = none := by rw [next]; rfl
  refine ⟨?_, ?_, ?_⟩
  · change outcome.store.MemberIdsUnique
    rw [same]
    exact inv.unique
  · intro g' m' hash kicked sid holder banned
    replace banned : gateway.store.IsBanned g' m' := same ▸ banned
    rcases holder.after stays inserted with
      ⟨old, elsewhere⟩ | ⟨known, ofGroup, entry, own, rfl, -, rfl, -⟩ | ⟨admitted, -⟩
    · rcases inv.banned old banned with kicked | pending
      · exact .inl kicked
      · by_cases swept : g' = g ∧ m' = m
        · obtain ⟨rfl, rfl⟩ := swept
          rcases elsewhere with rfl | elsewhere
          · obtain ⟨d, inConns, admission⟩ := old.of_none
            obtain ⟨c', hc', other, later⟩ := sees d inConns hash admission banned
            exact .inr ⟨c', other_mem_commit hc' other, later⟩
          · exact absurd (by rw [task]; rfl) elsewhere
        · refine .inr (pending.commit owned mem fun me' used' violations' task' => swept ?_)
          rw [task] at task'
          cases task'
          exact ⟨rfl, rfl⟩
    · rename_i group client
      by_cases swept : client.peer.memberId = m
      · left
        rw [kicks]
        simp [ClientEntry.apply, Recipients.selects, swept]
      · refine (inv.banned (.registered known ofGroup entry) banned).imp ClientEntry.kick_applyAll
          fun pending => pending.commit owned mem fun me' used' violations' task' => swept ?_
        rw [task] at task'
        cases task'
        rfl
    · rw [noAdmission] at admitted
      cases admitted
  · intro g' m' hash kicked sid holder stale
    replace stale : ¬ gateway.store.IsCurrent g' m' hash := same ▸ stale
    rcases holder.before keeps inserted with ⟨kicked₀, old, grows⟩ | ⟨admitted, -⟩
    · refine (inv.stale old stale).imp grows fun pending => ?_
      refine pending.commit owned mem fun me' used' violations' kind token task' => ?_
      rw [task] at task'
      cases task'
    · rw [noAdmission] at admitted
      cases admitted

/-- The sweep of a rotation. -/
theorem RevocationInv.sweepsRotation (inv : RevocationInv prims gateway) (owned : Owned gateway)
    (mem : conn ∈ gateway.conns) {g : Uuid} {me : Session} {used violations : ℕ}
    {kind : GroupTokenKind} {token : String} {handler : Option Handler}
    (task : conn.task = .serving g me used violations (some (.rotateSweep kind token)))
    (same : outcome.store = gateway.store)
    (next : outcome.task = .serving g me used violations handler)
    (kicks : ∃ message, outcome.changes =
      [.kick (.otherSessions me.peer.memberId me.peer.sessionId) .credentialRotated,
        .send (.session me.peer.sessionId) message])
    (inserted : ∀ group, outcome.inserted = some group → group.clients = [])
    (sees : ∀ d ∈ gateway.conns, ∀ hash,
      d.task.admission prims = some (g, me.peer.memberId, hash) →
      ¬ gateway.store.IsCurrent g me.peer.memberId hash → ∃ c' ∈ gateway.conns, c'.id ≠ conn.id ∧
        ∃ me' used' violations' kind' token',
          c'.task = .serving g me' used' violations' (some (.rotateSweep kind' token')) ∧
            me'.peer.memberId = me.peer.memberId) :
    RevocationInv prims (gateway.commit conn outcome) := by
  obtain ⟨message, kicks⟩ := kicks
  have keeps : ∀ change ∈ outcome.changes, (∀ client, change ≠ .register client) ∧
      ∀ sessionId replaced hash, change ≠ .hold sessionId replaced hash := by simp [kicks]
  have stays : ∀ client, .register client ∉ outcome.changes := by simp [kicks]
  have noAdmission : outcome.task.admission prims = none := by rw [next]; rfl
  refine ⟨?_, ?_, ?_⟩
  · change outcome.store.MemberIdsUnique
    rw [same]
    exact inv.unique
  · intro g' m' hash kicked sid holder banned
    replace banned : gateway.store.IsBanned g' m' := same ▸ banned
    rcases holder.before keeps inserted with ⟨kicked₀, old, grows⟩ | ⟨admitted, -⟩
    · refine (inv.banned old banned).imp grows fun pending => ?_
      refine pending.commit owned mem fun me' used' violations' task' => ?_
      rw [task] at task'
      cases task'
    · rw [noAdmission] at admitted
      cases admitted
  · intro g' m' hash kicked sid holder stale
    replace stale : ¬ gateway.store.IsCurrent g' m' hash := same ▸ stale
    rcases holder.after stays inserted with
      ⟨old, elsewhere⟩ | ⟨known, ofGroup, entry, own, rfl, held, rfl, rfl⟩ | ⟨admitted, -⟩
    · rcases inv.stale old stale with kicked | pending
      · exact .inl kicked
      · by_cases swept : g' = g ∧ m' = me.peer.memberId
        · obtain ⟨rfl, rfl⟩ := swept
          rcases elsewhere with rfl | elsewhere
          · obtain ⟨d, inConns, admission⟩ := old.of_none
            obtain ⟨c', hc', other, me', used', violations', kind', token', task', member⟩ :=
              sees d inConns hash admission stale
            exact .inr ⟨c', other_mem_commit hc' other, me', used', violations', kind', token',
              task', member, nofun⟩
          · exact absurd (by rw [task]; rfl) elsewhere
        · refine .inr (pending.commit owned mem
            fun me' used' violations' kind' token' task' member => absurd ?_ swept)
          rw [task] at task'
          cases task'
          exact ⟨rfl, member.symm⟩
    · rename_i group client
      have same : (client.applyAll outcome.changes).heldHash = client.heldHash :=
        ClientEntry.heldHash_applyAll fun change inChanges => (keeps change inChanges).2
      rw [← held, same] at stale
      by_cases swept : client.peer.memberId = me.peer.memberId ∧
          client.peer.sessionId ≠ me.peer.sessionId
      · left
        rw [kicks]
        rw [ClientEntry.applyAll_cons]
        refine ClientEntry.kick_applyAll ?_
        simp [ClientEntry.apply, Recipients.selects, swept.1, swept.2]
      · refine (inv.stale (.registered known ofGroup entry) stale).imp ClientEntry.kick_applyAll
          fun pending => pending.commit owned mem
            fun me' used' violations' kind' token' task' member => ?_
        rw [task] at task'
        cases task'
        by_contra other
        exact swept ⟨member.symm, fun same => other (congrArg some same.symm)⟩
    · rw [noAdmission] at admitted
      cases admitted

/-! ## Runs -/

theorem RevocationInv.spawned (start : Spawned gateway) : RevocationInv prims gateway := by
  obtain ⟨key, name, draw, h⟩ := start
  obtain ⟨-, store, groups, conns⟩ := spawnGateway_ok h
  have noHolder : ∀ {g m hash kicked sid}, ¬ Holder prims gateway g m hash kicked sid := by
    intro g m hash kicked sid holder
    cases holder with
    | registered known ofGroup entry =>
      rw [groups] at known
      simp [loadGroups_empty _ known] at entry
    | admitted mem admission => simp [conns] at mem
  refine ⟨?_, fun holder => absurd holder noHolder, fun holder => absurd holder noHolder⟩
  rw [store]
  exact List.nodup_nil

/-- **The step lemma.** -/
theorem RevocationInv.step {action : Action} (inv : RevocationInv prims gateway)
    (owned : Owned gateway) (sees : SweepsSeeAdmissions prims gateway action)
    (h : gateway.step prims action = some gateway') : RevocationInv prims gateway' := by
  rcases step_cases h with
    ⟨id, remote, -, -, rfl⟩ | ⟨-, rfl⟩ | ⟨conn, mem, actor, outcome, taken, rfl⟩
  · -- a new connection holds nothing
    have before : ∀ {g m hash kicked sid}, Holder prims { gateway with
        conns := gateway.conns ++ [{ id, remote, task := .hello, written := [] }] } g m hash kicked
        sid → Holder prims gateway g m hash kicked sid := by
      intro g m hash kicked sid holder
      cases holder with
      | registered known ofGroup entry => exact .registered known ofGroup entry
      | admitted inConns admission =>
        rcases List.mem_append.1 inConns with inConns | new
        · exact .admitted inConns admission
        · rw [List.mem_singleton.1 new] at admission
          cases admission
    refine ⟨inv.unique, fun holder banned => ?_, fun holder stale => ?_⟩
    · refine (inv.banned (before holder) banned).imp_right ?_
      rintro ⟨c, hc, pending⟩
      exact ⟨c, List.mem_append_left _ hc, pending⟩
    · refine (inv.stale (before holder) stale).imp_right ?_
      rintro ⟨c, hc, pending⟩
      exact ⟨c, List.mem_append_left _ hc, pending⟩
  · -- nobody is connected after a restart
    have noHolder : ∀ {g m hash kicked sid}, ¬ Holder prims { gateway with
        groups := loadGroups gateway.store,
        conns := gateway.conns.map fun conn => { conn with task := .closed } } g m hash kicked
        sid := by
      intro g m hash kicked sid holder
      cases holder with
      | registered known ofGroup entry => simp [loadGroups_empty _ known] at entry
      | admitted inConns admission =>
        obtain ⟨c, -, rfl⟩ := List.mem_map.1 inConns
        cases admission
    exact ⟨inv.unique, fun holder => absurd holder noHolder, fun holder => absurd holder noHolder⟩
  · have inserted := inserted_clients taken
    have unique : outcome.store.MemberIdsUnique := by
      rcases store_cases taken with same | ⟨op, performed⟩
      · rw [same]
        exact inv.unique
      · rw [performed]
        exact GatewayStore.memberIdsUnique_perform prims inv.unique op
    cases holderStep inv.unique taken with
    | quiet calm noSweep admission keeps =>
      refine inv.quiet owned mem calm unique noSweep keeps inserted fun g m hash admitted => ?_
      rcases admission with none | same
      · rw [none] at admitted
        cases admitted
      · exact .inl (same ▸ admitted)
    | admits calm noSweep admission notBanned current nothing =>
      refine inv.quiet owned mem calm unique noSweep (by simp [nothing]) inserted
        fun g m hash admitted => ?_
      rw [admission] at admitted
      cases admitted
      exact .inr ⟨notBanned, current⟩
    | registers task fresh registered =>
      subst registered
      exact inv.registers owned mem task fresh
    | bans task committed next nothing =>
      exact inv.bans owned mem task committed next nothing inserted
    | rotates task notInvite reply committed next held =>
      exact inv.rotates owned mem task notInvite reply committed next held inserted
    | sweepsBan task same next kicks =>
      refine inv.sweepsBan owned mem task same next kicks inserted fun d inConns hash admission => ?_
      exact (sees conn mem actor _ _ _ _ _ task d inConns _ hash admission).1 rfl
    | sweepsRotation task same next kicks =>
      refine inv.sweepsRotation owned mem task same next kicks inserted
        fun d inConns hash admission => ?_
      exact (sees conn mem actor _ _ _ _ _ task d inConns _ hash admission).2 _ _ rfl rfl

/-- **Revocation reaches every session, where sweeps see the admissions.** When
no ban or rotation stands between its commit and its sweep, every registered
session whose membership is banned, or whose token another session has rotated
away, has been kicked. -/
theorem revocation_complete {start gateway : Gateway} {actions : List Action}
    (spawned : Spawned start)
    (run : Run (Gateway.step prims) (SweepsSeeAdmissions prims) start actions gateway)
    (swept : ∀ c ∈ gateway.conns, c.task.isSweep = false) :
    ∀ group ∈ gateway.groups, ∀ client ∈ group.clients,
      gateway.store.IsBanned group.summary.groupId client.peer.memberId ∨
        ¬ gateway.store.IsCurrent group.summary.groupId client.peer.memberId client.heldHash →
      client.kick.isSome = true := by
  intro group known client entry revoked
  have inv := (run.preserves (I := fun s => Owned s ∧ RevocationInv prims s)
    (fun _ _ _ invs sees h => ⟨owned_step invs.1 h, invs.2.step invs.1 sees h⟩)
    ⟨owned_spawned spawned, .spawned spawned⟩).2
  rcases revoked with banned | stale
  · rcases inv.banned (.registered known rfl entry) banned with kicked | ⟨c, hc, _, _, _, task⟩
    · exact kicked
    · have sweeping := swept c hc
      rw [task] at sweeping
      cases sweeping
  · rcases inv.stale (.registered known rfl entry) stale with
      kicked | ⟨c, hc, _, _, _, _, _, task, -⟩
    · exact kicked
    · have sweeping := swept c hc
      rw [task] at sweeping
      cases sweeping

/-- No sweep meets an admission: a check that implies `SweepsSeeAdmissions`. -/
def noSweepMeetsAdmission (prims : Primitives) (gateway : Gateway) : Bool :=
  gateway.conns.all (fun c => !c.task.isSweep) ||
    gateway.conns.all fun c => (c.task.admission prims).isNone

theorem sweepsSee_of_check (action : Action) (h : gateway.noSweepMeetsAdmission prims = true) :
    SweepsSeeAdmissions prims gateway action := by
  intro c hc _ g me used violations handler task d hd m hash admission
  rcases Bool.or_eq_true_iff.1 h with calm | alone
  · have noSweep := List.all_eq_true.1 calm c hc
    rw [task] at noSweep
    constructor
    · rintro rfl
      cases noSweep
    · rintro kind token rfl
      cases noSweep
  · have outside := List.all_eq_true.1 alone d hd
    rw [admission] at outside
    cases outside

theorem sweepsSee_of_undisturbed (action : Action) (h : gateway.isUndisturbed = true) :
    SweepsSeeAdmissions prims gateway action := by
  intro c hc _ g me used violations handler task
  have none := isUndisturbed_handler h hc
  rw [task] at none
  cases none

/-- Some registered session of a banned member, kicked or not. -/
def hasBannedSession (kicked : Bool) (gateway : Gateway) : Bool :=
  gateway.groups.any fun group => group.clients.any fun client =>
    (client.kick.isSome == kicked) &&
      gateway.store.IsBanned group.summary.groupId client.peer.memberId

/-- Connection 1 bans the member, up to the session loop. -/
def bansMember (memberId : Uuid) : List Action :=
  .receive 1 (.setMemberBanned memberId true) false :: advances 1 6

theorem revocation_complete_ban_of_session : ∃ gateway, Reachable .checksummed gateway ∧
    ∃ group ∈ gateway.groups, ∃ client ∈ group.clients,
      gateway.store.IsBanned group.summary.groupId client.peer.memberId ∧
        client.kick.isSome = true := by
  have ran : (exec (step .checksummed) (noSweepMeetsAdmission .checksummed) teamOfTwo
      (bansMember ⟨30⟩)).any (fun gateway =>
        gateway.conns.all (fun c => !c.task.isSweep) && gateway.hasBannedSession true) = true := by
    decide +kernel
  obtain ⟨gateway, ran, checked⟩ := (Option.any_eq_true _ _).1 ran
  obtain ⟨swept, session⟩ := Bool.and_eq_true_iff.1 checked
  obtain ⟨group, known, session⟩ := List.any_eq_true.1 session
  obtain ⟨client, entry, session⟩ := List.any_eq_true.1 session
  have banned := of_decide_eq_true (Bool.and_eq_true_iff.1 session).2
  have before := run_teamOfTwo.mono fun _ action undisturbed =>
    @sweepsSee_of_undisturbed .checksummed _ action undisturbed
  have run := before.append (run_of_exec (fun _ => sweepsSee_of_check) ran)
  refine ⟨gateway, ⟨_, _, spawned_blank, run.mono fun _ _ _ => trivial⟩, group, known, client, entry,
    banned, ?_⟩
  refine revocation_complete spawned_blank run (fun c hc => ?_) group known client entry (.inl banned)
  simpa using List.all_eq_true.1 swept c hc

/-- A ban that is swept between the `authorize_join` of the member and its
registration leaves the session connected. -/
theorem ban_misses_admission : ¬ ∀ gateway, Reachable .checksummed gateway →
    (∀ c ∈ gateway.conns, c.task.isIdle = true) →
    ∀ group ∈ gateway.groups, ∀ client ∈ group.clients,
      gateway.store.IsBanned group.summary.groupId client.peer.memberId →
        client.kick.isSome = true := by
  intro claim
  obtain ⟨gateway, reachable, checked⟩ := exists_reachable reachable_founded
    (authorizes 2 30 ++ bansMember ⟨30⟩ ++ enters 2 40)
    (fun gateway => gateway.conns.all (fun c => c.task.isIdle) &&
      gateway.hasBannedSession false) (by decide +kernel)
  obtain ⟨idle, session⟩ := Bool.and_eq_true_iff.1 checked
  obtain ⟨group, known, session⟩ := List.any_eq_true.1 session
  obtain ⟨client, entry, session⟩ := List.any_eq_true.1 session
  obtain ⟨missed, banned⟩ := Bool.and_eq_true_iff.1 session
  have kicked := claim gateway reachable (List.all_eq_true.1 idle) group known client entry
    (of_decide_eq_true banned)
  rw [kicked] at missed
  cases missed

end Gateway

end LanChat
