import LanChat.Storage.Migration
import LanChat.Storage.Tokens

/-!
# The administrator of a group

The credential of an administrator is stored twice, in its membership and in
its group. `Administrators` says that the two always agree, from an empty store
and from a migrated one alike: the memberships whose hash is that of their group
are those of role admin.
-/

namespace LanChat

open GatewayStore

/-- The tokens a run draws are new to the store it starts from. -/
def NewTokens (prims : Primitives) (start : GatewayStore) (ops : List StoreOp) : Prop :=
  ∀ token ∈ ops.flatMap StoreOp.tokens, ∀ row ∈ start.groups,
    row.adminTokenHash ≠ some (tokenHash prims token)

/-- The group a reply has created. -/
def StoreOp.creates : StoreOp × StoreReply → Option Uuid
  | (.createGroup _ _, .group (some summary)) => some summary.groupId
  | (.createGroupWithAccess _ _ _, .created created) => some created.summary.groupId
  | _ => none

namespace GatewayStore

variable {prims : Primitives} {start store store' : GatewayStore} {op : StoreOp} {reply : StoreReply}
  {drawn : List String}

/-- The hash is an administrator's from the start, or that of a drawn token. -/
def KnownHash (prims : Primitives) (start : GatewayStore) (drawn : List String) (hash : List UInt8) :
    Prop :=
  (∃ row ∈ start.groups, row.adminTokenHash = some hash) ∨ ∃ token ∈ drawn, hash = tokenHash prims token

/-- **Memberships and groups agree on who is the administrator.** -/
structure Administrators (prims : Primitives) (start : GatewayStore) (drawn : List String)
    (store : GatewayStore) : Prop where
  groupIds : store.GroupIdsUnique
  memberIds : store.MemberIdsUnique
  grouped : ∀ m ∈ store.memberTable, store.hasGroup m.groupId = true
  hashes : ∀ m ∈ store.memberTable, ∀ m' ∈ store.memberTable, m.groupId = m'.groupId →
    m.credentialHash = m'.credentialHash → m = m'
  known : ∀ m ∈ store.memberTable, KnownHash prims start drawn m.credentialHash
  knownAdmin : ∀ row ∈ store.groups, ∀ hash, row.adminTokenHash = some hash →
    KnownHash prims start drawn hash
  valid : ∀ token ∈ drawn, isValidGroupCredential token = true
  active : ∀ m ∈ store.memberTable, m.role = .admin → m.status = .active
  agrees : ∀ m ∈ store.memberTable, ∀ row ∈ store.groups, row.groupId = m.groupId →
    (row.adminTokenHash = some m.credentialHash ↔ m.role = .admin)

theorem Administrators.opened (prims : Primitives) (opened : Opened start) :
    Administrators prims start [] start := by
  have noMembers : start.memberTable = [] := by rw [memberTable, opened.groupMembers, List.map_nil]
  constructor
  · exact opened.groupIdsUnique
  · rw [MemberIdsUnique, opened.groupMembers]
    exact List.nodup_nil
  all_goals try simp [noMembers]
  exact fun row mem hash current => .inl ⟨row, mem, current⟩

/-- At most one administrator in a group. -/
theorem Administrators.unique (admins : Administrators prims start drawn store) {m m' : Membership}
    (mem : m ∈ store.memberTable) (mem' : m' ∈ store.memberTable) (group : m.groupId = m'.groupId)
    (role : m.role = .admin) (role' : m'.role = .admin) : m = m' := by
  obtain ⟨row, inGroups, ofGroup⟩ := hasGroup_iff.1 (admins.grouped m mem)
  have current := (admins.agrees m mem row inGroups ofGroup).2 role
  have current' := (admins.agrees m' mem' row inGroups (ofGroup.trans group)).2 role'
  exact admins.hashes m mem m' mem' group (Option.some.inj (current.symm.trans current'))

theorem KnownHash.grow {hash : List UInt8} (known : KnownHash prims start drawn hash)
    (more : List String) : KnownHash prims start (drawn ++ more) hash :=
  known.imp_right fun ⟨token, mem, same⟩ => ⟨token, List.mem_append_left _ mem, same⟩

theorem KnownHash.ofDrawn {token : String} {more : List String} (mem : token ∈ more) :
    KnownHash prims start (drawn ++ more) (tokenHash prims token) :=
  .inr ⟨token, List.mem_append_right _ mem, rfl⟩

/-- A token drawn now has a hash that is not known yet. -/
theorem Administrators.unknown (admins : Administrators prims start drawn store)
    (inj : TokenHashInjective prims) (fresh : ∀ token ∈ op.tokens, token ∉ drawn)
    (new : NewTokens prims start [op]) {token : String} (mem : token ∈ op.tokens) :
    ¬ KnownHash prims start drawn (tokenHash prims token) := by
  rintro (⟨row, inGroups, current⟩ | ⟨old, before, same⟩)
  · exact new token (by simpa using mem) row inGroups current
  · rw [inj token old (isValid_of_tokens mem) (admins.valid old before) same] at mem
    exact fresh old mem before

theorem Administrators.known_step (admins : Administrators prims start drawn store)
    (step : CredentialStep prims store op reply store') {m : Membership}
    (mem : m ∈ store'.memberTable) : KnownHash prims start (drawn ++ op.tokens) m.credentialHash := by
  have kept : ∀ old ∈ store.memberTable,
      KnownHash prims start (drawn ++ op.tokens) old.credentialHash :=
    fun old before => (admins.known old before).grow _
  cases step with
  | same _ _ _ members | full _ _ _ _ members | requested _ _ _ _ _ _ _ members
  | decided _ _ members | rotatedInvite _ _ _ _ _ _ members =>
    rw [members] at mem
    exact kept m mem
  | created _ drawn _ _ _ _ _ _ members =>
    rw [members] at mem
    rcases List.mem_append.1 mem with before | new
    · exact kept m before
    · rw [List.mem_singleton.1 new]
      exact .ofDrawn (drawn ▸ List.mem_cons_self)
  | administrator _ found current _ _ _ members =>
    rw [members] at mem
    rcases List.mem_append.1 mem with before | new
    · exact kept m before
    · rw [List.mem_singleton.1 new]
      exact (admins.knownAdmin _ (findGroup_some found).1 _ current).grow _
  | admitted generated _ _ _ _ _ _ _ members =>
    rw [members] at mem
    rcases List.mem_append.1 mem with before | new
    · exact kept m before
    · rw [List.mem_singleton.1 new]
      exact .ofDrawn (List.mem_singleton.2 generated)
  | banned _ _ members =>
    rw [members] at mem
    rcases Table.mem_updateWhere.1 mem with ⟨before, -⟩ | ⟨old, before, -, rfl⟩
    · exact kept m before
    · exact kept old before
  | rotated _ generated _ _ _ _ members =>
    rw [members] at mem
    rcases Table.mem_updateWhere.1 mem with ⟨before, -⟩ | ⟨old, before, -, rfl⟩
    · exact kept m before
    · exact .ofDrawn (List.mem_singleton.2 generated)

theorem Administrators.knownAdmin_step (admins : Administrators prims start drawn store)
    (step : CredentialStep prims store op reply store') {row : GroupRow} (mem : row ∈ store'.groups)
    {hash : List UInt8} (current : row.adminTokenHash = some hash) :
    KnownHash prims start (drawn ++ op.tokens) hash := by
  have kept : ∀ old ∈ store.groups, old.adminTokenHash = some hash →
      KnownHash prims start (drawn ++ op.tokens) hash :=
    fun old before current => (admins.knownAdmin old before hash current).grow _
  cases step with
  | same _ groups | administrator _ _ _ _ groups | full _ _ groups | admitted _ _ _ _ _ _ groups
  | requested _ _ _ _ _ groups | decided groups | banned groups =>
    rw [groups] at mem
    exact kept row mem current
  | created _ drawn adminHash _ _ _ groups =>
    rw [groups] at mem
    rcases List.mem_append.1 mem with before | new
    · exact kept row before current
    · rw [List.mem_singleton.1 new, adminHash, Option.some.injEq] at current
      rw [← current]
      exact .ofDrawn (drawn ▸ List.mem_cons_self)
  | rotatedInvite _ _ _ _ groups =>
    rw [groups] at mem
    rcases Table.mem_updateWhere.1 mem with ⟨before, -⟩ | ⟨old, before, -, rfl⟩
    · exact kept row before current
    · exact kept old before current
  | @rotated _ _ kind _ _ _ _ generated _ _ groups =>
    rw [groups] at mem
    cases kind with
    | member | invite => exact kept row mem current
    | admin =>
      rcases Table.mem_updateWhere.1 mem with ⟨before, -⟩ | ⟨old, before, -, rfl⟩
      · exact kept row before current
      · rw [← Option.some.inj current]
        exact .ofDrawn (List.mem_singleton.2 generated)

theorem Administrators.active_step (admins : Administrators prims start drawn store)
    (step : CredentialStep prims store op reply store') {m : Membership}
    (mem : m ∈ store'.memberTable) (role : m.role = .admin) : m.status = .active := by
  cases step with
  | same _ _ _ members | full _ _ _ _ members | requested _ _ _ _ _ _ _ members
  | decided _ _ members | rotatedInvite _ _ _ _ _ _ members =>
    rw [members] at mem
    exact admins.active m mem role
  | created _ _ _ _ _ _ _ _ members | administrator _ _ _ _ _ _ members
  | admitted _ _ _ _ _ _ _ _ members =>
    rw [members] at mem
    rcases List.mem_append.1 mem with before | new
    · exact admins.active m before role
    · rw [List.mem_singleton.1 new]
  | banned _ _ members =>
    rw [members] at mem
    rcases Table.mem_updateWhere.1 mem with ⟨before, -⟩ | ⟨old, before, selected, rfl⟩
    · exact admins.active m before role
    · -- a ban passes administrators by
      replace role : old.role = .admin := role
      simp [role] at selected
  | rotated _ _ _ _ _ _ members =>
    rw [members] at mem
    rcases Table.mem_updateWhere.1 mem with ⟨before, -⟩ | ⟨old, before, -, rfl⟩
    · exact admins.active m before role
    · exact admins.active old before role

theorem Administrators.hashes_step (admins : Administrators prims start drawn store)
    (inj : TokenHashInjective prims) (fresh : ∀ token ∈ op.tokens, token ∉ drawn)
    (new : NewTokens prims start [op]) (step : CredentialStep prims store op reply store') :
    ∀ m ∈ store'.memberTable, ∀ m' ∈ store'.memberTable, m.groupId = m'.groupId →
      m.credentialHash = m'.credentialHash → m = m' := by
  have added : ∀ row : Membership, (∀ m ∈ store.memberTable, m.groupId = row.groupId →
      m.credentialHash ≠ row.credentialHash) → ∀ m ∈ store.memberTable ++ [row],
      ∀ m' ∈ store.memberTable ++ [row], m.groupId = m'.groupId →
      m.credentialHash = m'.credentialHash → m = m' := by
    intro row apart m mem m' mem' group hash
    rcases List.mem_append.1 mem with before | new <;> rcases List.mem_append.1 mem' with before' | new'
    · exact admins.hashes m before m' before' group hash
    · obtain rfl := List.mem_singleton.1 new'
      exact absurd hash (apart m before group)
    · obtain rfl := List.mem_singleton.1 new
      exact absurd hash.symm (apart m' before' group.symm)
    · exact (List.mem_singleton.1 new).trans (List.mem_singleton.1 new').symm
  cases step with
  | same _ _ _ members | full _ _ _ _ members | requested _ _ _ _ _ _ _ members
  | decided _ _ members | rotatedInvite _ _ _ _ _ _ members =>
    rw [members]
    exact admins.hashes
  | created _ _ _ _ free _ _ _ members =>
    rw [members]
    refine added _ fun m mem group => ?_
    obtain ⟨row, inGroups, ofGroup⟩ := hasGroup_iff.1 (admins.grouped m mem)
    exact absurd (ofGroup.trans group) (free row inGroups)
  | administrator _ _ _ apart _ _ members | admitted _ _ _ _ _ apart _ _ members =>
    rw [members]
    exact added _ fun m mem => (apart m mem).2
  | banned _ _ members =>
    rw [members]
    intro m mem m' mem' group hash
    rcases Table.mem_updateWhere.1 mem with ⟨before, skipped⟩ | ⟨old, before, selected, rfl⟩ <;>
      rcases Table.mem_updateWhere.1 mem' with ⟨before', skipped'⟩ | ⟨old', before', selected', rfl⟩
    · exact admins.hashes m before m' before' group hash
    · obtain rfl := admins.hashes m before old' before' group hash
      rw [skipped] at selected'
      cases selected'
    · obtain rfl := admins.hashes old before m' before' group hash
      rw [skipped'] at selected
      cases selected
    · rw [admins.hashes old before old' before' group hash]
  | @rotated _ _ _ _ token _ _ generated _ _ _ _ members =>
    rw [members]
    have unknown := admins.unknown inj fresh new (List.mem_singleton.2 generated)
    have other : ∀ m ∈ store.memberTable, m.credentialHash ≠ tokenHash prims token := by
      intro m before same
      rw [← same] at unknown
      exact unknown (admins.known m before)
    intro m mem m' mem' group hash
    rcases Table.mem_updateWhere.1 mem with ⟨before, -⟩ | ⟨old, before, selected, rfl⟩ <;>
      rcases Table.mem_updateWhere.1 mem' with ⟨before', -⟩ | ⟨old', before', selected', rfl⟩
    · exact admins.hashes m before m' before' group hash
    · exact absurd hash (other m before)
    · exact absurd hash.symm (other m' before')
    · have same : old.memberId = old'.memberId :=
        (ids_of_replaces selected).2.trans (ids_of_replaces selected').2.symm
      rw [admins.memberIds.eq_of_memberId before before' same]

theorem Administrators.agrees_step (admins : Administrators prims start drawn store)
    (inj : TokenHashInjective prims) (fresh : ∀ token ∈ op.tokens, token ∉ drawn)
    (new : NewTokens prims start [op]) (step : CredentialStep prims store op reply store') :
    ∀ m ∈ store'.memberTable, ∀ row ∈ store'.groups, row.groupId = m.groupId →
      (row.adminTokenHash = some m.credentialHash ↔ m.role = .admin) := by
  cases step with
  | same _ groups _ members | full _ _ groups _ members | requested _ _ _ _ _ groups _ members
  | decided groups _ members =>
    rw [members, groups]
    exact admins.agrees
  | created _ _ adminHash _ free _ groups _ members =>
    rw [members, groups]
    have apart : ∀ m ∈ store.memberTable, m.groupId ≠ _ := fun m mem same => by
      obtain ⟨row, inGroups, ofGroup⟩ := hasGroup_iff.1 (admins.grouped m mem)
      exact free row inGroups (ofGroup.trans same)
    intro m mem row inGroups ofGroup
    rcases List.mem_append.1 mem with before | new <;>
      rcases List.mem_append.1 inGroups with beforeGroups | newGroup
    · exact admins.agrees m before row beforeGroups ofGroup
    · rw [List.mem_singleton.1 newGroup] at ofGroup
      exact absurd ofGroup.symm (apart m before)
    · rw [List.mem_singleton.1 new] at ofGroup
      exact absurd ofGroup (free row beforeGroups)
    · rw [List.mem_singleton.1 new, List.mem_singleton.1 newGroup]
      simp [adminHash]
  | @administrator g token _ _ found _ _ isGroup current _ groups _ members =>
    rw [members, groups]
    intro m mem row inGroups ofGroup
    rcases List.mem_append.1 mem with before | new
    · exact admins.agrees m before row inGroups ofGroup
    · rw [List.mem_singleton.1 new] at ofGroup ⊢
      obtain ⟨inGroups', ofGroup'⟩ := findGroup_some isGroup
      obtain rfl := groupIdsUnique_eq admins.groupIds inGroups inGroups' (ofGroup.trans ofGroup'.symm)
      simp [current]
  | admitted generated _ _ _ _ _ groups _ members =>
    rw [members, groups]
    intro m mem row inGroups ofGroup
    rcases List.mem_append.1 mem with before | new
    · exact admins.agrees m before row inGroups ofGroup
    · rw [List.mem_singleton.1 new]
      have unknown := admins.unknown inj fresh ‹_› (List.mem_singleton.2 generated)
      simp only [reduceCtorEq, iff_false]
      exact fun current => unknown (admins.knownAdmin row inGroups _ current)
  | banned groups _ members =>
    rw [members, groups]
    intro m mem row inGroups ofGroup
    rcases Table.mem_updateWhere.1 mem with ⟨before, -⟩ | ⟨old, before, -, rfl⟩
    · exact admins.agrees m before row inGroups ofGroup
    · exact admins.agrees old before row inGroups ofGroup
  | rotatedInvite _ _ _ _ groups _ members =>
    rw [members, groups]
    intro m mem row inGroups ofGroup
    rcases Table.mem_updateWhere.1 inGroups with ⟨before, -⟩ | ⟨old, before, -, rfl⟩
    · exact admins.agrees m mem row before ofGroup
    · exact admins.agrees m mem old before ofGroup
  | @rotated g actor kind _ token _ notInvite generated _ actorRow groups _ members =>
    rw [members, groups]
    have unknown := admins.unknown inj fresh new (List.mem_singleton.2 generated)
    have notCurrent : ∀ row ∈ store.groups, row.adminTokenHash ≠ some (tokenHash prims token) :=
      fun row inGroups current => unknown (admins.knownAdmin row inGroups _ current)
    intro m mem row inGroups ofGroup
    cases kind with
    | invite => exact absurd rfl notInvite
    | member =>
      rcases Table.mem_updateWhere.1 mem with ⟨before, -⟩ | ⟨old, before, selected, rfl⟩
      · exact admins.agrees m before row inGroups ofGroup
      · have role : old.role = .member := by
          simp only [replaces, rotates, rotatorRole, Bool.and_eq_true, beq_iff_eq] at selected
          exact selected.1.2
        simpa [role] using notCurrent row inGroups
    | admin =>
      have isAdmin : ∀ old, replaces g actor .admin old = true → old.groupId = g ∧ old.role = .admin := by
        intro old selected
        simp only [replaces, rotates, rotatorRole, Bool.and_eq_true, beq_iff_eq] at selected
        exact ⟨selected.1.1.1, selected.1.2⟩
      rcases Table.mem_updateWhere.1 inGroups with ⟨beforeGroups, otherGroup⟩ | ⟨row, beforeGroups, sameGroup, rfl⟩ <;>
        rcases Table.mem_updateWhere.1 mem with ⟨before, skipped⟩ | ⟨old, before, selected, rfl⟩
      · exact admins.agrees m before row beforeGroups ofGroup
      · rw [beq_eq_false_iff_ne] at otherGroup
        exact absurd (ofGroup.trans (isAdmin old selected).1) otherGroup
      · -- whoever else is in the group is a member: its administrator is the actor
        have notAdmin : m.role ≠ .admin := by
          intro role
          obtain ⟨own, ownRow, rotated, active⟩ := actorRow
          have isOwn : replaces g actor .admin own = true := by simp [replaces, rotated]
          have group : own.groupId = m.groupId :=
            (isAdmin own isOwn).1.trans ((beq_iff_eq.1 sameGroup).symm.trans ofGroup)
          rw [admins.unique ownRow before group (isAdmin own isOwn).2 role, skipped] at isOwn
          cases isOwn
        simp only [notAdmin, iff_false]
        intro current
        refine unknown ?_
        rw [Option.some.inj current]
        exact admins.known m before
      · simp [(isAdmin old selected).2]

/-- **One operation keeps the administrators.** -/
theorem Administrators.step (admins : Administrators prims start drawn store)
    (inj : TokenHashInjective prims) (fresh : ∀ token ∈ op.tokens, token ∉ drawn)
    (new : NewTokens prims start [op]) :
    Administrators prims start (drawn ++ op.tokens) (store.perform prims op).2 := by
  have step := credentialStep prims store op
  exact {
    groupIds := groupIdsUnique_perform prims admins.groupIds op
    memberIds := memberIdsUnique_perform prims admins.memberIds op
    grouped := fun _ mem => step.grouped admins.grouped (fun _ known => hasGroup_perform op known) mem
    hashes := admins.hashes_step inj fresh new step
    known := fun _ mem => admins.known_step step mem
    knownAdmin := fun _ mem _ current => admins.knownAdmin_step step mem current
    valid := fun token mem => (List.mem_append.1 mem).elim (admins.valid token) isValid_of_tokens
    active := fun _ mem role => admins.active_step step mem role
    agrees := admins.agrees_step inj fresh new step }

theorem administrators_performAll (inj : TokenHashInjective prims) (opened : Opened start)
    {ops : List StoreOp} (fresh : FreshTokens ops) (new : NewTokens prims start ops) :
    Administrators prims start (ops.flatMap StoreOp.tokens) (start.performAll prims ops).2 := by
  refine performAll_induction (motive := fun ops _ store => FreshTokens ops →
    NewTokens prims start ops → Administrators prims start (ops.flatMap StoreOp.tokens) store)
    ?_ ?_ ops fresh new
  · exact fun _ _ => .opened prims opened
  · intro ops op ih _ fresh new
    obtain ⟨before, -, apart⟩ := fresh.concat
    have earlier : NewTokens prims start ops := fun token mem => new token <| by
      rw [List.flatMap_append]
      exact List.mem_append_left _ mem
    have now : NewTokens prims start [op] := fun token mem => new token <| by
      rw [List.flatMap_append]
      exact List.mem_append_right _ mem
    rw [List.flatMap_append, List.flatMap_singleton]
    exact (ih before earlier).step inj apart now

/-- **No membership's role ever changes.** -/
theorem persists_performAll (ops₁ ops₂ : List StoreOp) {m : Membership}
    (mem : m ∈ (start.performAll prims ops₁).2.memberTable) :
    ∃ m' ∈ (start.performAll prims (ops₁ ++ ops₂)).2.memberTable,
      m'.groupId = m.groupId ∧ m'.memberId = m.memberId ∧ m'.role = m.role := by
  induction ops₂ using List.reverseRecOn with
  | nil =>
    rw [List.append_nil]
    exact ⟨m, mem, rfl, rfl, rfl⟩
  | append_singleton ops op ih =>
    rw [← List.append_assoc, performAll_concat]
    obtain ⟨old, before, group, member, role⟩ := ih
    obtain ⟨m', mem', group', member', role'⟩ :=
      (credentialStep prims (start.performAll prims (ops₁ ++ ops)).2 op).persists before
    exact ⟨m', mem', group'.trans group, member'.trans member, role'.trans role⟩

theorem issues_of_creates {g : Uuid} (creates : StoreOp.creates (op, reply) = some g) :
    ∃ creator token rest, op.issues reply = (g, .member creator, token) :: rest := by
  unfold StoreOp.creates at creates
  split at creates
  · rename_i same
    cases same
    cases creates
    exact ⟨_, _, [], rfl⟩
  · rename_i same
    cases same
    cases creates
    exact ⟨_, _, _, rfl⟩
  · cases creates

/-- A created group has its administrator. -/
theorem CredentialStep.creates (step : CredentialStep prims store op reply store') {g : Uuid}
    (creates : StoreOp.creates (op, reply) = some g) :
    ∃ m ∈ store'.memberTable, m.groupId = g ∧ m.role = .admin := by
  cases step with
  | same quiet =>
    obtain ⟨creator, token, rest, issued⟩ := issues_of_creates creates
    rw [quiet] at issued
    cases issued
  | created issued _ _ _ _ _ _ _ members =>
    obtain ⟨creator, token, rest, issued'⟩ := issues_of_creates creates
    rw [issued] at issued'
    cases issued'
    rw [members]
    exact ⟨_, List.mem_append_right _ (List.mem_singleton_self _), rfl, rfl⟩
  | _ => cases creates

theorem creates_performAll (ops : List StoreOp) :
    let run := start.performAll prims ops
    ∀ event ∈ run.1, ∀ g, StoreOp.creates event = some g →
      ∃ m ∈ run.2.memberTable, m.groupId = g ∧ m.role = .admin := by
  refine performAll_induction (motive := fun _ trace store => ∀ event ∈ trace, ∀ g,
    StoreOp.creates event = some g → ∃ m ∈ store.memberTable, m.groupId = g ∧ m.role = .admin)
    (by simp) ?_ ops
  intro ops op ih run event mem g creates
  have step := credentialStep prims run.2 op
  rcases List.mem_append.1 mem with before | now
  · obtain ⟨m, mem, group, role⟩ := ih event before g creates
    obtain ⟨m', mem', group', -, role'⟩ := step.persists mem
    exact ⟨m', mem', group'.trans group, role'.trans role⟩
  · rw [List.mem_singleton.1 now] at creates
    exact step.creates creates

/-- The current administrator token opens the administrator's membership. -/
theorem Administrators.authorizeJoin_admin (admins : Administrators prims start drawn store)
    {member : MemberRow} (mem : member ∈ store.groupMembers) (role : member.role = .admin)
    {row : GroupRow} (inGroups : row ∈ store.groups) (ofGroup : row.groupId = member.groupId)
    {token : String} {hash : List UInt8} (hashed : credentialHash prims token = .ok hash)
    (current : row.adminTokenHash = some hash) (nickname : String) (draw : Draw) :
    store.authorizeJoin prims member.groupId (some token) nickname draw =
      .ok (.allowed .admin member.memberId none,
        store.setNickname member.groupId member.memberId nickname) := by
  have inTable : member.membership ∈ store.memberTable := mem_memberTable.2 ⟨member, mem, rfl⟩
  have ownHash : member.credentialHash = hash := by
    have agreed := (admins.agrees _ inTable row inGroups ofGroup).2 role
    exact Option.some.inj (agreed.symm.trans current)
  have active : member.status = .active := admins.active _ inTable role
  obtain ⟨group, found⟩ := findGroup_of_hasGroup (admins.grouped _ inTable)
  replace found : store.findGroup member.groupId = some group := found
  -- a row with this hash is the administrator's
  have isMember : store.groupMembers.find? (fun m =>
      m.groupId == member.groupId && m.credentialHash == hash) = some member := by
    cases lookup : store.groupMembers.find? (fun m =>
        m.groupId == member.groupId && m.credentialHash == hash) with
    | none =>
      have missed := List.find?_eq_none.1 lookup member mem
      simp [ownHash] at missed
    | some other =>
      have selected := List.find?_some lookup
      simp only [Bool.and_eq_true, beq_iff_eq] at selected
      have inRows := List.mem_of_find?_eq_some lookup
      have same := admins.hashes _ (mem_memberTable.2 ⟨other, inRows, rfl⟩) _ inTable selected.1
        (selected.2.trans ownHash.symm)
      rw [admins.memberIds.eq inRows mem (congrArg Membership.memberId same)]
  simp only [authorizeJoin, found, hashed, ok_bind, isMember, active, role]
  rfl

/-- Nobody else joins as an administrator. -/
theorem Administrators.current_of_admin (admins : Administrators prims start drawn store) {g : Uuid}
    {credential : Option String} {nickname : String} {draw : Draw} {id : Uuid} {issued : Option String}
    (joined : store.authorizeJoin prims g credential nickname draw =
      .ok (.allowed .admin id issued, store')) :
    ∃ token hash row, credential = some token ∧ credentialHash prims token = .ok hash ∧
      row ∈ store.groups ∧ row.groupId = g ∧ row.adminTokenHash = some hash := by
  generalize outcome : JoinAuthorization.allowed .admin id issued = authorization at joined
  cases authorizeJoin_cases joined with
  | refused refusal => exact absurd outcome.symm (refusal _ _ _)
  | @known token member supplied mem ofGroup hashed =>
    have role : member.role = .admin := (JoinAuthorization.allowed.inj outcome).1.symm
    have inTable : member.membership ∈ store.memberTable := mem_memberTable.2 ⟨member, mem, rfl⟩
    obtain ⟨row, inGroups, same⟩ := hasGroup_iff.1 (admins.grouped _ inTable)
    exact ⟨token, _, row, supplied, hashed, inGroups, same.trans ofGroup,
      (admins.agrees _ inTable row inGroups same).2 role⟩
  | administrator supplied hashed found current =>
    obtain ⟨inGroups, ofGroup⟩ := findGroup_some found
    exact ⟨_, _, _, supplied, hashed, inGroups, ofGroup, current⟩
  | full => cases outcome
  | issued => cases outcome

end GatewayStore

open GatewayStore in
/-- **One administrator identity per group.** After any operations on a new or a
migrated store, a group has at most one membership of role admin, and one if it
has been created there; that membership is active and has the hash of the
group. Memberships keep their roles, so that the current administrator token
always opens the same membership, and no other credential opens one of role
admin. -/
theorem one_administrator (prims : Primitives) (inj : TokenHashInjective prims) (start : GatewayStore)
    (opened : Opened start) (ops : List StoreOp) (fresh : FreshTokens ops)
    (new : NewTokens prims start ops) :
    let run := start.performAll prims ops
    (∀ m ∈ run.2.groupMembers, m.role = .admin → m.status = .active ∧
      (∀ row ∈ run.2.groups, row.groupId = m.groupId → row.adminTokenHash = some m.credentialHash) ∧
      ∀ m' ∈ run.2.groupMembers, m'.groupId = m.groupId → m'.role = .admin → m' = m) ∧
    (∀ event ∈ run.1, ∀ g, StoreOp.creates event = some g →
      ∃ m ∈ run.2.groupMembers, m.groupId = g ∧ m.role = .admin) ∧
    (∀ ops₁ ops₂, ops = ops₁ ++ ops₂ → ∀ m₁ ∈ (start.performAll prims ops₁).2.groupMembers,
      (∃ m ∈ run.2.groupMembers, m.memberId = m₁.memberId) ∧
      (∀ m ∈ run.2.groupMembers, m.memberId = m₁.memberId →
        m.groupId = m₁.groupId ∧ m.role = m₁.role) ∧
      (m₁.role = .admin → ∀ row ∈ run.2.groups, row.groupId = m₁.groupId → ∀ token hash,
        credentialHash prims token = .ok hash → row.adminTokenHash = some hash → ∀ nickname draw,
        run.2.authorizeJoin prims m₁.groupId (some token) nickname draw =
          .ok (.allowed .admin m₁.memberId none,
            run.2.setNickname m₁.groupId m₁.memberId nickname))) ∧
    ∀ g credential nickname draw id issued store',
      run.2.authorizeJoin prims g credential nickname draw = .ok (.allowed .admin id issued, store') →
      ∃ token hash row, credential = some token ∧ credentialHash prims token = .ok hash ∧
        row ∈ run.2.groups ∧ row.groupId = g ∧ row.adminTokenHash = some hash := by
  intro run
  have admins : Administrators prims start (ops.flatMap StoreOp.tokens) run.2 :=
    administrators_performAll inj opened fresh new
  have inTable : ∀ {m : MemberRow}, m ∈ run.2.groupMembers → m.membership ∈ run.2.memberTable :=
    fun mem => mem_memberTable.2 ⟨_, mem, rfl⟩
  refine ⟨?_, ?_, ?_, fun _ _ _ _ _ _ _ => admins.current_of_admin⟩
  · intro m mem role
    refine ⟨admins.active _ (inTable mem) role, fun row inGroups ofGroup =>
      (admins.agrees _ (inTable mem) row inGroups ofGroup).2 role, fun m' mem' group role' => ?_⟩
    have same := admins.unique (inTable mem') (inTable mem) group role' role
    exact admins.memberIds.eq mem' mem (congrArg Membership.memberId same)
  · intro event mem g creates
    obtain ⟨m, inTable, group, role⟩ := creates_performAll ops event mem g creates
    obtain ⟨row, inRows, rfl⟩ := mem_memberTable.1 inTable
    exact ⟨row, inRows, group, role⟩
  · rintro ops₁ ops₂ rfl m₁ mem₁
    obtain ⟨m', inTable', group, member, role⟩ :=
      persists_performAll ops₁ ops₂ (mem_memberTable.2 ⟨m₁, mem₁, rfl⟩)
    obtain ⟨row', inRows', rfl⟩ := mem_memberTable.1 inTable'
    replace group : row'.groupId = m₁.groupId := group
    replace member : row'.memberId = m₁.memberId := member
    replace role : row'.role = m₁.role := role
    refine ⟨⟨row', inRows', member⟩, fun m mem same => ?_, fun isAdmin row inGroups ofGroup token hash
      hashed current nickname draw => ?_⟩
    · rw [admins.memberIds.eq mem inRows' (same.trans member.symm)]
      exact ⟨group, role⟩
    · have joined := admins.authorizeJoin_admin inRows' (role.trans isAdmin) inGroups
        (ofGroup.trans group.symm) hashed current nickname draw
      rwa [group, member] at joined

/-- A version 2 database with one public group. -/
def teamOfVersionTwo : VersionTwo :=
  { key := 0, gatewayMeta := none,
    groups := [{ groupId := ⟨1⟩, name := "team", accessMode := .isPublic,
                 adminTokenHash := some (utf8Encode (generateCredential "admin" 2)),
                 inviteTokenHash := none }],
    rooms := [{ roomId := defaultRoomId, groupId := ⟨1⟩, name := defaultRoomName, nextSequence := 1 }],
    groupMessages := [], joinRequests := [] }

theorem opened_teamOfVersionTwo : Opened teamOfVersionTwo.migrate :=
  .migrated _ (List.nodup_singleton _)

/-- Its administrator joins and rotates the token. -/
def adminMigrated : List StoreOp :=
  [.authorizeJoin ⟨1⟩ (some (generateCredential "admin" 2)) "Ana" (.numbered 3),
    .rotateGroupToken ⟨1⟩ ⟨3⟩ .admin (.numbered 5)]

theorem one_administrator_adminMigrated :
    let run := teamOfVersionTwo.migrate.performAll .checksummed adminMigrated
    ∃ store', run.2.authorizeJoin .checksummed ⟨1⟩ (some (generateCredential "admin" 5)) "Eve"
      (.numbered 7) = .ok (.allowed .admin ⟨3⟩ none, store') := by
  intro run
  have identity := (one_administrator .checksummed tokenHashInjective_checksummed _
    opened_teamOfVersionTwo adminMigrated (by decide +kernel)
    (by unfold NewTokens; decide +kernel)).2.2.1 (adminMigrated.take 1) (adminMigrated.drop 1) rfl
  have ana : ∃ m ∈ (teamOfVersionTwo.migrate.performAll .checksummed
      (adminMigrated.take 1)).2.groupMembers,
      m.groupId = ⟨1⟩ ∧ m.memberId = ⟨3⟩ ∧ m.role = .admin := by
    decide +kernel
  have current : ∃ row ∈ run.2.groups, row.groupId = ⟨1⟩ ∧
      row.adminTokenHash = some (tokenHash .checksummed (generateCredential "admin" 5)) := by
    decide +kernel
  obtain ⟨m, mem, group, member, role⟩ := ana
  obtain ⟨row, inGroups, ofGroup, hash⟩ := current
  have joined := (identity m mem).2.2 role row inGroups (ofGroup.trans group.symm) _ _
    (credentialHash_valid (by decide +kernel)) hash "Eve" (.numbered 7)
  rw [group, member] at joined
  exact ⟨_, joined⟩

end LanChat
