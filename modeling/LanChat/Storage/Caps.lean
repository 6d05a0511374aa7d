import LanChat.Storage.Administrators

/-!
# The caps on memberships and requests

Every path that inserts a membership counts first, except the one on which an
administrator token that no membership has makes one. `overfills` is that path
in a group that is full; on every other step both caps hold.
-/

namespace LanChat

open GatewayStore

namespace GatewayStore

variable {prims : Primitives} {start store store' : GatewayStore} {op : StoreOp} {reply : StoreReply}

/-- `SELECT COUNT(*) FROM group_members` of a group. -/
def memberCount (store : GatewayStore) (g : Uuid) : ℕ := store.groupMembers.countP (·.groupId == g)

/-- `SELECT COUNT(*) FROM join_requests` of the pending ones. -/
def pendingCount (store : GatewayStore) (g : Uuid) : ℕ :=
  store.joinRequests.countP fun r => r.groupId == g && r.status == .pending

/-- The join makes its token's holder an administrator of a full group. -/
def overfills (prims : Primitives) (store : GatewayStore) : StoreOp → Bool
  | .authorizeJoin g (some token) _ _ =>
    (store.findGroup g).any (·.adminTokenHash == some (tokenHash prims token)) &&
      !(store.groupMembers.any fun m => m.groupId == g && m.credentialHash == tokenHash prims token) &&
      maxGroupMembers ≤ store.memberCount g
  | _ => false

/-- **Both caps hold.** -/
structure Capped (store : GatewayStore) : Prop where
  members : ∀ g, store.memberCount g ≤ maxGroupMembers
  pending : ∀ g, store.pendingCount g ≤ maxPendingJoinRequests

theorem memberCount_eq (store : GatewayStore) (g : Uuid) :
    store.memberCount g = (store.memberTable.map (·.groupId)).count g := by
  rw [memberCount, ← countP_memberTable, List.count, List.countP_map]
  rfl

/-- One more row of a group that has room for it. -/
theorem count_append_le {groups : List Uuid} {g' : Uuid} {cap : ℕ} (capped : ∀ g, groups.count g ≤ cap)
    (room : groups.count g' < cap) (g : Uuid) : (groups ++ [g']).count g ≤ cap := by
  rw [List.count_append, List.count_singleton]
  have old := capped g
  split
  · rename_i same
    rw [← beq_iff_eq.1 same] at old ⊢
    omega
  · omega

theorem Capped.members_step (capped : Capped store)
    (grouped : ∀ m ∈ store.memberTable, store.hasGroup m.groupId = true)
    (step : CredentialStep prims store op reply store') (within : overfills prims store op = false)
    (g : Uuid) : store'.memberCount g ≤ maxGroupMembers := by
  have members := capped.members
  simp only [memberCount_eq] at members ⊢
  cases step with
  | same _ _ _ table | full _ _ _ _ table | requested _ _ _ _ _ _ _ table
  | decided _ _ table | rotatedInvite _ _ _ _ _ _ table =>
    rw [table]
    exact members g
  | banned _ _ table | rotated _ _ _ _ _ _ table =>
    rw [table, Table.map_updateWhere]
    · exact members g
    · exact fun _ _ _ => rfl
  | @created _ _ _ group _ _ _ _ _ _ _ free _ _ _ table =>
    rw [table, List.map_append]
    refine count_append_le members ?_ g
    -- nobody can be in a group that was not there
    have empty : (store.memberTable.map (·.groupId)).count group.groupId = 0 := by
      rw [List.count_eq_zero]
      intro mem
      obtain ⟨m, inTable, same⟩ := List.mem_map.1 mem
      obtain ⟨row, inGroups, ofGroup⟩ := hasGroup_iff.1 (grouped m inTable)
      exact free row inGroups (ofGroup.trans same)
    rw [empty]
    decide
  | @administrator g' token _ _ row _ _ found current fresh _ _ table =>
    rw [table, List.map_append]
    refine count_append_le members ?_ g
    have unused : (store.groupMembers.any fun m =>
        m.groupId == g' && m.credentialHash == tokenHash prims token) = false := by
      rw [List.any_eq_false]
      intro m mem
      have apart := (fresh m.membership (mem_memberTable.2 ⟨m, mem, rfl⟩)).2
      simpa [MemberRow.membership] using apart
    simp only [overfills, found, current, unused, Option.any_some, beq_self_eq_true, Bool.not_false,
      Bool.true_and, decide_eq_false_iff_not, not_le] at within
    rwa [memberCount_eq] at within
  | @admitted g' _ _ _ _ _ _ _ _ _ _ _ few _ _ _ table =>
    rw [table, List.map_append]
    refine count_append_le members ?_ g
    rwa [List.count, List.countP_map]

theorem Capped.pending_step (capped : Capped store) {rows : List JoinRequestRow}
    (step : RequestsStep prims store op reply rows) (g : Uuid) :
    rows.countP (fun r => r.groupId == g && r.status == .pending) ≤ maxPendingJoinRequests := by
  have pending := capped.pending g
  cases step with
  | fewer sub => exact sub.countP_le.trans pending
  | @decided g' requestId approve =>
    refine le_trans ?_ pending
    rw [Table.updateWhere, List.countP_map]
    refine List.countP_mono_left fun r _ counted => ?_
    cases selected : awaitsDecision g' requestId r with
    | false => simpa [selected] using counted
    | true =>
      -- what is decided is pending no more
      cases approve <;> simp [selected, JoinRequestRow.decided] at counted
  | @requested g' _ _ _ _ _ few =>
    rw [List.countP_append, List.countP_singleton]
    unfold pendingCount at pending
    split
    · rename_i same
      simp only [Bool.and_eq_true, beq_iff_eq] at same
      obtain ⟨rfl, -⟩ := same
      omega
    · omega

/-- What a run keeps next to the caps: memberships are in groups. -/
structure Bounded (store : GatewayStore) : Prop extends Capped store where
  grouped : ∀ m ∈ store.memberTable, store.hasGroup m.groupId = true

/-- **A step that does not overfill keeps the caps.** -/
theorem Bounded.step (bounded : Bounded store) (within : overfills prims store op = false) :
    Bounded (store.perform prims op).2 := by
  have step := credentialStep prims store op
  exact {
    members := bounded.members_step bounded.grouped step within
    pending := bounded.pending_step step.requestsStep
    grouped := fun _ mem => step.grouped bounded.grouped (fun _ known => hasGroup_perform op known) mem }

/-- A group is at its cap, or one over it with its administrator among the members. -/
def NearCap (store : GatewayStore) (g : Uuid) : Prop :=
  store.memberCount g ≤ maxGroupMembers ∨
    store.memberCount g ≤ maxGroupMembers + 1 ∧ store.Staffed g

/-- What a run keeps without a condition: the cap holds but for the one
membership of an administrator. -/
structure NearlyCapped (store : GatewayStore) : Prop where
  groupIds : store.GroupIdsUnique
  memberIds : store.MemberIdsUnique
  grouped : ∀ m ∈ store.memberTable, store.hasGroup m.groupId = true
  members : ∀ g, store.NearCap g

theorem NearCap.of_column {g : Uuid} (near : store.NearCap g)
    (step : CredentialStep prims store op reply store')
    (column : store'.memberTable.map (·.groupId) = store.memberTable.map (·.groupId)) :
    store'.NearCap g := by
  have same : store'.memberCount g = store.memberCount g := by rw [memberCount_eq, column, memberCount_eq]
  unfold NearCap
  rw [same]
  exact near.imp_right fun ⟨count, staffed⟩ => ⟨count, step.staffed staffed⟩

/-- A membership in another group, or in this one while it has room. -/
theorem NearCap.append {g : Uuid} (near : store.NearCap g)
    (step : CredentialStep prims store op reply store') {m : Membership}
    (table : store'.memberTable = store.memberTable ++ [m])
    (room : m.groupId = g → store.memberCount g < maxGroupMembers) : store'.NearCap g := by
  have count : store'.memberCount g = store.memberCount g + if m.groupId = g then 1 else 0 := by
    rw [memberCount_eq, table, List.map_append, List.count_append, memberCount_eq, List.map_singleton,
      List.count_singleton]
    simp only [beq_iff_eq]
  unfold NearCap
  rw [count]
  split
  · next same => exact .inl (room same)
  · exact near.imp_right fun ⟨few, staffed⟩ => ⟨few, step.staffed staffed⟩

theorem NearlyCapped.members_step (capped : NearlyCapped store)
    (step : CredentialStep prims store op reply store') (g : Uuid) : store'.NearCap g := by
  have near := capped.members g
  have all := step
  cases step with
  | same _ _ _ table | full _ _ _ _ table | requested _ _ _ _ _ _ _ table
  | decided _ _ table | rotatedInvite _ _ _ _ _ _ table =>
    exact near.of_column all (by rw [table])
  | banned _ _ table | rotated _ _ _ _ _ _ table =>
    refine near.of_column all ?_
    rw [table, Table.map_updateWhere]
    exact fun _ _ _ => rfl
  | @created _ _ _ group _ _ _ _ _ _ _ free _ _ _ table =>
    refine near.append all table fun same => ?_
    -- nobody can be in a group that was not there
    have empty : store.memberCount g = 0 := by
      rw [memberCount_eq, List.count_eq_zero]
      intro mem
      obtain ⟨m, inTable, inGroup⟩ := List.mem_map.1 mem
      obtain ⟨row, inGroups, ofGroup⟩ := hasGroup_iff.1 (capped.grouped m inTable)
      exact free row inGroups (ofGroup.trans (inGroup.trans same.symm))
    rw [empty]
    decide
  | @admitted g' _ _ _ _ _ _ _ _ _ _ _ few _ _ _ table =>
    refine near.append all table fun same => ?_
    rw [memberCount_eq, ← same, List.count, List.countP_map]
    exact few
  | @administrator g' token _ _ row _ _ found current fresh groups _ table =>
    obtain ⟨inGroups, ofGroup⟩ := findGroup_some found
    by_cases same : g' = g
    · subst same
      -- a group that has its administrator does not get another one
      have unstaffed : ¬ store.Staffed g' := by
        intro staffed
        obtain ⟨m, inTable, inGroup, -, hashed⟩ := staffed row inGroups ofGroup
        exact (fresh m inTable).2 (inGroup.trans ofGroup) (Option.some.inj (hashed.symm.trans current))
      have few : store.memberCount g' ≤ maxGroupMembers := near.resolve_right fun h => unstaffed h.2
      refine .inr ⟨?_, fun other mem inGroup => ?_⟩
      · rw [memberCount_eq] at few ⊢
        rw [table, List.map_append, List.count_append, List.map_singleton, List.count_singleton_self]
        omega
      · rw [groups] at mem
        obtain rfl := groupIdsUnique_eq capped.groupIds mem inGroups (inGroup.trans ofGroup.symm)
        rw [table]
        exact ⟨_, List.mem_append_right _ (List.mem_singleton_self _), inGroup.symm, rfl, current⟩
    · exact near.append all table fun inGroup => absurd inGroup same

theorem NearlyCapped.step (capped : NearlyCapped store) (op : StoreOp) :
    NearlyCapped (store.perform prims op).2 := by
  have step := credentialStep prims store op
  exact {
    groupIds := groupIdsUnique_perform prims capped.groupIds op
    memberIds := memberIdsUnique_perform prims capped.memberIds op
    grouped := fun _ mem => step.grouped capped.grouped (fun _ known => hasGroup_perform op known) mem
    members := capped.members_step step }

/-- **No group ever has more than one membership over its cap.** -/
theorem nearlyCapped_performAll (opened : Opened start) (ops : List StoreOp) :
    NearlyCapped (start.performAll prims ops).2 := by
  refine performAll_induction (motive := fun _ _ store => NearlyCapped store) ?_ ?_ ops
  · have noMembers : start.memberTable = [] := by rw [memberTable, opened.groupMembers, List.map_nil]
    refine {
      groupIds := opened.groupIdsUnique
      memberIds := by rw [MemberIdsUnique, opened.groupMembers]; exact List.nodup_nil
      grouped := by simp [noMembers]
      members := fun g => ?_ }
    rw [NearCap, memberCount, opened.groupMembers]
    exact .inl (Nat.zero_le _)
  · exact fun _ op capped => capped.step op

theorem memberCount_le (opened : Opened start) (ops : List StoreOp) (g : Uuid) :
    (start.performAll prims ops).2.memberCount g ≤ maxGroupMembers + 1 := by
  rcases (nearlyCapped_performAll opened ops).members g with few | few
  · exact few.trans (Nat.le_succ _)
  · exact few.1

/-- Where every group has its administrator, no step overfills. -/
theorem HasAdmins.not_overfills (admins : store.HasAdmins) (op : StoreOp) :
    overfills prims store op = false := by
  by_contra fills
  rw [Bool.not_eq_false] at fills
  unfold overfills at fills
  split at fills
  · simp only [Bool.and_eq_true, Option.any_eq_true, beq_iff_eq, Bool.not_eq_true',
      List.any_eq_false, not_and] at fills
    obtain ⟨⟨⟨row, found, current⟩, unused⟩, -⟩ := fills
    obtain ⟨m, inTable, group, -, hashed⟩ := admins.holder found current
    obtain ⟨member, mem, rfl⟩ := mem_memberTable.1 inTable
    exact unused member mem group hashed
  · cases fills

theorem hasAdmins_performAll (prims : Primitives) (key : BitVec 256) (ops : List StoreOp) :
    ((GatewayStore.empty key).performAll prims ops).2.HasAdmins := by
  refine performAll_induction (motive := fun _ _ store => store.HasAdmins) ?_ ?_ ops
  · exact nofun
  · exact fun ops op admins => (credentialStep prims _ op).hasAdmins admins

end GatewayStore

/-- **The caps hold**: from an empty store always, and from a migrated one whose
requests keep to their cap as long as no administrator token makes its holder a
member of a full group. -/
theorem caps_hold (prims : Primitives) (start : GatewayStore) (opened : Opened start)
    (ops : List StoreOp)
    (within : (∃ key, start = .empty key) ∨
      (∀ g, start.pendingCount g ≤ maxPendingJoinRequests) ∧
        ∀ ops₁ op ops₂, ops = ops₁ ++ op :: ops₂ →
          overfills prims (start.performAll prims ops₁).2 op = false) :
    ∀ g, (start.performAll prims ops).2.memberCount g ≤ maxGroupMembers ∧
      (start.performAll prims ops).2.pendingCount g ≤ maxPendingJoinRequests := by
  have begins : (∀ g, start.pendingCount g ≤ maxPendingJoinRequests) ∧
      ∀ ops₁ op ops₂, ops = ops₁ ++ op :: ops₂ →
        overfills prims (start.performAll prims ops₁).2 op = false := by
    rcases within with ⟨key, rfl⟩ | within
    · exact ⟨fun g => Nat.zero_le _, fun ops₁ op _ _ =>
        (hasAdmins_performAll prims key ops₁).not_overfills op⟩
    · exact within
  have bounded : Bounded (start.performAll prims ops).2 := by
    refine performAll_induction (motive := fun ops₁ _ store => (∃ ops₂, ops = ops₁ ++ ops₂) →
      Bounded store) ?_ ?_ ops ⟨[], (List.append_nil _).symm⟩
    · intro _
      have noMembers : start.memberTable = [] := by rw [memberTable, opened.groupMembers, List.map_nil]
      refine { members := fun g => ?_, pending := begins.1, grouped := by simp [noMembers] }
      rw [memberCount, opened.groupMembers]
      exact Nat.zero_le _
    · rintro ops₁ op ih _ ⟨ops₂, rest⟩
      rw [List.append_assoc] at rest
      exact (ih ⟨_, rest⟩).step (begins.2 ops₁ op ops₂ rest)
  exact fun g => ⟨bounded.members g, bounded.pending g⟩

theorem caps_hold_adminMigrated :
    let run := teamOfVersionTwo.migrate.performAll .checksummed adminMigrated
    run.2.memberCount ⟨1⟩ ≤ maxGroupMembers ∧ run.2.pendingCount ⟨1⟩ ≤ maxPendingJoinRequests := by
  refine caps_hold .checksummed _ opened_teamOfVersionTwo adminMigrated
    (.inr ⟨fun g => Nat.zero_le _, fun ops₁ op ops₂ split => ?_⟩) ⟨1⟩
  match ops₁, split with
  | [], h =>
    cases h
    decide +kernel
  | [_], h =>
    cases h
    rfl
  | _ :: _ :: _, h => simp [adminMigrated] at h

/-! ## A full group and its administrator -/

theorem hexDigit_inj {a b : ℕ} (ha : a < 16) (hb : b < 16) (same : hexDigit a = hexDigit b) : a = b := by
  have all : ∀ a < 16, ∀ b < 16, hexDigit a = hexDigit b → a = b := by decide
  exact all a ha b hb same

theorem eq_of_digits (n : ℕ) {v w : ℕ} (hv : v < 16 ^ n) (hw : w < 16 ^ n)
    (digits : ∀ i < n, v / 16 ^ i % 16 = w / 16 ^ i % 16) : v = w := by
  induction n generalizing v w with
  | zero => omega
  | succ n ih =>
    have last := digits 0 (by omega)
    have rest : v / 16 = w / 16 := by
      refine ih (by omega) (by omega) fun i hi => ?_
      have digit := digits (i + 1) (by omega)
      rwa [Nat.pow_succ', ← Nat.div_div_eq_div_mul, ← Nat.div_div_eq_div_mul] at digit
    omega

theorem hexDigits_inj (n : ℕ) {v w : ℕ} (hv : v < 16 ^ n) (hw : w < 16 ^ n)
    (same : hexDigits n v = hexDigits n w) : v = w := by
  refine eq_of_digits n hv hw fun i hi => ?_
  have digit := List.map_inj_left.1 same (n - 1 - i) (List.mem_range.2 (by omega))
  have place : n - 1 - (n - 1 - i) = i := by omega
  rw [place] at digit
  exact hexDigit_inj (Nat.mod_lt _ (by decide)) (Nat.mod_lt _ (by decide)) digit

theorem generateCredential_inj {kind : String} {random random' : BitVec 256}
    (same : generateCredential kind random = generateCredential kind random') : random = random' := by
  have letters := congrArg String.toList same
  simp only [generateCredential, String.toList_ofList, List.append_cancel_left_eq] at letters
  exact BitVec.eq_of_toNat_eq (hexDigits_inj 64 random.isLt random'.isLt letters)

/-- The member a public join makes. -/
def joined (n : ℕ) : MemberRow :=
  { memberId := ⟨n⟩, groupId := ⟨1⟩, credentialHash := utf8Encode (generateCredential "member" n),
    role := .member, status := .active, lastNickname := "Ana" }

/-- A join without a credential. -/
def joins (n : ℕ) : StoreOp := .authorizeJoin ⟨1⟩ none "Ana" (.numbered n)

/-- The group with `n` members. -/
def crowded (n : ℕ) : GatewayStore :=
  { teamOfVersionTwo.migrate with groupMembers := (List.range n).map joined }

theorem natCast_inj {w i n : ℕ} (hi : i < 2 ^ w) (hn : n < 2 ^ w)
    (same : (i : BitVec w) = (n : BitVec w)) : i = n := by
  have values : i % 2 ^ w = n % 2 ^ w := congrArg BitVec.toNat same
  rwa [Nat.mod_eq_of_lt hi, Nat.mod_eq_of_lt hn] at values

theorem mem_crowded {n : ℕ} {m : MemberRow} :
    m ∈ (crowded n).groupMembers ↔ ∃ i < n, joined i = m := by
  simp [crowded]

theorem memberCount_crowded (n : ℕ) : (crowded n).memberCount ⟨1⟩ = n := by
  have all : ∀ m ∈ (crowded n).groupMembers, (m.groupId == (⟨1⟩ : Uuid)) = true := by
    intro m mem
    obtain ⟨i, -, rfl⟩ := mem_crowded.1 mem
    rfl
  rw [memberCount, List.countP_eq_length.2 all]
  simp [crowded]

/-- The id of the next draw is not taken. -/
theorem crowded_id {n : ℕ} (few : n ≤ maxGroupMembers) :
    ∀ m ∈ (crowded n).groupMembers, m.memberId ≠ (Draw.numbered n).id := by
  intro m mem same
  obtain ⟨i, below, rfl⟩ := mem_crowded.1 mem
  have small : maxGroupMembers < 2 ^ 128 := by decide
  exact absurd (natCast_inj (by omega) (by omega) (congrArg Uuid.bits same)) (by omega)

theorem perform_joins {n : ℕ} (few : n < maxGroupMembers) :
    ((crowded n).perform .checksummed (joins n)).2 = crowded (n + 1) := by
  have drawn : generateCredential "member" (Draw.numbered n).random ∈ (joins n).tokens :=
    List.mem_singleton_self _
  have fresh : ∀ m ∈ (crowded n).groupMembers, m.memberId ≠ (joined n).memberId ∧
      (m.groupId = (joined n).groupId → m.credentialHash ≠ (joined n).credentialHash) := by
    refine fun m mem => ⟨crowded_id (by omega) m mem, fun _ same => ?_⟩
    obtain ⟨i, below, rfl⟩ := mem_crowded.1 mem
    have decoded := congrArg utf8Decode same
    simp only [joined, utf8Decode_encode, Option.some.injEq] at decoded
    have small : maxGroupMembers < 2 ^ 256 := by decide
    exact absurd (natCast_inj (by omega) (by omega) (generateCredential_inj decoded)) (by omega)
  have next : { crowded n with groupMembers := (crowded n).groupMembers ++ [joined n] } =
      crowded (n + 1) := by
    simp only [crowded, List.range_succ, List.map_append]
    rfl
  have inserted : (crowded n).insertGroupMember .checksummed ⟨1⟩
      (generateCredential "member" (Draw.numbered n).random) .member "Ana" (.numbered n) =
      .ok (⟨n⟩, crowded (n + 1)) := by
    rw [insertGroupMember, credentialHash_valid (isValid_of_tokens drawn), ok_bind]
    have fits : (crowded n).insertMember (joined n) = _ := insertMember_fresh rfl fresh
    rw [next] at fits
    have bound : ((crowded n).insertMember (joined n) >>= fun store =>
        Except.ok ((Draw.numbered n).id, store)) = .ok (⟨n⟩, crowded (n + 1)) := by
      rw [fits, ok_bind]
      rfl
    exact bound
  have issued : (crowded n).issueMember .checksummed ⟨1⟩ "Ana" (.numbered n) =
      .ok (.allowed .member ⟨n⟩ (some (generateCredential "member" (Draw.numbered n).random)),
        crowded (n + 1)) := by
    have count := memberCount_crowded n
    rw [memberCount] at count
    rw [issueMember, count, if_neg (by omega)]
    simp only [inserted, ok_bind]
  have authorized : (crowded n).authorizeJoin .checksummed ⟨1⟩ none "Ana" (.numbered n) =
      (crowded n).issueMember .checksummed ⟨1⟩ "Ana" (.numbered n) := rfl
  rw [joins, perform, authorized, issued]
  rfl

/-- **The store after `n` public joins**, for as long as the group has room. -/
theorem performAll_joins {n : ℕ} (few : n ≤ maxGroupMembers) :
    (teamOfVersionTwo.migrate.performAll .checksummed ((List.range n).map joins)).2 = crowded n := by
  induction n with
  | zero => rfl
  | succ n ih =>
    rw [List.range_succ, List.map_append, List.map_singleton, performAll_concat]
    simp only
    rw [ih (by omega), perform_joins (by omega)]

/-- The administrator's first join, after `n` others. -/
def adminJoins (n : ℕ) : StoreOp :=
  .authorizeJoin ⟨1⟩ (some (generateCredential "admin" 2)) "Eve" (.numbered n)

/-- The administrator's membership. -/
def adminJoined (n : ℕ) : MemberRow :=
  { memberId := ⟨n⟩, groupId := ⟨1⟩, credentialHash := utf8Encode (generateCredential "admin" 2),
    role := .admin, status := .active, lastNickname := "Eve" }

theorem generateCredential_kinds (random random' : BitVec 256) :
    generateCredential "member" random ≠ generateCredential "admin" random' := by
  intro same
  have letter := congrArg (fun token : String => token.toList[3]?) same
  simp [generateCredential] at letter

theorem perform_adminJoins {n : ℕ} (few : n ≤ maxGroupMembers) :
    ((crowded n).perform .checksummed (adminJoins n)).2 =
      { crowded n with groupMembers := (crowded n).groupMembers ++ [adminJoined n] } := by
  have valid : isValidGroupCredential (generateCredential "admin" 2) = true := by decide +kernel
  have apart : ∀ m ∈ (crowded n).groupMembers,
      m.credentialHash ≠ tokenHash .checksummed (generateCredential "admin" 2) := by
    intro m mem same
    obtain ⟨i, -, rfl⟩ := mem_crowded.1 mem
    have decoded := congrArg utf8Decode same
    simp only [joined, tokenHash, Primitives.checksummed, utf8Decode_encode,
      Option.some.injEq] at decoded
    exact generateCredential_kinds _ _ decoded
  have unknown : (crowded n).groupMembers.find? (fun m => m.groupId == ⟨1⟩ &&
      m.credentialHash == tokenHash .checksummed (generateCredential "admin" 2)) = none := by
    rw [List.find?_eq_none]
    intro m mem found
    simp only [Bool.and_eq_true, beq_iff_eq] at found
    exact apart m mem found.2
  obtain ⟨row, found, current⟩ : ∃ row, (crowded n).findGroup ⟨1⟩ = some row ∧
      row.adminTokenHash = some (tokenHash .checksummed (generateCredential "admin" 2)) :=
    ⟨_, rfl, rfl⟩
  have fits : (crowded n).insertMember (adminJoined n) = _ :=
    insertMember_fresh rfl fun m mem => ⟨crowded_id few m mem, fun _ => apart m mem⟩
  have inserted : (crowded n).insertGroupMember .checksummed ⟨1⟩ (generateCredential "admin" 2) .admin
      "Eve" (.numbered n) = .ok (⟨n⟩,
        { crowded n with groupMembers := (crowded n).groupMembers ++ [adminJoined n] }) := by
    rw [insertGroupMember, credentialHash_valid valid, ok_bind]
    have bound : ((crowded n).insertMember (adminJoined n) >>= fun store =>
        Except.ok ((Draw.numbered n).id, store)) = .ok (⟨n⟩,
          { crowded n with groupMembers := (crowded n).groupMembers ++ [adminJoined n] }) := by
      rw [fits, ok_bind]
      rfl
    exact bound
  rw [adminJoins, perform, authorizeJoin]
  simp only [found, credentialHash_valid valid, ok_bind, unknown, current, if_true, inserted]
  rfl

/-- The joins of `n` members and of the administrator. -/
def crowd (n : ℕ) : List StoreOp := (List.range n).map joins ++ [adminJoins n]

theorem memberCount_crowd {n : ℕ} (few : n ≤ maxGroupMembers) :
    (teamOfVersionTwo.migrate.performAll .checksummed (crowd n)).2.memberCount ⟨1⟩ = n + 1 := by
  rw [crowd, performAll_concat]
  simp only
  rw [performAll_joins few, perform_adminJoins few, memberCount, List.countP_append]
  have count := memberCount_crowded n
  rw [memberCount] at count
  rw [count]
  rfl

/-- **A migrated group gets one member too many.** -/
theorem crowd_overfills : Opened teamOfVersionTwo.migrate ∧
    (teamOfVersionTwo.migrate.performAll .checksummed (crowd maxGroupMembers)).2.memberCount ⟨1⟩ =
      maxGroupMembers + 1 :=
  ⟨opened_teamOfVersionTwo, memberCount_crowd (Nat.le_refl _)⟩

end LanChat
