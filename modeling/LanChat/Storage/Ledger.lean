import LanChat.Base.Json
import LanChat.Storage.Credentials

/-!
# The ledger of tokens

The `Ledger` of a trace records the last token each holder of a group has been
issued. `Accounts` ties the three tables of hashes to it: a membership is found
by its last token, the invite hash is that of the last invite token, and a
request is found by its token until it is used. Every run from an empty store
whose tokens are fresh keeps both (`audited_performAll`).
-/

namespace LanChat

open GatewayStore

/-! ## Tokens -/

theorem isAsciiAlphanumeric_hexDigit {d : ℕ} (h : d < 16) :
    isAsciiAlphanumeric (hexDigit d) = true ∧ (hexDigit d).utf8Size = 1 := by
  have all : ∀ d < 16, isAsciiAlphanumeric (hexDigit d) = true ∧ (hexDigit d).utf8Size = 1 := by
    decide
  exact all d h

/-- What is generated is a credential, whatever its kind. -/
theorem isValid_generateCredential {kind : String} (random : BitVec 256)
    (letters : kind.toList.all (fun ch => isAsciiAlphanumeric ch && ch.utf8Size == 1) = true)
    (short : kind.toList.length ≤ 60) :
    isValidGroupCredential (generateCredential kind random) = true := by
  have ascii : ∀ ch ∈ "lc_".toList ++ kind.toList ++ "_".toList ++ hexDigits 64 random.toNat,
      (isAsciiAlphanumeric ch || ch == '_') = true ∧ ch.utf8Size = 1 := by
    intro ch mem
    have marks : ("lc_".toList ++ "_".toList).all (fun ch =>
        (isAsciiAlphanumeric ch || ch == '_') && ch.utf8Size == 1) = true := by decide
    simp only [List.all_eq_true, Bool.and_eq_true, beq_iff_eq] at letters marks
    simp only [List.mem_append] at mem
    rcases mem with ((mem | mem) | mem) | mem
    · exact marks ch (List.mem_append_left _ mem)
    · exact ⟨by rw [(letters ch mem).1]; rfl, (letters ch mem).2⟩
    · exact marks ch (List.mem_append_right _ mem)
    · obtain ⟨i, -, rfl⟩ := List.mem_map.1 mem
      obtain ⟨isDigit, size⟩ := isAsciiAlphanumeric_hexDigit (Nat.mod_lt _ (by decide))
      exact ⟨by rw [isDigit]; rfl, size⟩
  have size : (generateCredential kind random).utf8ByteSize = 68 + kind.toList.length := by
    have written : (generateCredential kind random).utf8ByteSize =
        ("lc_".toList ++ kind.toList ++ "_".toList ++ hexDigits 64 random.toNat).length :=
      (Json.utf8ByteSize_ofList _).trans (Json.size_of_ascii fun ch mem => (ascii ch mem).2)
    have prefixes : "lc_".toList.length = 3 ∧ "_".toList.length = 1 := by decide
    simp only [List.length_append, length_hexDigits, prefixes] at written
    omega
  have inside : (generateCredential kind random).toList =
      "lc_".toList ++ kind.toList ++ "_".toList ++ hexDigits 64 random.toNat := String.toList_ofList
  simp only [isValidGroupCredential, Bool.and_eq_true, List.all_eq_true, decide_eq_true_eq,
    Bool.not_eq_true', List.isEmpty_eq_false_iff, inside]
  refine ⟨⟨by simp, ?_⟩, fun ch mem => (ascii ch mem).1⟩
  rw [size, maxGroupCredentialBytes]
  omega

theorem isValid_of_tokens {op : StoreOp} {token : String} (mem : token ∈ op.tokens) :
    isValidGroupCredential token = true := by
  have valid : ∀ kind ∈ ["admin", "invite", "member", "request"], ∀ random,
      isValidGroupCredential (generateCredential kind random) = true := by
    intro kind known random
    refine isValid_generateCredential random ?_ ?_
    · revert kind
      decide
    · revert kind
      decide
  cases op with
  | createGroup name draw =>
    rw [List.mem_singleton.1 mem]
    exact valid _ (by decide) _
  | createGroupWithAccess name mode draw =>
    rcases List.mem_cons.1 mem with rfl | mem
    · exact valid _ (by decide) _
    · split at mem
      · rw [List.mem_singleton.1 mem]
        exact valid _ (by decide) _
      · cases mem
  | authorizeJoin | createJoinRequest =>
    rw [List.mem_singleton.1 mem]
    exact valid _ (by decide) _
  | rotateGroupToken g actor kind draw =>
    rw [List.mem_singleton.1 mem]
    cases kind <;> exact valid _ (by decide) _
  | _ => cases mem

/-- The hash tells tokens apart. -/
def TokenHashInjective (prims : Primitives) : Prop :=
  ∀ token token' : String, isValidGroupCredential token = true →
    isValidGroupCredential token' = true → tokenHash prims token = tokenHash prims token' →
    token = token'

/-- No token is drawn twice. -/
def FreshTokens (ops : List StoreOp) : Prop := (ops.flatMap StoreOp.tokens).Nodup

instance (ops : List StoreOp) : Decidable (FreshTokens ops) :=
  inferInstanceAs (Decidable (List.Nodup _))

theorem FreshTokens.left {ops₁ ops₂ : List StoreOp} (fresh : FreshTokens (ops₁ ++ ops₂)) :
    FreshTokens ops₁ := by
  rw [FreshTokens, List.flatMap_append] at fresh
  exact fresh.of_append_left

theorem FreshTokens.concat {ops : List StoreOp} {op : StoreOp} (fresh : FreshTokens (ops ++ [op])) :
    FreshTokens ops ∧ op.tokens.Nodup ∧ ∀ token ∈ op.tokens, token ∉ ops.flatMap StoreOp.tokens := by
  simp only [FreshTokens, List.flatMap_append, List.flatMap_cons, List.flatMap_nil,
    List.append_nil] at fresh
  obtain ⟨before, now, apart⟩ := List.nodup_append.1 fresh
  exact ⟨before, now, fun token mem drawn => apart token drawn token mem rfl⟩

/-! ## The ledger -/

/-- The last token each holder of a group has been issued, and not given back. -/
abbrev Ledger := Uuid → Holder → Option String

namespace Ledger

def set (ledger : Ledger) (g : Uuid) (holder : Holder) (token : Option String) : Ledger :=
  fun g' holder' => if g' = g ∧ holder' = holder then token else ledger g' holder'

/-- The ledger after a list of issues, the last of which counts. -/
def post (ledger : Ledger) (issues : List (Uuid × Holder × Option String)) : Ledger :=
  issues.foldl (fun ledger (g, holder, token) => ledger.set g holder token) ledger

/-- What one reply says about tokens. -/
def observe (ledger : Ledger) (event : StoreOp × StoreReply) : Ledger :=
  ledger.post (event.1.issues event.2)

def ofTrace (trace : List (StoreOp × StoreReply)) : Ledger :=
  trace.foldl observe fun _ _ => none

section
variable {ledger : Ledger} {issues : List (Uuid × Holder × Option String)} {g g' : Uuid}
  {holder holder' : Holder}

@[simp] theorem set_self (token : Option String) :
    ledger.set g holder token g holder = token := if_pos ⟨rfl, rfl⟩

theorem set_other {token : Option String} (other : g' = g → holder' ≠ holder) :
    ledger.set g holder token g' holder' = ledger g' holder' :=
  if_neg fun h => other h.1 h.2

theorem ofTrace_concat (trace : List (StoreOp × StoreReply)) (event : StoreOp × StoreReply) :
    ofTrace (trace ++ [event]) = (ofTrace trace).observe event := by
  simp [ofTrace]

theorem post_cons (token : Option String) :
    ledger.post ((g, holder, token) :: issues) = (ledger.set g holder token).post issues := rfl

/-- A holder the issues do not name keeps what it has. -/
theorem post_old (untouched : ∀ token, (g, holder, token) ∉ issues) :
    ledger.post issues g holder = ledger g holder := by
  induction issues generalizing ledger with
  | nil => rfl
  | cons issue issues ih =>
    obtain ⟨g', holder', token'⟩ := issue
    rw [post_cons, ih fun token mem => untouched token (List.mem_cons_of_mem _ mem)]
    refine set_other fun hg hh => untouched token' ?_
    rw [hg, hh]
    exact List.mem_cons_self

/-- A holder they name once has what it has been issued. -/
theorem post_new (token : Option String) (mem : (g, holder, token) ∈ issues)
    (only : ∀ token', (g, holder, token') ∈ issues → token' = token) :
    ledger.post issues g holder = token := by
  induction issues generalizing ledger with
  | nil => cases mem
  | cons issue issues ih =>
    rcases Classical.em ((g, holder, token) ∈ issues) with later | last
    · exact ih later fun token' mem => only token' (List.mem_cons_of_mem _ mem)
    · have untouched : ∀ token', (g, holder, token') ∉ issues := by
        intro token' mem'
        rw [only token' (List.mem_cons_of_mem _ mem')] at mem'
        exact last mem'
      have now : (g, holder, token) = issue := (List.mem_cons.1 mem).resolve_right last
      subst now
      exact (post_old untouched).trans (set_self _)

/-- An entry is old, or one of the issues. -/
theorem post_some {token : String} (h : ledger.post issues g holder = some token) :
    (g, holder, some token) ∈ issues ∨ ledger g holder = some token := by
  induction issues generalizing ledger with
  | nil => exact .inr h
  | cons issue issues ih =>
    obtain ⟨g', holder', token'⟩ := issue
    rw [post_cons] at h
    rcases ih h with later | now
    · exact .inl (List.mem_cons_of_mem _ later)
    · by_cases same : g = g' ∧ holder = holder'
      · obtain ⟨rfl, rfl⟩ := same
        rw [set_self] at now
        rw [now]
        exact .inl List.mem_cons_self
      · rw [set_other fun hg hh => same ⟨hg, hh⟩] at now
        exact .inr now

end

end Ledger

/-- The token was issued to the holder at some point of the trace. -/
def Issued (trace : List (StoreOp × StoreReply)) (g : Uuid) (holder : Holder) (token : String) : Prop :=
  ∃ event ∈ trace, (g, holder, some token) ∈ event.1.issues event.2

instance (trace : List (StoreOp × StoreReply)) (g : Uuid) (holder : Holder) (token : String) :
    Decidable (Issued trace g holder token) :=
  inferInstanceAs (Decidable (∃ event ∈ trace, _))

theorem issued_concat {trace : List (StoreOp × StoreReply)} {event : StoreOp × StoreReply} {g : Uuid}
    {holder : Holder} {token : String} :
    Issued (trace ++ [event]) g holder token ↔
      Issued trace g holder token ∨ (g, holder, some token) ∈ event.1.issues event.2 := by
  simp [Issued, or_and_right, exists_or]

namespace GatewayStore

variable {prims : Primitives} {store store' : GatewayStore} {op : StoreOp} {reply : StoreReply}

theorem mem_consumes {g g' : Uuid} {credential : Option String} {holder : Holder} {token : Option String} :
    (g', holder, token) ∈ StoreOp.consumes g credential ↔
      ∃ t, credential = some t ∧ g' = g ∧ holder = .request t ∧ token = none := by
  cases credential <;> simp [StoreOp.consumes]

/-- What a reply issues has been drawn by the operation, each token for one holder. -/
structure IssuesDrawn (op : StoreOp) (reply : StoreReply) : Prop where
  drawn : ∀ g holder token, (g, holder, some token) ∈ op.issues reply → token ∈ op.tokens
  once : op.tokens.Nodup → ∀ g holder g' holder' token, (g, holder, some token) ∈ op.issues reply →
    (g', holder', some token) ∈ op.issues reply → g = g' ∧ holder = holder'

theorem IssuesDrawn.nothing (none : ∀ g holder token, (g, holder, some token) ∉ op.issues reply) :
    IssuesDrawn op reply where
  drawn g holder token mem := absurd mem (none g holder token)
  once _ g holder _ _ token mem _ := absurd mem (none g holder token)

theorem IssuesDrawn.single (g₀ : Uuid) (holder₀ : Holder) {token₀ : String}
    (drawn : token₀ ∈ op.tokens) (only : ∀ g holder token, (g, holder, some token) ∈ op.issues reply →
      g = g₀ ∧ holder = holder₀ ∧ token = token₀) : IssuesDrawn op reply where
  drawn g holder token mem := by
    rw [(only g holder token mem).2.2]
    exact drawn
  once _ g holder g' holder' token mem mem' := by
    obtain ⟨rfl, rfl, -⟩ := only g holder token mem
    obtain ⟨rfl, rfl, -⟩ := only g' holder' token mem'
    exact ⟨rfl, rfl⟩

theorem CredentialStep.issuesDrawn (step : CredentialStep prims store op reply store') :
    IssuesDrawn op reply := by
  cases step with
  | same quiet => exact .nothing (by simp [quiet])
  | administrator | decided => exact .nothing nofun
  | banned => exact .nothing (by cases reply <;> exact nofun)
  | full =>
    refine .nothing fun g holder token mem => ?_
    obtain ⟨t, -, -, -, h⟩ := mem_consumes.1 mem
    cases h
  | @created _ _ _ group creator admin invite issued drawn =>
    refine ⟨fun g holder token mem => ?_, fun nodup g holder g' holder' token mem mem' => ?_⟩
    · simp only [issued, drawn, List.mem_cons, Prod.mk.injEq, Option.some.injEq, List.mem_map,
        Option.mem_toList] at mem ⊢
      rcases mem with ⟨-, -, rfl⟩ | ⟨t, isInvite, -, -, rfl⟩
      · exact .inl rfl
      · exact .inr isInvite
    · simp only [issued, List.mem_cons, Prod.mk.injEq, Option.some.injEq, List.mem_map,
        Option.mem_toList] at mem mem'
      rw [drawn] at nodup
      have apart : ∀ t, invite = some t → t ≠ admin := by
        rintro t isInvite rfl
        exact (List.nodup_cons.1 nodup).1 (Option.mem_toList.2 isInvite)
      rcases mem with ⟨rfl, rfl, rfl⟩ | ⟨t, isInvite, rfl, rfl, rfl⟩ <;>
        rcases mem' with ⟨rfl, rfl, h⟩ | ⟨t', isInvite', rfl, rfl, h⟩
      · exact ⟨rfl, rfl⟩
      · exact absurd h (apart _ isInvite')
      · exact absurd h (apart _ isInvite)
      · exact ⟨rfl, rfl⟩
  | @admitted g _ _ token draw _ _ _ generated =>
    refine .single g (.member draw.id) (List.mem_singleton.2 generated) fun g' holder token' mem => ?_
    rcases List.mem_cons.1 mem with h | mem
    · cases h
      exact ⟨rfl, rfl, rfl⟩
    · obtain ⟨t, -, -, -, h⟩ := mem_consumes.1 mem
      cases h
  | @requested g _ token _ _ _ generated =>
    refine .single g (.request token) (List.mem_singleton.2 generated) fun g' holder token' mem => ?_
    cases List.mem_singleton.1 mem
    exact ⟨rfl, rfl, rfl⟩
  | @rotatedInvite g _ _ _ _ generated =>
    refine .single g .invite (List.mem_singleton.2 generated) fun g' holder token' mem => ?_
    cases List.mem_singleton.1 mem
    exact ⟨rfl, rfl, rfl⟩
  | @rotated g actor kind _ _ _ notInvite generated =>
    refine .single g (.member actor) (List.mem_singleton.2 generated) fun g' holder token' mem => ?_
    cases kind with
    | invite => exact absurd rfl notInvite
    | _ =>
      cases List.mem_singleton.1 mem
      exact ⟨rfl, rfl, rfl⟩

/-- Every entry of the ledger was issued, and no token was issued to two holders. -/
structure LedgerSound (trace : List (StoreOp × StoreReply)) (drawn : List String) : Prop where
  origin : ∀ {g holder token}, Ledger.ofTrace trace g holder = some token → Issued trace g holder token
  once : ∀ {g holder g' holder' token}, Issued trace g holder token → Issued trace g' holder' token →
    g = g' ∧ holder = holder'
  drawn : ∀ {g holder token}, Issued trace g holder token → token ∈ drawn
  valid : ∀ {g holder token}, Issued trace g holder token → isValidGroupCredential token = true

theorem LedgerSound.nil : LedgerSound [] [] := by
  constructor <;> simp [Ledger.ofTrace, Issued]

theorem LedgerSound.concat {trace : List (StoreOp × StoreReply)} {drawn : List String}
    (sound : LedgerSound trace drawn) (issues : IssuesDrawn op reply) (nodup : op.tokens.Nodup)
    (fresh : ∀ token ∈ op.tokens, token ∉ drawn) :
    LedgerSound (trace ++ [(op, reply)]) (drawn ++ op.tokens) := by
  constructor
  · intro g holder token entry
    rw [Ledger.ofTrace_concat] at entry
    rcases Ledger.post_some entry with now | before
    · exact issued_concat.2 (.inr now)
    · exact issued_concat.2 (.inl (sound.origin before))
  · intro g holder g' holder' token first second
    rcases issued_concat.1 first with first | first <;> rcases issued_concat.1 second with second | second
    · exact sound.once first second
    · exact absurd (sound.drawn first) (fresh token (issues.drawn _ _ _ second))
    · exact absurd (sound.drawn second) (fresh token (issues.drawn _ _ _ first))
    · exact issues.once nodup _ _ _ _ _ first second
  · intro g holder token issued
    rcases issued_concat.1 issued with before | now
    · exact List.mem_append_left _ (sound.drawn before)
    · exact List.mem_append_right _ (issues.drawn _ _ _ now)
  · intro g holder token issued
    rcases issued_concat.1 issued with before | now
    · exact sound.valid before
    · exact isValid_of_tokens (issues.drawn _ _ _ now)

/-! ## The tables hold the ledger -/

/-- The administrator's token of a group is that of one of its memberships. -/
def Staffed (store : GatewayStore) (g : Uuid) : Prop :=
  ∀ row ∈ store.groups, row.groupId = g → ∃ m ∈ store.memberTable, m.groupId = row.groupId ∧ m.role = .admin ∧
    row.adminTokenHash = some m.credentialHash

/-- The administrator's token of a group is that of a membership. -/
def HasAdmins (store : GatewayStore) : Prop :=
  ∀ row ∈ store.groups, ∃ m ∈ store.memberTable, m.groupId = row.groupId ∧ m.role = .admin ∧
    row.adminTokenHash = some m.credentialHash

/-- **The tables hold the hashes of the ledger's tokens.** -/
structure Accounts (prims : Primitives) (ledger : Ledger) (store : GatewayStore) : Prop where
  groupIds : store.GroupIdsUnique
  memberIds : store.MemberIdsUnique
  requestHashes : (store.joinRequests.map fun r => (r.groupId, r.requestTokenHash)).Nodup
  grouped : ∀ m ∈ store.memberTable, store.hasGroup m.groupId = true
  members : ∀ m ∈ store.memberTable, ∃ token, ledger m.groupId (.member m.memberId) = some token ∧
    m.credentialHash = tokenHash prims token
  holders : ∀ {g id token}, ledger g (.member id) = some token →
    ∃ m ∈ store.memberTable, m.groupId = g ∧ m.memberId = id
  invites : ∀ row ∈ store.groups,
    row.inviteTokenHash = (ledger row.groupId .invite).map (tokenHash prims)
  inviters : ∀ {g token}, ledger g .invite = some token → store.hasGroup g = true
  requests : ∀ r ∈ store.joinRequests, ∃ token, ledger r.groupId (.request token) = some token ∧
    r.requestTokenHash = tokenHash prims token
  admins : store.HasAdmins

theorem Accounts.empty (prims : Primitives) (key : BitVec 256) :
    Accounts prims (fun _ _ => none) (.empty key) := by
  constructor <;> simp [GatewayStore.empty, GroupIdsUnique, MemberIdsUnique, HasAdmins, groupTable,
    memberTable]

theorem issues_rotated {g actor : Uuid} {kind : GroupTokenKind} {draw : Draw} {token : String}
    (notInvite : kind ≠ .invite) :
    (StoreOp.rotateGroupToken g actor kind draw).issues (.token token) =
      [(g, .member actor, some token)] := by
  cases kind with
  | invite => exact absurd rfl notInvite
  | _ => rfl

theorem issues_banned {g m : Uuid} {ban : Bool} :
    (StoreOp.setMemberBanned g m ban).issues reply = [] := by
  cases reply <;> rfl

theorem groupIdsUnique_eq (unique : store.GroupIdsUnique) {row row' : GroupRow}
    (mem : row ∈ store.groups) (mem' : row' ∈ store.groups) (same : row.groupId = row'.groupId) :
    row = row' := by
  unfold GroupIdsUnique groupTable at unique
  rw [List.map_map] at unique
  exact List.inj_on_of_nodup_map unique mem mem' same

theorem MemberIdsUnique.eq_of_memberId (unique : store.MemberIdsUnique) {m m' : Membership}
    (mem : m ∈ store.memberTable) (mem' : m' ∈ store.memberTable) (same : m.memberId = m'.memberId) :
    m = m' := by
  obtain ⟨row, inRows, rfl⟩ := mem_memberTable.1 mem
  obtain ⟨row', inRows', rfl⟩ := mem_memberTable.1 mem'
  rw [unique.eq inRows inRows' same]

/-! ### One step keeps the accounts -/

section
variable {ledger : Ledger}

/-- In a created group the administrator's token is taken, so that it never
makes a second administrator. -/
theorem HasAdmins.holder (admins : store.HasAdmins) {g : Uuid}
    {row : GroupRow} {hash : List UInt8} (found : store.findGroup g = some row)
    (current : row.adminTokenHash = some hash) :
    ∃ m ∈ store.memberTable, m.groupId = g ∧ m.role = .admin ∧ m.credentialHash = hash := by
  obtain ⟨mem, rfl⟩ := findGroup_some found
  obtain ⟨m, inTable, group, role, hashed⟩ := admins row mem
  rw [current] at hashed
  exact ⟨m, inTable, group, role, (Option.some.inj hashed).symm⟩

section
variable {g actor : Uuid} {kind : GroupTokenKind} {m : Membership}

theorem ids_of_replaces (selected : replaces g actor kind m = true) :
    m.groupId = g ∧ m.memberId = actor := by
  simp only [replaces, rotates, Bool.and_eq_true, beq_iff_eq] at selected
  exact selected.1.1

theorem replaces_actor (unique : store.MemberIdsUnique)
    (actorRow : ∃ m ∈ store.memberTable, rotates g actor (rotatorRole kind) m = true ∧
      m.status = .active) (mem : m ∈ store.memberTable) (isActor : m.memberId = actor) :
    replaces g actor kind m = true := by
  obtain ⟨other, before, rotated, active⟩ := actorRow
  have ids : other.memberId = actor := by
    simp only [rotates, Bool.and_eq_true, beq_iff_eq] at rotated
    exact rotated.1.2
  obtain rfl := unique.eq_of_memberId mem before (isActor.trans ids.symm)
  simp [replaces, rotated, active]

end

/-- Every membership is in a group. -/
theorem CredentialStep.grouped (step : CredentialStep prims store op reply store')
    (grouped : ∀ m ∈ store.memberTable, store.hasGroup m.groupId = true)
    (persists : ∀ g, store.hasGroup g = true → store'.hasGroup g = true) {m : Membership}
    (mem : m ∈ store'.memberTable) : store'.hasGroup m.groupId = true := by
  have kept : ∀ old ∈ store.memberTable, store'.hasGroup old.groupId = true := fun old before =>
    persists _ (grouped old before)
  cases step with
  | same _ _ _ members | full _ _ _ _ members | requested _ _ _ _ _ _ _ members
  | decided _ _ members | rotatedInvite _ _ _ _ _ _ members =>
    rw [members] at mem
    exact kept m mem
  | created _ _ _ _ _ _ groups _ members =>
    rw [members] at mem
    rcases List.mem_append.1 mem with before | new
    · exact kept m before
    · rw [List.mem_singleton.1 new, hasGroup_iff, groups]
      exact ⟨_, List.mem_append_right _ (List.mem_singleton_self _), rfl⟩
  | administrator _ found _ _ _ _ members | admitted _ _ found _ _ _ _ _ members =>
    rw [members] at mem
    rcases List.mem_append.1 mem with before | new
    · exact kept m before
    · rw [List.mem_singleton.1 new]
      exact persists _ (hasGroup_iff.2 ⟨_, findGroup_some found⟩)
  | banned _ _ members | rotated _ _ _ _ _ _ members =>
    rw [members] at mem
    rcases Table.mem_updateWhere.1 mem with ⟨before, -⟩ | ⟨old, before, -, rfl⟩
    · exact kept m before
    · exact kept old before

theorem Accounts.members_step (accounts : Accounts prims ledger store)
    (step : CredentialStep prims store op reply store') {m : Membership}
    (mem : m ∈ store'.memberTable) :
    ∃ token, ledger.observe (op, reply) m.groupId (.member m.memberId) = some token ∧
      m.credentialHash = tokenHash prims token := by
  have kept : ∀ old ∈ store.memberTable, (∀ token, (old.groupId, .member old.memberId, token) ∉
      op.issues reply) → ∃ token, ledger.observe (op, reply) old.groupId (.member old.memberId) =
        some token ∧ old.credentialHash = tokenHash prims token := by
    intro old before untouched
    rw [Ledger.observe, Ledger.post_old untouched]
    exact accounts.members old before
  cases step with
  | same quiet _ _ members =>
    rw [members] at mem
    exact kept m mem (by simp [quiet])
  | full _ _ _ _ members =>
    rw [members] at mem
    exact kept m mem (by simp [StoreOp.issues, mem_consumes])
  | requested _ _ _ _ _ _ _ members | decided _ _ members | rotatedInvite _ _ _ _ _ _ members =>
    rw [members] at mem
    exact kept m mem (by simp [StoreOp.issues])
  | created issued _ _ _ _ fresh _ _ members =>
    rw [members] at mem
    rcases List.mem_append.1 mem with before | new
    · refine kept m before fun token mem => ?_
      simp [issued, fresh m before] at mem
    · obtain rfl := List.mem_singleton.1 new
      refine ⟨_, Ledger.post_new (some _) ?_ ?_, rfl⟩
      · simp [issued]
      · simp [issued]
  | administrator _ found current fresh =>
    obtain ⟨old, before, group, -, hashed⟩ := accounts.admins.holder found current
    exact absurd hashed ((fresh old before).2 group)
  | admitted _ _ _ _ _ fresh _ _ members =>
    rw [members] at mem
    rcases List.mem_append.1 mem with before | new
    · refine kept m before fun token mem => ?_
      simp [StoreOp.issues, mem_consumes, (fresh m before).1] at mem
    · obtain rfl := List.mem_singleton.1 new
      refine ⟨_, Ledger.post_new (some _) ?_ ?_, rfl⟩
      · simp [StoreOp.issues]
      · simp [StoreOp.issues, mem_consumes]
  | banned _ _ members =>
    rw [members] at mem
    rcases Table.mem_updateWhere.1 mem with ⟨before, -⟩ | ⟨old, before, -, rfl⟩
    · exact kept m before (by simp [issues_banned])
    · exact kept old before (by simp [issues_banned])
  | @rotated _ actor _ _ _ _ notInvite _ _ actorRow _ _ members =>
    rw [members] at mem
    rcases Table.mem_updateWhere.1 mem with ⟨before, skipped⟩ | ⟨old, before, selected, rfl⟩
    · refine kept m before fun token mem => ?_
      rw [issues_rotated notInvite, List.mem_singleton] at mem
      have isActor : m.memberId = actor := by simpa using congrArg (·.2.1) mem
      have selected := replaces_actor accounts.memberIds actorRow before isActor
      rw [skipped] at selected
      cases selected
    · obtain ⟨rfl, rfl⟩ := ids_of_replaces selected
      refine ⟨_, Ledger.post_new (some _) ?_ ?_, rfl⟩
      · rw [issues_rotated notInvite]
        exact List.mem_singleton_self _
      · simp [issues_rotated notInvite]

/-- A membership keeps its group, its id and its role. -/
theorem CredentialStep.persists (step : CredentialStep prims store op reply store') {m : Membership}
    (mem : m ∈ store.memberTable) :
    ∃ m' ∈ store'.memberTable, m'.groupId = m.groupId ∧ m'.memberId = m.memberId ∧ m'.role = m.role := by
  have updated : ∀ (selects : Membership → Bool) (change : Membership → Membership),
      (∀ m, (change m).groupId = m.groupId ∧ (change m).memberId = m.memberId ∧
        (change m).role = m.role) →
      ∃ m' ∈ Table.updateWhere selects change store.memberTable,
        m'.groupId = m.groupId ∧ m'.memberId = m.memberId ∧ m'.role = m.role := by
    intro selects change keeps
    cases picked : selects m with
    | false => exact ⟨m, Table.mem_updateWhere.2 (.inl ⟨mem, picked⟩), rfl, rfl, rfl⟩
    | true => exact ⟨change m, Table.mem_updateWhere.2 (.inr ⟨m, mem, picked, rfl⟩), keeps m⟩
  cases step with
  | same _ _ _ members | full _ _ _ _ members | requested _ _ _ _ _ _ _ members
  | decided _ _ members | rotatedInvite _ _ _ _ _ _ members =>
    rw [members]
    exact ⟨m, mem, rfl, rfl, rfl⟩
  | created _ _ _ _ _ _ _ _ members | administrator _ _ _ _ _ _ members
  | admitted _ _ _ _ _ _ _ _ members =>
    rw [members]
    exact ⟨m, List.mem_append_left _ mem, rfl, rfl, rfl⟩
  | banned _ _ members | rotated _ _ _ _ _ _ members =>
    rw [members]
    exact updated _ _ fun _ => ⟨rfl, rfl, rfl⟩

theorem Accounts.holders_step (accounts : Accounts prims ledger store)
    (step : CredentialStep prims store op reply store') {g id : Uuid} {token : String}
    (entry : ledger.observe (op, reply) g (.member id) = some token) :
    ∃ m ∈ store'.memberTable, m.groupId = g ∧ m.memberId = id := by
  rcases Ledger.post_some entry with now | before
  · cases step with
    | same quiet => simp [quiet] at now
    | administrator | decided => simp [StoreOp.issues] at now
    | full => simp [StoreOp.issues, mem_consumes] at now
    | banned => simp [issues_banned] at now
    | requested | rotatedInvite => simp [StoreOp.issues] at now
    | created issued _ _ _ _ _ _ _ members =>
      simp only [issued, List.mem_cons, Prod.mk.injEq, Holder.member.injEq, List.mem_map,
        Option.mem_toList, reduceCtorEq, and_false, false_and, exists_false, or_false] at now
      obtain ⟨rfl, rfl, -⟩ := now
      rw [members]
      exact ⟨_, List.mem_append_right _ (List.mem_singleton_self _), rfl, rfl⟩
    | admitted _ _ _ _ _ _ _ _ members =>
      simp only [StoreOp.issues, List.mem_cons, Prod.mk.injEq, Holder.member.injEq, mem_consumes,
        reduceCtorEq, and_false, exists_false, or_false] at now
      obtain ⟨rfl, rfl, -⟩ := now
      rw [members]
      exact ⟨_, List.mem_append_right _ (List.mem_singleton_self _), rfl, rfl⟩
    | rotated notInvite _ _ actorRow _ _ members =>
      simp only [issues_rotated notInvite, List.mem_singleton, Prod.mk.injEq,
        Holder.member.injEq] at now
      obtain ⟨rfl, rfl, -⟩ := now
      obtain ⟨m, mem, rotated, active⟩ := actorRow
      have ids := rotated
      simp only [rotates, Bool.and_eq_true, beq_iff_eq] at ids
      rw [members]
      refine ⟨_, Table.mem_updateWhere.2 (.inr ⟨m, mem, ?_, rfl⟩), ids.1⟩
      simp [replaces, rotated, active]
  · obtain ⟨m, mem, rfl, rfl⟩ := accounts.holders before
    obtain ⟨m', mem', group, member, -⟩ := step.persists mem
    exact ⟨m', mem', group, member⟩

/-- A group keeps its administrator. -/
theorem CredentialStep.staffed (step : CredentialStep prims store op reply store') {g : Uuid}
    (staffed : store.Staffed g) : store'.Staffed g := by
  intro row mem ofGroup
  cases step with
  | same _ groups _ members | full _ _ groups _ members | requested _ _ _ _ _ groups _ members
  | decided groups _ members =>
    rw [groups] at mem
    rw [members]
    exact staffed row mem ofGroup
  | created _ _ adminHash _ _ _ groups _ members =>
    rw [groups] at mem
    rw [members]
    rcases List.mem_append.1 mem with before | new
    · obtain ⟨m, inTable, rest⟩ := staffed row before ofGroup
      exact ⟨m, List.mem_append_left _ inTable, rest⟩
    · obtain rfl := List.mem_singleton.1 new
      exact ⟨_, List.mem_append_right _ (List.mem_singleton_self _), rfl, rfl, adminHash⟩
  | administrator _ _ _ _ groups _ members | admitted _ _ _ _ _ _ groups _ members =>
    rw [groups] at mem
    rw [members]
    obtain ⟨m, inTable, rest⟩ := staffed row mem ofGroup
    exact ⟨m, List.mem_append_left _ inTable, rest⟩
  | banned groups _ members =>
    rw [groups] at mem
    rw [members]
    obtain ⟨m, inTable, group, role, hashed⟩ := staffed row mem ofGroup
    -- a ban passes administrators by
    exact ⟨m, Table.mem_updateWhere.2 (.inl ⟨inTable, by simp [role]⟩), group, role, hashed⟩
  | rotatedInvite _ _ _ _ groups _ members =>
    rw [groups] at mem
    rw [members]
    rcases Table.mem_updateWhere.1 mem with ⟨before, -⟩ | ⟨old, before, -, rfl⟩
    · exact staffed row before ofGroup
    · exact staffed old before ofGroup
  | @rotated group actor kind _ token _ notInvite _ _ actorRow groups _ members =>
    rw [groups] at mem
    rw [members]
    -- outside of the actor's group, and for a member's rotation, nothing the row needs changes
    have other : ∀ old ∈ store.groups, old.groupId = g → (kind = .admin → old.groupId ≠ group) →
        ∃ m ∈ Table.updateWhere (replaces group actor kind)
          (fun m => { m with credentialHash := tokenHash prims token }) store.memberTable,
          m.groupId = old.groupId ∧ m.role = .admin ∧ old.adminTokenHash = some m.credentialHash := by
      intro old before ofGroup outside
      obtain ⟨m, inTable, same, role, hashed⟩ := staffed old before ofGroup
      refine ⟨m, Table.mem_updateWhere.2 (.inl ⟨inTable, ?_⟩), same, role, hashed⟩
      cases kind with
      | admin => simp [replaces, rotates, same, outside rfl]
      | member => simp [replaces, rotates, rotatorRole, role]
      | invite => exact absurd rfl notInvite
    cases kind with
    | member => exact other row mem ofGroup (by simp)
    | invite => exact absurd rfl notInvite
    | admin =>
      rcases Table.mem_updateWhere.1 mem with ⟨before, skipped⟩ | ⟨old, before, selected, rfl⟩
      · exact other row before ofGroup fun _ => by simpa using skipped
      · obtain ⟨m, inTable, rotated, active⟩ := actorRow
        have ids := rotated
        simp only [rotates, Bool.and_eq_true, beq_iff_eq] at ids
        refine ⟨_, Table.mem_updateWhere.2 (.inr ⟨m, inTable, ?_, rfl⟩), ?_, ids.2, rfl⟩
        · simp [replaces, rotated]
        · exact ids.1.1.trans (by simpa using selected : old.groupId = group).symm

theorem CredentialStep.hasAdmins (step : CredentialStep prims store op reply store')
    (admins : store.HasAdmins) : store'.HasAdmins :=
  fun row mem => step.staffed (fun old before _ => admins old before) row mem rfl

theorem Accounts.invites_step (accounts : Accounts prims ledger store)
    (step : CredentialStep prims store op reply store') {row : GroupRow}
    (mem : row ∈ store'.groups) :
    row.inviteTokenHash = (ledger.observe (op, reply) row.groupId .invite).map (tokenHash prims) := by
  have kept : ∀ old ∈ store.groups, (∀ token, (old.groupId, .invite, token) ∉ op.issues reply) →
      old.inviteTokenHash =
        (ledger.observe (op, reply) old.groupId .invite).map (tokenHash prims) := by
    intro old before untouched
    rw [Ledger.observe, Ledger.post_old untouched]
    exact accounts.invites old before
  cases step with
  | same quiet groups =>
    rw [groups] at mem
    exact kept row mem (by simp [quiet])
  | administrator _ _ _ _ groups | decided groups | requested _ _ _ _ _ groups =>
    rw [groups] at mem
    exact kept row mem (by simp [StoreOp.issues])
  | full _ _ groups | admitted _ _ _ _ _ _ groups =>
    rw [groups] at mem
    exact kept row mem (by simp [StoreOp.issues, mem_consumes])
  | banned groups =>
    rw [groups] at mem
    exact kept row mem (by simp [issues_banned])
  | @created _ _ _ group _ _ invite issued _ _ inviteHash free _ groups =>
    rw [groups] at mem
    rcases List.mem_append.1 mem with before | new
    · exact kept row before (by simp [issued, (free row before).symm])
    · obtain rfl := List.mem_singleton.1 new
      rw [inviteHash]
      -- the group is new, so the ledger has nothing for it
      have unknown : ledger row.groupId .invite = none := by
        cases old : ledger row.groupId .invite with
        | none => rfl
        | some token =>
          obtain ⟨other, before, same⟩ := hasGroup_iff.1 (accounts.inviters old)
          exact absurd same (free other before)
      cases invite with
      | none => rw [Ledger.observe, Ledger.post_old (by simp [issued]), unknown]
      | some token => rw [Ledger.observe, Ledger.post_new (some token)] <;> simp [issued]
  | @rotated _ _ kind _ _ _ notInvite _ _ _ groups =>
    rw [groups] at mem
    have untouched := kept
    simp only [issues_rotated notInvite, List.mem_singleton, Prod.mk.injEq, reduceCtorEq, and_false,
      false_and, not_false_eq_true, implies_true, forall_const] at untouched
    cases kind with
    | admin =>
      rcases Table.mem_updateWhere.1 mem with ⟨before, -⟩ | ⟨old, before, -, rfl⟩
      · exact untouched row before
      · exact untouched old before
    | member | invite => exact untouched row mem
  | @rotatedInvite g _ _ token _ _ _ _ inviteGroup groups =>
    rw [groups] at mem
    rcases Table.mem_updateWhere.1 mem with ⟨before, skipped⟩ | ⟨old, before, selected, rfl⟩
    · refine kept row before fun token' issued => ?_
      simp only [StoreOp.issues, List.mem_singleton, Prod.mk.injEq, true_and] at issued
      obtain ⟨other, inGroups, rfl, mode⟩ := inviteGroup
      obtain rfl := groupIdsUnique_eq accounts.groupIds before inGroups issued.1
      simp [mode] at skipped
    · simp only [Bool.and_eq_true, beq_iff_eq] at selected
      obtain ⟨rfl, -⟩ := selected
      rw [Ledger.observe, Ledger.post_new (some token)] <;> simp [StoreOp.issues]

theorem Accounts.inviters_step (accounts : Accounts prims ledger store)
    (step : CredentialStep prims store op reply store') {g : Uuid} {token : String}
    (persists : store.hasGroup g = true → store'.hasGroup g = true)
    (entry : ledger.observe (op, reply) g .invite = some token) : store'.hasGroup g = true := by
  rcases Ledger.post_some entry with now | before
  · cases step with
    | same quiet => simp [quiet] at now
    | administrator | decided | requested => simp [StoreOp.issues] at now
    | full | admitted => simp [StoreOp.issues, mem_consumes] at now
    | banned => simp [issues_banned] at now
    | rotated notInvite => simp [issues_rotated notInvite] at now
    | created issued _ _ _ _ _ groups =>
      simp only [issued, List.mem_cons, Prod.mk.injEq, List.mem_map, Option.mem_toList,
        reduceCtorEq, and_false, false_and, false_or] at now
      obtain ⟨token', -, rfl, -⟩ := now
      rw [hasGroup_iff, groups]
      exact ⟨_, List.mem_append_right _ (List.mem_singleton_self _), rfl⟩
    | rotatedInvite _ _ _ inviteGroup =>
      simp only [StoreOp.issues, List.mem_singleton, Prod.mk.injEq] at now
      obtain ⟨rfl, -⟩ := now
      obtain ⟨row, mem, group, -⟩ := inviteGroup
      exact persists (hasGroup_iff.2 ⟨row, mem, group⟩)
  · exact persists (accounts.inviters before)

theorem mem_withoutRequest {g : Uuid} {request : Option JoinRequestRow} {r : JoinRequestRow}
    (mem : r ∈ store.withoutRequest g request) :
    r ∈ store.joinRequests ∧ ∀ used, request = some used → used.groupId = g → r ≠ used := by
  cases request with
  | none => exact ⟨mem, nofun⟩
  | some used =>
    obtain ⟨before, skipped⟩ := Table.mem_deleteWhere.1 mem
    refine ⟨before, ?_⟩
    rintro _ ⟨⟩ ofGroup rfl
    simp [ofGroup] at skipped

/-- A request is found by one token. -/
theorem Accounts.request_eq (accounts : Accounts prims ledger store) {r r' : JoinRequestRow}
    (mem : r ∈ store.joinRequests) (mem' : r' ∈ store.joinRequests) (group : r.groupId = r'.groupId)
    (hash : r.requestTokenHash = r'.requestTokenHash) : r = r' :=
  List.inj_on_of_nodup_map accounts.requestHashes mem mem' (Prod.ext group hash)

end

section
variable {trace : List (StoreOp × StoreReply)} {drawn : List String}

/-- A stored request has the token of its ledger entry. -/
theorem Accounts.request_entry (inj : TokenHashInjective prims) (sound : LedgerSound trace drawn)
    (accounts : Accounts prims (.ofTrace trace) store) {r : JoinRequestRow} {token : String}
    (mem : r ∈ store.joinRequests) (valid : isValidGroupCredential token = true)
    (hashed : r.requestTokenHash = tokenHash prims token) :
    Ledger.ofTrace trace r.groupId (.request token) = some token := by
  obtain ⟨own, entry, ofOwn⟩ := accounts.requests r mem
  obtain rfl := inj token own valid (sound.valid (sound.origin entry)) (hashed.symm.trans ofOwn)
  exact entry

/-- What a join uses up is not the token of a request that stays. -/
theorem Accounts.not_consumed (inj : TokenHashInjective prims) (sound : LedgerSound trace drawn)
    (accounts : Accounts prims (.ofTrace trace) store) {g : Uuid} {row : GroupRow}
    {credential : Option String} {request : Option JoinRequestRow} {r : JoinRequestRow}
    {token : String} {given : Option String} (found : store.findGroup g = some row)
    (enters : Enters prims store row credential request) (mem : r ∈ store.withoutRequest g request)
    (valid : isValidGroupCredential token = true) (hashed : r.requestTokenHash = tokenHash prims token) :
    (r.groupId, .request token, given) ∉ StoreOp.consumes g credential := by
  obtain ⟨inGroups, rfl⟩ := findGroup_some found
  obtain ⟨before, others⟩ := mem_withoutRequest mem
  intro consumed
  obtain ⟨_, supplied, group, same, -⟩ := mem_consumes.1 consumed
  cases same
  cases enters with
  | isPublic => cases supplied
  | @invited _ hash _ isHash current =>
    cases supplied
    have asInvite := accounts.invites row inGroups
    rw [current, (credentialHash_ok isHash).2] at asInvite
    obtain ⟨own, entry, ofOwn⟩ := Option.map_eq_some_iff.1 asInvite.symm
    obtain rfl := inj own token (sound.valid (sound.origin entry)) valid ofOwn
    have asRequest := accounts.request_entry inj sound before valid hashed
    cases (sound.once (sound.origin entry) (sound.origin asRequest)).2
  | approved _ isRequest ofGroup isHash =>
    cases supplied
    refine others _ rfl ofGroup (accounts.request_eq before isRequest (group.trans ofGroup.symm) ?_)
    rw [hashed, (credentialHash_ok isHash).2]

theorem Accounts.requests_step (inj : TokenHashInjective prims) (sound : LedgerSound trace drawn)
    (accounts : Accounts prims (.ofTrace trace) store) (fresh : ∀ token ∈ op.tokens, token ∉ drawn)
    (step : CredentialStep prims store op reply store') {r : JoinRequestRow}
    (mem : r ∈ store'.joinRequests) :
    ∃ token, (Ledger.ofTrace trace).observe (op, reply) r.groupId (.request token) = some token ∧
      r.requestTokenHash = tokenHash prims token := by
  have kept : ∀ old ∈ store.joinRequests, (∀ token given, old.requestTokenHash = tokenHash prims token →
      isValidGroupCredential token = true →
      (old.groupId, .request token, given) ∉ op.issues reply) →
      ∃ token, (Ledger.ofTrace trace).observe (op, reply) old.groupId (.request token) = some token ∧
        old.requestTokenHash = tokenHash prims token := by
    intro old before untouched
    obtain ⟨token, entry, hashed⟩ := accounts.requests old before
    refine ⟨token, ?_, hashed⟩
    rw [Ledger.observe, Ledger.post_old fun given =>
      untouched token given hashed (sound.valid (sound.origin entry)), entry]
  cases step with
  | same quiet _ requests =>
    rw [requests] at mem
    exact kept r mem (by simp [quiet])
  | administrator _ _ _ _ _ requests | rotatedInvite _ _ _ _ _ requests =>
    rw [requests] at mem
    exact kept r mem (by simp [StoreOp.issues])
  | banned _ requests =>
    rw [requests] at mem
    exact kept r mem (by simp [issues_banned])
  | rotated notInvite _ _ _ _ requests =>
    rw [requests] at mem
    exact kept r mem (by simp [issues_rotated notInvite])
  | created issued _ _ _ _ _ _ requests =>
    rw [requests] at mem
    exact kept r mem (by simp [issued])
  | decided _ requests =>
    rw [requests] at mem
    rcases Table.mem_updateWhere.1 mem with ⟨before, -⟩ | ⟨old, before, -, rfl⟩
    · exact kept r before (by simp [StoreOp.issues])
    · exact kept old before (by simp [StoreOp.issues])
  | requested generated _ _ _ _ _ requests =>
    rw [requests] at mem
    rcases List.mem_append.1 mem with before | new
    · refine kept r before fun token given hashed valid issued => ?_
      simp only [StoreOp.issues, List.mem_singleton, Prod.mk.injEq, Holder.request.injEq] at issued
      obtain ⟨-, rfl, -⟩ := issued
      exact fresh token (List.mem_singleton.2 generated) (sound.drawn (sound.origin
        (accounts.request_entry inj sound before valid hashed)))
    · obtain rfl := List.mem_singleton.1 new
      refine ⟨_, Ledger.post_new (some _) ?_ ?_, rfl⟩ <;> simp [StoreOp.issues]
  | full found enters _ requests =>
    rw [requests] at mem
    exact kept r (mem_withoutRequest mem).1 fun token given hashed valid =>
      accounts.not_consumed inj sound found enters mem valid hashed
  | admitted _ _ found enters _ _ _ requests =>
    rw [requests] at mem
    refine kept r (mem_withoutRequest mem).1 fun token given hashed valid issued => ?_
    simp only [StoreOp.issues, List.mem_cons, Prod.mk.injEq, reduceCtorEq, and_false, false_and,
      false_or] at issued
    exact accounts.not_consumed inj sound found enters mem valid hashed issued

theorem Accounts.requestHashes_step (inj : TokenHashInjective prims) (sound : LedgerSound trace drawn)
    (accounts : Accounts prims (.ofTrace trace) store) (fresh : ∀ token ∈ op.tokens, token ∉ drawn)
    (step : CredentialStep prims store op reply store') :
    (store'.joinRequests.map fun r => (r.groupId, r.requestTokenHash)).Nodup := by
  have unique := accounts.requestHashes
  have without : ∀ g request, ((store.withoutRequest g request).map fun r =>
      (r.groupId, r.requestTokenHash)).Nodup := by
    intro g request
    cases request with
    | none => exact unique
    | some used => exact unique.sublist (List.filter_sublist.map _)
  cases step with
  | same _ _ requests | administrator _ _ _ _ _ requests | rotatedInvite _ _ _ _ _ requests
  | banned _ requests | rotated _ _ _ _ _ requests | created _ _ _ _ _ _ _ requests =>
    rwa [requests]
  | full _ _ _ requests | admitted _ _ _ _ _ _ _ requests =>
    rw [requests]
    exact without _ _
  | decided _ requests =>
    rw [requests, Table.map_updateWhere]
    · exact unique
    · exact fun _ _ _ => rfl
  | @requested g _ token _ _ _ generated valid _ _ _ _ requests =>
    rw [requests, List.map_append]
    refine List.Nodup.append unique (List.nodup_singleton _) fun key before new => ?_
    obtain ⟨r, mem, rfl⟩ := List.mem_map.1 before
    have hashed : r.requestTokenHash = tokenHash prims token :=
      congrArg Prod.snd (List.mem_singleton.1 new)
    exact fresh token (List.mem_singleton.2 generated) (sound.drawn (sound.origin
      (accounts.request_entry inj sound mem valid hashed)))

/-- **One operation keeps the accounts.** -/
theorem Accounts.step (inj : TokenHashInjective prims) (sound : LedgerSound trace drawn)
    (accounts : Accounts prims (.ofTrace trace) store) (fresh : ∀ token ∈ op.tokens, token ∉ drawn) :
    Accounts prims (.ofTrace (trace ++ [(op, (store.perform prims op).1)]))
      (store.perform prims op).2 := by
  have step := credentialStep prims store op
  have groups : ∀ g, store.hasGroup g = true → (store.perform prims op).2.hasGroup g = true :=
    fun g known => hasGroup_perform op known
  rw [Ledger.ofTrace_concat]
  exact {
    groupIds := groupIdsUnique_perform prims accounts.groupIds op
    memberIds := memberIdsUnique_perform prims accounts.memberIds op
    requestHashes := accounts.requestHashes_step inj sound fresh step
    grouped := fun _ mem => step.grouped accounts.grouped groups mem
    members := fun _ mem => accounts.members_step step mem
    holders := accounts.holders_step step
    invites := fun _ mem => accounts.invites_step step mem
    inviters := accounts.inviters_step step (groups _)
    requests := fun _ mem => accounts.requests_step inj sound fresh step mem
    admins := step.hasAdmins accounts.admins }

/-- The invariant of a run, with the tokens drawn so far. -/
structure Audited (prims : Primitives) (trace : List (StoreOp × StoreReply)) (drawn : List String)
    (store : GatewayStore) : Prop where
  sound : LedgerSound trace drawn
  accounts : Accounts prims (.ofTrace trace) store

/-- **Every run from an empty store is audited.** -/
theorem audited_performAll (inj : TokenHashInjective prims) (key : BitVec 256) {ops : List StoreOp}
    (fresh : FreshTokens ops) :
    let run := (GatewayStore.empty key).performAll prims ops
    Audited prims run.1 (ops.flatMap StoreOp.tokens) run.2 := by
  refine performAll_induction (motive := fun ops trace store => FreshTokens ops →
    Audited prims trace (ops.flatMap StoreOp.tokens) store) ?_ ?_ ops fresh
  · exact fun _ => ⟨.nil, .empty prims key⟩
  · intro ops op ih _ fresh
    obtain ⟨before, nodup, apart⟩ := fresh.concat
    obtain ⟨sound, accounts⟩ := ih before
    rw [List.flatMap_append, List.flatMap_singleton]
    exact ⟨sound.concat (credentialStep prims _ op).issuesDrawn nodup apart,
      accounts.step inj sound apart⟩

end

end GatewayStore

end LanChat
