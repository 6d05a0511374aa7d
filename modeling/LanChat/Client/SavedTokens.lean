import LanChat.Client.Entry
import LanChat.Storage.Access

/-!
# The saved token of an administrator

A command loses the saved token of an administrator when the gateway takes the client
for somebody new and the client saves what it is issued over the token. That is so when
the command does not present the saved token: it names no group, or brings a credential
of its own.
-/

namespace LanChat

open Transition

/-- The two answers after which a client waits. -/
def JoinAuthorization.isWaiting : JoinAuthorization → Bool
  | approvalRequired | pending _ _ => true
  | _ => false

namespace GatewayStore

section
variable (prims : Primitives) (store : GatewayStore) (g : Uuid) (credential : Option String)

/-- No membership of the group has the credential, and it is not the administrator's. -/
def Stranger : Prop :=
  ∀ token, credential = some token →
    (∀ m ∈ store.groupMembers, m.groupId = g → m.credentialHash ≠ tokenHash prims token) ∧
      ∀ row, store.findGroup g = some row → row.adminTokenHash ≠ some (tokenHash prims token)

/-- A new membership would be issued. -/
def Admits : Prop :=
  store.Stranger prims g credential ∧ store.groupMembers.countP (·.groupId == g) < maxGroupMembers ∧
    ∃ row request, store.findGroup g = some row ∧ Enters prims store row credential request

/-- The approval of an administrator would be waited for. -/
def Waits : Prop :=
  store.Stranger prims g credential ∧ (∃ row, store.findGroup g = some row ∧ row.accessMode = .approval) ∧
    (credential = none →
      store.joinRequests.countP (fun r => r.groupId == g && r.status == .pending) < maxPendingJoinRequests) ∧
    ∀ token, credential = some token → ∃ request ∈ store.joinRequests, request.groupId = g ∧
      request.requestTokenHash = tokenHash prims token ∧ request.status = .pending

end

variable {prims : Primitives} {store after : GatewayStore} {g : Uuid} {credential : Option String}
  {nickname : String} {draw requestDraw : Draw} {authorization : JoinAuthorization}

theorem stranger_none : store.Stranger prims g none := by
  intro token same
  cases same

theorem Administers.known {token : String} (administers : store.Administers prims g token) :
    ¬ store.Stranger prims g (some token) := by
  intro stranger
  obtain ⟨-, m, mem, ofGroup, -, hash⟩ := administers
  obtain ⟨row, inRows, rfl⟩ := mem_memberTable.1 mem
  exact (stranger token rfl).1 row inRows ofGroup hash

/-- A join gets past the memberships and the administrator's token only as a stranger. -/
theorem authorizeJoin_stranger
    (h : store.authorizeJoin prims g credential nickname draw = .ok (authorization, after)) :
    (∃ role memberId, authorization = .allowed role memberId none) ∨ authorization = .banned ∨
      store.Stranger prims g credential ∧ ∃ row, store.findGroup g = some row ∧ row.groupId = g ∧
        store.authorizeByMode prims row credential (credential.map (tokenHash prims)) nickname draw =
          .ok (authorization, after) := by
  unfold authorizeJoin at h
  split at h
  · cases h
  · rename_i row found
    obtain ⟨-, ofGroup⟩ := findGroup_some found
    split at h
    · exact .inr (.inr ⟨stranger_none, row, found, ofGroup, h⟩)
    · rename_i token
      simp only [bind_eq_ok] at h
      obtain ⟨hash, hashed, h⟩ := h
      obtain ⟨-, rfl⟩ := credentialHash_ok hashed
      split at h
      · split at h
        · cases h
          exact .inr (.inl rfl)
        · cases h
          exact .inl ⟨_, _, rfl⟩
      · rename_i noMember
        split at h
        · simp only [bind_eq_ok] at h
          obtain ⟨_, -, h⟩ := h
          cases h
          exact .inl ⟨_, _, rfl⟩
        · rename_i notAdmin
          refine .inr (.inr ⟨fun other same => ?_, row, found, ofGroup, h⟩)
          cases same
          constructor
          · intro m mem same holds
            have selected := List.find?_eq_none.1 noMember m mem
            simp [same, holds] at selected
          · intro row' found'
            rw [found] at found'
            cases found'
            exact notAdmin

theorem admits_of_issued {role : GroupRole} {memberId : Uuid} {token : String}
    (h : store.authorizeJoin prims g credential nickname draw = .ok (.allowed role memberId (some token), after)) :
    store.Admits prims g credential := by
  obtain ⟨_, _, same⟩ | same | ⟨stranger, -⟩ := authorizeJoin_stranger h
  · cases same
  · cases same
  · cases authorizeJoin_cases h with
    | refused refusal => exact absurd rfl (refusal role memberId (some token))
    | issued found enters few => exact ⟨stranger, few, _, _, found, enters⟩

theorem issueMember_waitless (h : store.issueMember prims g nickname draw = .ok (authorization, after)) :
    authorization.isWaiting = false := by
  unfold issueMember at h
  split at h
  · cases h
    rfl
  · simp only [bind_eq_ok] at h
    obtain ⟨_, -, h⟩ := h
    cases h
    rfl

theorem authorizeRequest_waits {token : String} {hash : List UInt8}
    (h : store.authorizeRequest prims g token nickname hash draw = .ok (authorization, after))
    (waiting : authorization.isWaiting = true) :
    authorization ≠ .approvalRequired ∧ ∃ request ∈ store.joinRequests, request.groupId = g ∧
      request.requestTokenHash = hash ∧ request.status = .pending := by
  unfold authorizeRequest at h
  split at h
  · cases h
    cases waiting
  · rename_i request found
    have selected := List.find?_some found
    simp only [Bool.and_eq_true, beq_iff_eq] at selected
    split at h
    · simp only [bind_eq_ok] at h
      obtain ⟨⟨decided, s⟩, issued, h⟩ := h
      cases h
      rw [issueMember_waitless issued] at waiting
      cases waiting
    · rename_i status
      cases h
      exact ⟨by simp, request, List.mem_of_find?_eq_some found, selected.1, selected.2, status⟩
    · cases h
      cases waiting

theorem authorizeByMode_waits {row : GroupRow}
    (h : store.authorizeByMode prims row credential (credential.map (tokenHash prims)) nickname draw =
      .ok (authorization, after)) (waiting : authorization.isWaiting = true) :
    row.accessMode = .approval ∧ (credential = none → authorization = .approvalRequired ∧ after = store) ∧
      ∀ token, credential = some token → authorization ≠ .approvalRequired ∧
        ∃ request ∈ store.joinRequests, request.groupId = row.groupId ∧
          request.requestTokenHash = tokenHash prims token ∧ request.status = .pending := by
  unfold authorizeByMode at h
  cases mode : row.accessMode with
  | isPublic =>
    cases credential with
    | none =>
      simp only [mode] at h
      rw [issueMember_waitless h] at waiting
      cases waiting
    | some token =>
      simp only [mode] at h
      cases h
      cases waiting
  | invite =>
    cases credential with
    | none =>
      simp only [mode] at h
      cases h
      cases waiting
    | some token =>
      simp only [mode] at h
      split at h
      · rw [issueMember_waitless h] at waiting
        cases waiting
      · cases h
        cases waiting
  | approval =>
    cases credential with
    | none =>
      simp only [mode, Option.map_none] at h
      cases h
      exact ⟨rfl, fun _ => ⟨rfl, rfl⟩, by simp⟩
    | some token =>
      simp only [mode, Option.map_some] at h
      refine ⟨rfl, by simp, fun other same => ?_⟩
      cases same
      exact authorizeRequest_waits h waiting

/-- Who is told to wait is a stranger in a group with approval. -/
theorem authorizeJoin_waits
    (h : store.authorizeJoin prims g credential nickname draw = .ok (authorization, after))
    (waiting : authorization.isWaiting = true) :
    store.Stranger prims g credential ∧ (∃ row, store.findGroup g = some row ∧ row.accessMode = .approval) ∧
      (credential = none → authorization = .approvalRequired ∧ after = store) ∧
      ∀ token, credential = some token → authorization ≠ .approvalRequired ∧
        ∃ request ∈ store.joinRequests, request.groupId = g ∧
          request.requestTokenHash = tokenHash prims token ∧ request.status = .pending := by
  obtain ⟨_, _, rfl⟩ | rfl | ⟨stranger, row, found, ofGroup, h⟩ := authorizeJoin_stranger h
  · cases waiting
  · cases waiting
  · obtain ⟨mode, waits⟩ := authorizeByMode_waits h waiting
    rw [ofGroup] at waits
    exact ⟨stranger, ⟨row, found, mode⟩, waits⟩

theorem joinGroup_quiet : Quiet prims store (store.joinGroup prims g credential nickname draw requestDraw).2 := by
  unfold joinGroup
  split
  · exact .refl
  · split
    · exact .refl
    · rename_i joined
      exact Quiet.refl.settled joined (.authorizeJoin g credential nickname draw) rfl rfl
    · rename_i asks
      have asked := Quiet.refl.settled asks (.authorizeJoin g credential nickname draw) rfl rfl
      split
      · rename_i created
        exact asked.settled created (.createJoinRequest g nickname requestDraw) rfl rfl
      · exact asked
    · rename_i pending
      exact Quiet.refl.settled pending (.authorizeJoin g credential nickname draw) rfl rfl
    · rename_i refused
      exact Quiet.refl.settled ‹_› (.authorizeJoin g credential nickname draw) rfl rfl

theorem selectCreate_quiet {name : String} {accessMode : GroupAccessMode} :
    Quiet prims store (store.selectCreate prims name accessMode nickname draw).2 := by
  unfold selectCreate
  split
  · exact .refl
  · split
    · exact .refl
    · rename_i name _ _ created after creation
      have founded := Quiet.refl.settled creation (.createGroupWithAccess name accessMode draw) rfl rfl
      split
      · exact founded
      · rename_i named
        refine @Quiet.settled _ _ _ Unit (fun _ => .done) _ () founded _ (congrArg (Except.map ((), ·)) named)
          (.updateMemberNickname created.summary.groupId created.creatorMemberId nickname) rfl rfl

/-- A new group is not one that has an administrator already. -/
theorem selectCreate_fresh {name token : String} {accessMode : GroupAccessMode} {groupId memberId : Uuid}
    {issuedCredentials : Option IssuedGroupCredentials} {issuedMemberToken : Option String}
    (sound : store.MembersSound)
    (h : (store.selectCreate prims name accessMode nickname draw).1 =
      .welcome groupId memberId issuedCredentials issuedMemberToken) :
    ¬ store.Administers prims groupId token := by
  unfold selectCreate at h
  split at h
  · cases h
  · split at h
    · cases h
    · rename_i created s creation
      split at h
      · cases h
      · cases h
        rintro ⟨-, m, mem, ofGroup, -⟩
        obtain ⟨_, _, -, summary, -, -, fresh, -⟩ := createGroupWithAccess_ok creation
        obtain ⟨row, inGroups, same⟩ := hasGroup_iff.1 (sound.grouped m mem)
        rw [ofGroup, summary] at same
        exact (fresh row inGroups).1 same

theorem selectCreate_welcome {name : String} {accessMode : GroupAccessMode} {groupId memberId : Uuid}
    {issuedCredentials : Option IssuedGroupCredentials} {issuedMemberToken : Option String}
    (h : (store.selectCreate prims name accessMode nickname draw).1 =
      .welcome groupId memberId issuedCredentials issuedMemberToken) : issuedMemberToken = none := by
  unfold selectCreate at h
  split at h
  · cases h
  · split at h
    · cases h
    · split at h
      · cases h
      · cases h
        rfl

/-- What a gateway answers a join with. -/
inductive JoinAnswer (prims : Primitives) (store : GatewayStore) (g : Uuid) (credential : Option String) :
    SelectionReply → Prop where
  | welcome {memberId : Uuid} {issued : Option String}
      (issues : issued ≠ none → store.Admits prims g credential) :
      JoinAnswer prims store g credential (.welcome g memberId none issued)
  | joinPending {requestId : Uuid} {requestToken : String} (waits : store.Waits prims g credential) :
      JoinAnswer prims store g credential (.joinPending g requestId requestToken)
  | error : JoinAnswer prims store g credential .error

theorem joinGroup_answer (prims : Primitives) (store : GatewayStore) (g : Uuid) (credential : Option String)
    (nickname : String) (draw requestDraw : Draw) :
    JoinAnswer prims store g credential (store.joinGroup prims g credential nickname draw requestDraw).1 := by
  unfold joinGroup
  split
  · exact .error
  · split
    · exact .error
    · rename_i role memberId issued after joined
      refine .welcome fun some => ?_
      cases issued with
      | none => exact absurd rfl some
      | some token => exact admits_of_issued joined
    · rename_i s asks
      obtain ⟨stranger, mode, unchanged, requests⟩ := authorizeJoin_waits asks rfl
      split
      · rename_i requestId requestToken s' created
        refine .joinPending ⟨stranger, mode, fun none => ?_, fun token same => absurd rfl (requests token same).1⟩
        obtain ⟨_, _, -, -, few, -⟩ := createJoinRequest_cases created
        rwa [(unchanged none).2] at few
      · exact .error
    · rename_i requestId requestToken s pending
      obtain ⟨stranger, mode, unchanged, requests⟩ := authorizeJoin_waits pending rfl
      refine .joinPending ⟨stranger, mode, fun none => ?_, fun token same => (requests token same).2⟩
      cases (unchanged none).1
    · exact .error

end GatewayStore

/-! ## The store of the client -/

namespace CredentialStore

variable {encode : CredentialFile → List UInt8} {fails : SaveStep → Bool} {store : CredentialStore}
  {key : GroupKey} {token : String} {session : SessionInfo} {supplied : Option String}

theorem save_records : (store.save encode fails).2.records = store.records := by
  obtain ⟨_, -, -, -, saved⟩ | ⟨-, _, -, saved⟩ | ⟨-, saved⟩ := save_cases encode fails store <;> rw [saved]

/-- A valid token is the one presented from then on, whether the save succeeds or not. -/
theorem set_joinToken (gatewayId groupId : Uuid) (given : String) (inviteToken : Option String) :
    (store.set encode fails gatewayId groupId given inviteToken).2.joinToken key =
      if validateRecord { gatewayId, groupId, joinToken := given, inviteToken } = true ∧ key = ⟨gatewayId, groupId⟩
      then some given else store.joinToken key := by
  unfold set joinToken
  simp only
  split
  · rename_i invalid
    rw [if_neg]
    rintro ⟨valid, -⟩
    rw [valid] at invalid
    cases invalid
  · rename_i valid
    rw [save_records, Std.ExtTreeMap.getElem?_insert]
    by_cases same : key = ⟨gatewayId, groupId⟩
    · subst same
      simp_all
    · rw [if_neg, if_neg]
      · exact fun both => same both.2
      · exact fun equal => same (Std.LawfulEqOrd.eq_of_compare equal).symm

theorem set_other {gatewayId groupId : Uuid} {given : String} {inviteToken : Option String}
    (other : (⟨gatewayId, groupId⟩ : GroupKey) ≠ key) :
    (store.set encode fails gatewayId groupId given inviteToken).2.joinToken key = store.joinToken key := by
  rw [set_joinToken, if_neg fun both => other both.2.symm]

theorem remove_other {gatewayId groupId : Uuid} (other : (⟨gatewayId, groupId⟩ : GroupKey) ≠ key) :
    (store.remove encode fails gatewayId groupId).2.joinToken key = store.joinToken key := by
  have erased : (store.records.erase ⟨gatewayId, groupId⟩)[key]? = store.records[key]? := by
    rw [Std.ExtTreeMap.getElem?_erase, if_neg fun equal => other (Std.LawfulEqOrd.eq_of_compare equal)]
  unfold remove joinToken
  extract_lets removed cleared
  split
  · simp only [save_records]
    rw [erased]
  · change (cleared.records[key]?).map _ = _
    rw [erased]

theorem set_wellKeyed {gatewayId groupId : Uuid} {given : String} {inviteToken : Option String}
    (keyed : store.records.WellKeyed) :
    (store.set encode fails gatewayId groupId given inviteToken).2.records.WellKeyed := by
  unfold set
  simp only
  split
  · exact keyed
  · rename_i valid
    rw [save_records]
    have recorded : validateRecord { gatewayId, groupId, joinToken := given, inviteToken } = true := by
      simpa using valid
    exact keyed.insert recorded

theorem remove_wellKeyed {gatewayId groupId : Uuid} (keyed : store.records.WellKeyed) :
    (store.remove encode fails gatewayId groupId).2.records.WellKeyed := by
  unfold remove
  extract_lets removed cleared
  split
  · simp only [save_records]
    exact keyed.erase
  · exact keyed.erase

/-- The file is as it was, or it has what is in the memory now. -/
def Saves (encode : CredentialFile → List UInt8) (before after : CredentialStore) : Prop :=
  after.file = before.file ∨ after.file = some (encode after.records.toFile)

theorem save_saves : store.Saves encode (store.save encode fails).2 := by
  obtain ⟨_, -, -, -, saved⟩ | ⟨-, _, -, saved⟩ | ⟨-, saved⟩ := save_cases encode fails store <;> rw [saved]
  · exact .inl rfl
  · exact .inr rfl
  · exact .inr rfl

theorem set_saves {gatewayId groupId : Uuid} {given : String} {inviteToken : Option String} :
    store.Saves encode (store.set encode fails gatewayId groupId given inviteToken).2 := by
  unfold set
  simp only
  split
  · exact .inl rfl
  · exact @save_saves encode fails { store with records := _ }

/-- A valid record is in the file when the save gets as far as the renaming. -/
theorem set_renamed {gatewayId groupId : Uuid} {given : String} {inviteToken : Option String}
    (valid : validateRecord { gatewayId, groupId, joinToken := given, inviteToken } = true)
    (renames : ∀ step, fails step = true → step = .setPermissions ∨ step = .syncDirectory) :
    (store.set encode fails gatewayId groupId given inviteToken).2.file =
      some (encode (store.set encode fails gatewayId groupId given inviteToken).2.records.toFile) := by
  unfold set
  simp only [valid, Bool.not_true, Bool.false_eq_true, if_false]
  obtain ⟨step, failed, notPermissions, notSync, -⟩ | ⟨-, _, -, saved⟩ | ⟨-, saved⟩ :=
    save_cases encode fails { store with records := store.records.insert ⟨gatewayId, groupId⟩ _ }
  · obtain permissions | sync := renames step failed
    · exact absurd permissions notPermissions
    · exact absurd sync notSync
  · rw [saved]
  · rw [saved]

theorem remove_saves {gatewayId groupId : Uuid} :
    store.Saves encode (store.remove encode fails gatewayId groupId).2 := by
  unfold remove
  extract_lets removed cleared
  split
  · exact @save_saves encode fails cleared
  · exact .inl rfl

theorem persist_saves (single : session.issuedCredentials = none ∨ session.issuedMemberToken = none) :
    store.Saves encode (store.persistConnectionCredentials encode fails session supplied).2 := by
  unfold persistConnectionCredentials
  cases issued : session.issuedCredentials with
  | none =>
    simp only
    split
    · exact set_saves
    · split
      · exact set_saves
      · exact .inl rfl
  | some credentials =>
    have noToken : session.issuedMemberToken = none := by simpa [issued] using single
    have saves := @set_saves encode fails store session.gatewayId session.groupId credentials.adminToken
      credentials.inviteToken
    simp only [noToken]
    split
    · rename_i saved
      rw [saved] at saves
      exact saves
    · rename_i saved
      rw [saved] at saves
      exact saves

theorem persistRotated_saves {kind : GroupTokenKind} {rotated : String}
    {after : Except CredentialError Unit × CredentialStore}
    (done : store.persistRotatedToken encode fails session kind rotated = some after) :
    store.Saves encode after.2 := by
  obtain ⟨existing, -, rfl⟩ := Option.map_eq_some_iff.1 done
  exact set_saves

theorem persist_wellKeyed (keyed : store.records.WellKeyed) :
    (store.persistConnectionCredentials encode fails session supplied).2.records.WellKeyed := by
  unfold persistConnectionCredentials
  extract_lets saved
  have first : saved.2.records.WellKeyed := by
    unfold saved
    split
    · exact set_wellKeyed keyed
    · exact keyed
  clear_value saved
  obtain ⟨_ | _, store'⟩ := saved
  · exact first
  · simp only
    split
    · exact set_wellKeyed first
    · split
      · exact set_wellKeyed first
      · exact first

theorem persistRotated_wellKeyed {kind : GroupTokenKind} {rotated : String}
    {after : Except CredentialError Unit × CredentialStore} (keyed : store.records.WellKeyed)
    (done : store.persistRotatedToken encode fails session kind rotated = some after) :
    after.2.records.WellKeyed := by
  obtain ⟨existing, -, rfl⟩ := Option.map_eq_some_iff.1 done
  exact set_wellKeyed keyed

/-- A rotated token of the administrator is the one that is presented from then on. -/
theorem persistRotated_admin {rotated : String} {after : Except CredentialError Unit × CredentialStore}
    (keyed : store.records.WellKeyed) (valid : isValidGroupCredential rotated = true)
    (done : store.persistRotatedToken encode fails session .admin rotated = some after) :
    after.2.joinToken session.key = some rotated := by
  obtain ⟨existing, found, rfl⟩ := Option.map_eq_some_iff.1 done
  have sound := (keyed _ _ found).2
  simp only [validateRecord, Bool.and_eq_true] at sound
  refine (set_joinToken _ _ _ _).trans (if_pos ⟨?_, rfl⟩)
  simp [validateRecord, valid, sound.2]

/-- It is in the file, too, when the save gets as far as the renaming. -/
theorem persistRotated_renamed {rotated : String} {after : Except CredentialError Unit × CredentialStore}
    (keyed : store.records.WellKeyed) (valid : isValidGroupCredential rotated = true)
    (renames : ∀ step, fails step = true → step = .setPermissions ∨ step = .syncDirectory)
    (done : store.persistRotatedToken encode fails session .admin rotated = some after) :
    after.2.file = some (encode after.2.records.toFile) := by
  obtain ⟨existing, found, rfl⟩ := Option.map_eq_some_iff.1 done
  have sound := (keyed _ _ found).2
  simp only [validateRecord, Bool.and_eq_true] at sound
  exact set_renamed (by simp [validateRecord, valid, sound.2]) renames

/-- A connection that issues nothing for a group leaves its token alone. -/
theorem persist_kept (held : store.joinToken key = some token)
    (nothing : session.key = key → session.issuedCredentials = none ∧ session.issuedMemberToken = none) :
    (store.persistConnectionCredentials encode fails session supplied).2.joinToken key = some token := by
  by_cases same : session.key = key
  · obtain ⟨noCredentials, noToken⟩ := nothing same
    obtain ⟨record, found, -⟩ := Option.map_eq_some_iff.1 held
    rw [← same] at found
    simp only [persistConnectionCredentials, noCredentials, noToken, found]
    exact held
  · have left : ∀ (store : CredentialStore) given inviteToken, store.joinToken key = some token →
        (store.set encode fails session.gatewayId session.groupId given inviteToken).2.joinToken key = some token :=
      fun store given inviteToken held => (set_other same).trans held
    unfold persistConnectionCredentials
    extract_lets saved
    have first : saved.2.joinToken key = some token := by
      unfold saved
      split
      · exact left store _ _ held
      · exact held
    clear_value saved
    obtain ⟨_ | _, store'⟩ := saved
    · exact first
    · simp only
      split
      · exact left store' _ _ first
      · split
        · exact left store' _ _ first
        · exact first

/-- A rotation of the administrator's token, or of the invite token, that is saved. -/
theorem persistRotated_kept {kind : GroupTokenKind} {rotated : String}
    {after : Except CredentialError Unit × CredentialStore}
    (held : store.joinToken key = some token)
    (done : store.persistRotatedToken encode fails session kind rotated = some after) :
    after.2.joinToken key = some token ∨
      session.key = key ∧ kind ≠ .invite ∧ after.2.joinToken key = some rotated := by
  obtain ⟨existing, found, rfl⟩ := Option.map_eq_some_iff.1 done
  by_cases same : session.key = key
  · obtain ⟨record, found', presented⟩ := Option.map_eq_some_iff.1 held
    rw [← same, found] at found'
    cases found'
    cases kind with
    | invite =>
      refine .inl ?_
      simp only [set_joinToken]
      split
      · rw [presented]
      · exact held
    | member | admin =>
      simp only [set_joinToken]
      split
      · exact .inr ⟨same, by simp, rfl⟩
      · exact .inl held
  · exact .inl ((set_other same).trans held)

end CredentialStore

/-! ## Commands -/

namespace Installation

section
variable (prims : Primitives) (s : Installation)

/-- The credential store has the token of the administrator of the group. -/
def Holds (key : GroupKey) (token : String) : Prop :=
  s.store.joinToken key = some token ∧ (s.gateways key.gatewayId).Administers prims key.groupId token

/-- The group a command asks to enter, and the credential it presents there. -/
def asks (exchange : Exchange) : Command → Option (GroupKey × Option String)
  | .join gatewayId (some groupId) credential | .send gatewayId (some groupId) credential =>
    (s.resolveSavedCredential exchange (some groupId) credential).map fun presented =>
      (⟨gatewayId, groupId⟩, presented)
  | .lobbyJoin gatewayId selectedGateway (some groupId) credential =>
    some (⟨gatewayId, groupId⟩, s.lobbyCredential selectedGateway (some groupId) credential)
  | .join gatewayId none none | .send gatewayId none none | .lobbyJoin gatewayId _ none _ =>
    (s.onlyGroup gatewayId).map fun groupId => (⟨gatewayId, groupId⟩, none)
  | _ => none

/-- The lobby saves the token of a request that waits for approval. -/
def Command.savesRequest : Command → Bool
  | .lobbyJoin _ _ (some _) _ => true
  | _ => false

/-- The record an explicit command is about. -/
def Command.overwrites : Command → Option GroupKey
  | .setCredential key _ _ | .removeCredential key | .forgetCredential key => some key
  | _ => none

/-- The client is issued something for the group that it saves there: it enters as
somebody new, or it waits for approval, or it has entered as an ordinary member and
replaces that member's token. -/
def Displaces (event : Event) (key : GroupKey) : Prop :=
  event.exchange.replied = true ∧ match event.command with
    | .rotate kind => kind = .member ∧ ∃ session, s.session = some session ∧ session.key = key ∧
        ∃ m ∈ (s.gateways key.gatewayId).groupMembers, m.groupId = key.groupId ∧
          m.memberId = session.memberId ∧ m.status = .active ∧ m.role = .member
    | command => event.exchange.reached = true ∧ ∃ presented,
        s.asks event.exchange command = some (key, presented) ∧
          ((s.gateways key.gatewayId).Admits prims key.groupId presented ∨
            command.savesRequest = true ∧ (s.gateways key.gatewayId).Waits prims key.groupId presented)

/-- The administrator of a group is careful with an event: nothing is issued for the
group that takes the place of the token, no command is about its record, a rotated
token arrives and its file replaces the old one, and nobody else rotates it. -/
def Spares (key : GroupKey) (s : Installation) (event : Event) : Prop :=
  ¬ s.Displaces prims event key ∧ event.command.overwrites ≠ some key ∧ match event.command with
    | .rotate .admin => ∀ session, s.session = some session → session.key = key →
        event.exchange.replied = true ∧
          ∀ step, event.fails step = true → step = .setPermissions ∨ step = .syncDirectory
    | .elsewhere gatewayId op => gatewayId = key.gatewayId → op.replacesAdmin ≠ some key.groupId
    | _ => True

/-- Saved records are filed under their own ids, and the tables of the gateways are sound. -/
structure Consistent : Prop where
  records : s.store.records.WellKeyed
  gateways : ∀ gatewayId, (s.gateways gatewayId).MembersSound

end

variable {encode : CredentialFile → List UInt8} {prims : Primitives} {s s' : Installation} {exchange : Exchange}
  {fails : SaveStep → Bool} {gatewayId groupId : Uuid} {credential : Option String} {key : GroupKey}
  {token : String}

/-- What a connection that asks for a group comes to. -/
inductive Asked (prims : Primitives) (s : Installation) (exchange : Exchange) (key : GroupKey)
    (presented : Option String) : JoinOutcome → Prop where
  | connected {memberId : Uuid} {issued : Option String} (reached : exchange.reached = true)
      (replied : exchange.replied = true)
      (issues : issued ≠ none → (s.gateways key.gatewayId).Admits prims key.groupId presented) :
      Asked prims s exchange key presented (.connected
        { gatewayId := key.gatewayId, groupId := key.groupId, memberId, issuedCredentials := none,
          issuedMemberToken := issued })
  | pending {requestId : Uuid} {requestToken : String} (reached : exchange.reached = true)
      (replied : exchange.replied = true)
      (waits : (s.gateways key.gatewayId).Waits prims key.groupId presented) :
      Asked prims s exchange key presented (.pending key.gatewayId key.groupId requestId requestToken)

theorem connectSelected_store (selection : GroupSelection) :
    (s.connectSelected prims exchange gatewayId selection).2.store = s.store := by
  unfold connectSelected
  split <;> rfl

theorem connectSelected_asked {outcome : JoinOutcome}
    (h : (s.connectSelected prims exchange gatewayId (.join groupId credential)).1 = some outcome) :
    Asked prims s exchange ⟨gatewayId, groupId⟩ credential outcome := by
  unfold connectSelected at h
  split at h
  · cases h
  · rename_i reached
    have answer := GatewayStore.joinGroup_answer prims (s.gateways gatewayId) groupId credential
      exchange.nickname exchange.draw exchange.requestDraw
    simp only at h
    split at h
    · rename_i replied
      have reached : exchange.reached = true := by simpa using reached
      generalize (GatewayStore.joinGroup prims (s.gateways gatewayId) groupId credential exchange.nickname
        exchange.draw exchange.requestDraw).1 = reply at h answer
      cases answer with
      | welcome issues =>
        cases h
        exact @Asked.connected _ _ _ ⟨gatewayId, groupId⟩ _ _ _ reached replied issues
      | joinPending waits =>
        cases h
        exact @Asked.pending _ _ _ ⟨gatewayId, groupId⟩ _ _ _ reached replied waits
      | error => cases h
    · cases h

theorem connectSelected_created {name : String} {accessMode : GroupAccessMode} {session : SessionInfo}
    (h : (s.connectSelected prims exchange gatewayId (.create name accessMode)).1 = some (.connected session)) :
    session.issuedMemberToken = none := by
  unfold connectSelected at h
  split at h
  · cases h
  · simp only at h
    split at h
    · split at h
      · rename_i welcomed
        cases h
        exact GatewayStore.selectCreate_welcome welcomed
      · cases h
      · cases h
    · cases h

theorem joinGroupWithCredential_store :
    (s.joinGroupWithCredential prims exchange gatewayId groupId credential).2.store = s.store := by
  unfold joinGroupWithCredential
  split
  · rfl
  · exact connectSelected_store _

theorem joinGroupWithCredential_asked {outcome : JoinOutcome}
    (h : (s.joinGroupWithCredential prims exchange gatewayId groupId credential).1 = some outcome) :
    Asked prims s exchange ⟨gatewayId, groupId⟩ credential outcome := by
  unfold joinGroupWithCredential at h
  split at h
  · cases h
  · exact connectSelected_asked h

theorem expectConnected_store (result : Option JoinOutcome × Installation) :
    (expectConnected result).2.store = result.2.store := by
  unfold expectConnected
  split <;> rfl

theorem expectConnected_some {result : Option JoinOutcome × Installation} {session : SessionInfo}
    (h : (expectConnected result).1 = some session) : result.1 = some (.connected session) := by
  unfold expectConnected at h
  split at h
  · cases h
    rfl
  · cases h

theorem connect_store : (s.connect prims exchange gatewayId).2.store = s.store := by
  unfold connect
  split
  · rw [expectConnected_store, connectSelected_store]
  · rfl

theorem connect_asked {session : SessionInfo} (h : (s.connect prims exchange gatewayId).1 = some session) :
    ∃ groupId, s.onlyGroup gatewayId = some groupId ∧
      Asked prims s exchange ⟨gatewayId, groupId⟩ none (.connected session) := by
  unfold connect at h
  split at h
  · rename_i groupId only
    exact ⟨groupId, only, connectSelected_asked (expectConnected_some h)⟩
  · cases h

theorem joinGroupWithCredential_single {session : SessionInfo}
    (h : (s.joinGroupWithCredential prims exchange gatewayId groupId credential).1 = some (.connected session)) :
    session.issuedCredentials = none ∨ session.issuedMemberToken = none := by
  cases joinGroupWithCredential_asked h with
  | connected => exact .inl rfl

theorem connect_single {session : SessionInfo} (h : (s.connect prims exchange gatewayId).1 = some session) :
    session.issuedCredentials = none ∨ session.issuedMemberToken = none := by
  obtain ⟨groupId, -, asked⟩ := connect_asked h
  cases asked with
  | connected => exact .inl rfl

/-- **Entering keeps what is held** when nothing is issued for the group. -/
theorem enter_kept {supplied : Option String} {entered : Option SessionInfo}
    (held : s.store.joinToken key = some token)
    (nothing : ∀ session, entered = some session → session.key = key →
      session.issuedCredentials = none ∧ session.issuedMemberToken = none) :
    (s.enter encode fails supplied entered).store.joinToken key = some token := by
  unfold enter
  cases entered with
  | none => exact held
  | some session =>
    have kept := @CredentialStore.persist_kept encode fails s.store key token session supplied held
      (nothing session rfl)
    simp only
    split
    · rename_i store saved
      rw [saved] at kept
      exact kept
    · rename_i store failed
      rw [failed] at kept
      exact kept

/-- A connection that asks for a group is issued nothing for it unless it is admitted as
somebody new. -/
theorem Asked.nothing {target : GroupKey} {presented : Option String} {session : SessionInfo}
    (asked : Asked prims s exchange target presented (.connected session)) (same : session.key = key)
    (careful : exchange.replied = true → exchange.reached = true → target = key →
      ¬ (s.gateways key.gatewayId).Admits prims key.groupId presented) :
    session.issuedCredentials = none ∧ session.issuedMemberToken = none := by
  cases asked with
  | connected reached replied issues =>
    subst same
    refine ⟨rfl, ?_⟩
    by_contra some
    exact careful replied reached rfl (issues some)

/-- The `Join` and the `Send` of the command line. -/
theorem joinGroup_kept {groupId : Option Uuid} {command : Command}
    (isJoin : command = .join gatewayId groupId credential ∨ command = .send gatewayId groupId credential)
    (held : s.store.joinToken key = some token)
    (careful : exchange.replied = true → exchange.reached = true → ∀ presented,
      s.asks exchange command = some (key, presented) →
        ¬ (s.gateways key.gatewayId).Admits prims key.groupId presented) :
    (s.joinGroup encode prims exchange fails gatewayId groupId credential).store.joinToken key = some token := by
  unfold joinGroup
  split
  · exact held
  · rename_i supplied resolved
    cases groupId with
    | some groupId =>
      refine enter_kept (s := (expectConnected
        (s.joinGroupWithCredential prims exchange gatewayId groupId supplied)).2) ?_ ?_
      · rw [expectConnected_store, joinGroupWithCredential_store]
        exact held
      · intro session entered same
        have asked := joinGroupWithCredential_asked (expectConnected_some entered)
        refine asked.nothing same fun replied reached target => careful replied reached supplied ?_
        rw [← target]
        obtain rfl | rfl := isJoin <;> simp [asks, resolved]
    | none =>
      simp only [connectToSelectedGroup]
      split
      · exact held
      · rename_i noCredential
        have given : supplied = credential := by
          cases credential <;> exact (Option.some.inj resolved).symm
        have absent : credential = none := by
          rw [given] at noCredential
          simpa using noCredential
        refine enter_kept (s := (s.connect prims exchange gatewayId).2) ?_ ?_
        · rw [connect_store]
          exact held
        · intro session entered same
          obtain ⟨groupId, only, asked⟩ := connect_asked entered
          refine asked.nothing same fun replied reached target => careful replied reached none ?_
          rw [← target]
          obtain rfl | rfl := isJoin <;> simp [asks, absent, only]

theorem lobbyJoin_kept {selectedGateway groupId : Option Uuid}
    (held : s.store.joinToken key = some token)
    (careful : exchange.replied = true → exchange.reached = true → ∀ presented,
      s.asks exchange (.lobbyJoin gatewayId selectedGateway groupId credential) = some (key, presented) →
        ¬ ((s.gateways key.gatewayId).Admits prims key.groupId presented ∨
          groupId.isSome = true ∧ (s.gateways key.gatewayId).Waits prims key.groupId presented)) :
    (s.lobbyJoin encode prims exchange fails gatewayId selectedGateway groupId credential).store.joinToken key =
      some token := by
  unfold lobbyJoin
  extract_lets supplied
  cases groupId with
  | none =>
    refine enter_kept (s := (s.connect prims exchange gatewayId).2) ?_ ?_
    · rw [connect_store]
      exact held
    · intro session entered same
      obtain ⟨groupId, only, asked⟩ := connect_asked entered
      refine asked.nothing same fun replied reached target admits => ?_
      refine careful replied reached none ?_ (.inl admits)
      rw [← target]
      simp [asks, only]
  | some groupId =>
    have asked := @joinGroupWithCredential_asked prims s exchange gatewayId groupId supplied
    have unchanged := @joinGroupWithCredential_store prims s exchange gatewayId groupId supplied
    have target : ∀ presented, (⟨gatewayId, groupId⟩ : GroupKey) = key → presented = supplied →
        s.asks exchange (.lobbyJoin gatewayId selectedGateway (some groupId) credential) = some (key, presented) := by
      rintro presented rfl rfl
      rfl
    have held' : (s.joinGroupWithCredential prims exchange gatewayId groupId supplied).2.store.joinToken key =
        some token := by
      rw [unchanged]
      exact held
    simp only
    split
    · rename_i session s' entered
      rw [entered] at asked held'
      refine enter_kept held' fun session' connected same => ?_
      cases connected
      refine (asked rfl).nothing same fun replied reached same admits => ?_
      exact careful replied reached supplied (target _ same rfl) (.inl admits)
    · rename_i gatewayId' groupId' requestId requestToken s' waiting
      rw [waiting] at asked held'
      cases asked rfl with
      | pending reached replied waits =>
        by_cases same : (⟨gatewayId, groupId⟩ : GroupKey) = key
        · subst same
          exact absurd (.inr ⟨rfl, waits⟩) (careful replied reached supplied rfl)
        · rw [CredentialStore.set_other same]
          exact held'
    · rename_i s' failed
      rw [failed] at held'
      exact held'

theorem createGroup_kept {name : String} {accessMode : GroupAccessMode}
    (sound : ∀ gatewayId, (s.gateways gatewayId).MembersSound) (held : s.Holds prims key token) :
    (s.createGroup encode prims exchange fails gatewayId name accessMode).store.joinToken key = some token := by
  unfold createGroup
  refine enter_kept
    (s := (expectConnected (s.connectSelected prims exchange gatewayId (.create name accessMode))).2) ?_ ?_
  · rw [expectConnected_store, connectSelected_store]
    exact held.1
  · intro session entered same
    have connected := expectConnected_some entered
    unfold connectSelected at connected
    split at connected
    · cases connected
    · simp only at connected
      split at connected
      · cases reply : ((s.gateways gatewayId).selectCreate prims name accessMode exchange.nickname exchange.draw).1 with
        | welcome groupId memberId issuedCredentials issuedMemberToken =>
          rw [reply] at connected
          cases connected
          subst same
          exact absurd held.2 (GatewayStore.selectCreate_fresh (sound _) reply)
        | joinPending =>
          rw [reply] at connected
          cases connected
        | error =>
          rw [reply] at connected
          cases connected
      · cases connected

/-- What a rotation comes to: nothing, or the gateway replaces the token and the client saves it. -/
theorem rotate_cases (encode : CredentialFile → List UInt8) (prims : Primitives) (s : Installation)
    (exchange : Exchange) (fails : SaveStep → Bool) (kind : GroupTokenKind) :
    s.rotate encode prims exchange fails kind = s ∨ ∃ session token store, s.session = some session ∧
      (s.gateways session.gatewayId).rotateGroupToken prims session.groupId session.memberId kind exchange.draw =
        .ok (token, store) ∧
      (s.rotate encode prims exchange fails kind).gateways = Function.update s.gateways session.gatewayId store ∧
      (s.rotate encode prims exchange fails kind).store = if exchange.replied = true then
        ((s.store.persistRotatedToken encode fails session kind token).map Prod.snd).getD s.store else s.store := by
  unfold rotate
  split
  · exact .inl rfl
  · rename_i session opened
    split
    · exact .inl rfl
    · rename_i token store rotated
      refine .inr ⟨session, token, store, opened, rotated, ?_⟩
      extract_lets s'
      cases replied : exchange.replied with
      | false => exact ⟨rfl, rfl⟩
      | true =>
        have same : s'.store = s.store := rfl
        simp only [Bool.not_true, Bool.false_eq_true, if_false, if_true]
        rw [← same]
        split <;> rename_i saved <;> rw [saved] <;> exact ⟨rfl, rfl⟩

/-! ### A run -/

/-- Nothing that an administrator needs is lost at the gateways, the saved records stay well keyed,
and the file is replaced by what is in the memory, if it is. -/
structure Extends (encode : CredentialFile → List UInt8) (prims : Primitives) (s s' : Installation) : Prop where
  gateways : ∀ gatewayId, GatewayStore.Quiet prims (s.gateways gatewayId) (s'.gateways gatewayId)
  records : s.store.records.WellKeyed → s'.store.records.WellKeyed
  file : s.store.Saves encode s'.store

theorem Extends.refl : Extends encode prims s s := ⟨fun _ => .refl, id, .inl rfl⟩

theorem connectSelected_extends (selection : GroupSelection) :
    Extends encode prims s (s.connectSelected prims exchange gatewayId selection).2 := by
  refine ⟨fun other => ?_, by rw [connectSelected_store]; exact id, by rw [connectSelected_store]; exact .inl rfl⟩
  unfold connectSelected
  split
  · exact .refl
  · by_cases same : other = gatewayId
    · subst same
      simp only [Function.update_self]
      cases selection with
      | join => exact GatewayStore.joinGroup_quiet
      | create => exact GatewayStore.selectCreate_quiet
    · simp only [Function.update_of_ne same]
      exact .refl

theorem expectConnected_extends {result : Option JoinOutcome × Installation}
    (extended : Extends encode prims s result.2) : Extends encode prims s (expectConnected result).2 := by
  unfold expectConnected
  split <;> exact extended

theorem joinGroupWithCredential_extends :
    Extends encode prims s (s.joinGroupWithCredential prims exchange gatewayId groupId credential).2 := by
  unfold joinGroupWithCredential
  split
  · exact .refl
  · exact connectSelected_extends _

theorem connect_extends : Extends encode prims s (s.connect prims exchange gatewayId).2 := by
  unfold connect
  split
  · exact expectConnected_extends (connectSelected_extends _)
  · exact .refl

/-- What a connection is issued is saved over the memory the command began with. -/
theorem Extends.enter (extended : Extends encode prims s s') (unchanged : s'.store = s.store)
    (supplied : Option String) {entered : Option SessionInfo}
    (single : ∀ session, entered = some session →
      session.issuedCredentials = none ∨ session.issuedMemberToken = none) :
    Extends encode prims s (s'.enter encode fails supplied entered) := by
  unfold Installation.enter
  cases entered with
  | none => exact ⟨extended.gateways, extended.records, extended.file⟩
  | some session =>
    have keyed : s'.store.records.WellKeyed →
        (s'.store.persistConnectionCredentials encode fails session supplied).2.records.WellKeyed :=
      CredentialStore.persist_wellKeyed
    have saves := @CredentialStore.persist_saves encode fails s'.store session supplied (single session rfl)
    simp only
    split <;>
    · rename_i store saved
      rw [saved] at keyed saves
      rw [unchanged] at saves
      exact ⟨extended.gateways, fun before => keyed (extended.records before), saves⟩

theorem joinGroup_extends {groupId : Option Uuid} :
    Extends encode prims s (s.joinGroup encode prims exchange fails gatewayId groupId credential) := by
  unfold joinGroup
  split
  · exact ⟨fun _ => .refl, id, .inl rfl⟩
  · rename_i supplied resolved
    cases groupId with
    | some groupId =>
      refine (expectConnected_extends joinGroupWithCredential_extends).enter ?_ supplied fun session entered => ?_
      · rw [expectConnected_store, joinGroupWithCredential_store]
      · exact joinGroupWithCredential_single (expectConnected_some entered)
    | none =>
      simp only [connectToSelectedGroup]
      split
      · exact Extends.refl.enter rfl supplied nofun
      · exact connect_extends.enter connect_store supplied fun session entered => connect_single entered

theorem lobbyJoin_extends {selectedGateway groupId : Option Uuid} :
    Extends encode prims s
      (s.lobbyJoin encode prims exchange fails gatewayId selectedGateway groupId credential) := by
  unfold lobbyJoin
  extract_lets supplied
  cases groupId with
  | none => exact connect_extends.enter connect_store supplied fun session entered => connect_single entered
  | some groupId =>
    have extended := @joinGroupWithCredential_extends encode prims s exchange gatewayId groupId supplied
    have unchanged := @joinGroupWithCredential_store prims s exchange gatewayId groupId supplied
    have single := @joinGroupWithCredential_single prims s exchange gatewayId groupId supplied
    simp only
    split
    · rename_i session s' entered
      rw [entered] at extended unchanged single
      refine extended.enter unchanged supplied fun session' connected => ?_
      cases connected
      exact single rfl
    · rename_i s' waiting
      rw [waiting] at extended unchanged
      refine ⟨extended.gateways, fun before => CredentialStore.set_wellKeyed (extended.records before), ?_⟩
      rw [← unchanged]
      exact CredentialStore.set_saves
    · rename_i s' failed
      rw [failed] at extended
      exact ⟨extended.gateways, extended.records, extended.file⟩

theorem createGroup_extends {name : String} {accessMode : GroupAccessMode} :
    Extends encode prims s (s.createGroup encode prims exchange fails gatewayId name accessMode) := by
  refine (expectConnected_extends (connectSelected_extends _)).enter ?_ none fun session entered => ?_
  · rw [expectConnected_store, connectSelected_store]
  · exact .inr (connectSelected_created (expectConnected_some entered))

theorem Consistent.extends (consistent : s.Consistent) (extended : Extends encode prims s s') : s'.Consistent where
  records := extended.records consistent.records
  gateways gatewayId := (extended.gateways gatewayId).sound (consistent.gateways gatewayId)

/-- A gateway whose store is replaced by a sound one. -/
theorem Consistent.update (consistent : s.Consistent) {store : GatewayStore} (sound : store.MembersSound)
    (other : Uuid) : (Function.update s.gateways gatewayId store other).MembersSound := by
  rw [Function.update_apply]
  split
  · exact sound
  · exact consistent.gateways other

theorem rotateGroupToken_sound {store after : GatewayStore} {g actor : Uuid} {kind : GroupTokenKind} {draw : Draw}
    (sound : store.MembersSound) (rotated : store.rotateGroupToken prims g actor kind draw = .ok (token, after)) :
    after.MembersSound := by
  have performed := sound.perform prims (.rotateGroupToken g actor kind draw)
  rwa [GatewayStore.perform, rotated] at performed

theorem Consistent.perform (consistent : s.Consistent) (event : Event) : (s.perform encode prims event).Consistent := by
  obtain ⟨command, exchange, fails⟩ := event
  cases command with
  | host => exact consistent.extends createGroup_extends
  | create gatewayId name accessMode =>
    have created := consistent.extends (@createGroup_extends encode prims s exchange fails gatewayId name accessMode)
    exact ⟨created.records, created.gateways⟩
  | join => exact consistent.extends joinGroup_extends
  | send gatewayId groupId credential =>
    have entered := consistent.extends (@joinGroup_extends encode prims s exchange fails gatewayId credential groupId)
    exact ⟨entered.records, entered.gateways⟩
  | interactive => exact ⟨consistent.records, consistent.gateways⟩
  | lobbyJoin => exact consistent.extends lobbyJoin_extends
  | lobbyCreate gatewayId name accessMode =>
    have created := consistent.extends (@createGroup_extends encode prims s exchange fails gatewayId name accessMode)
    exact ⟨created.records, created.gateways⟩
  | rotate kind =>
    change (s.rotate encode prims exchange fails kind).Consistent
    obtain same | ⟨session, token, store, opened, rotated, gateways, saved⟩ :=
      rotate_cases encode prims s exchange fails kind
    · rw [same]
      exact consistent
    · constructor
      · rw [saved]
        split
        · cases done : s.store.persistRotatedToken encode fails session kind token with
          | none => exact consistent.records
          | some after => exact CredentialStore.persistRotated_wellKeyed consistent.records done
        · exact consistent.records
      · intro other
        rw [gateways]
        exact consistent.update (rotateGroupToken_sound (consistent.gateways _) rotated) other
  | setCredential => exact ⟨CredentialStore.set_wellKeyed consistent.records, consistent.gateways⟩
  | removeCredential | forgetCredential =>
    exact ⟨CredentialStore.remove_wellKeyed consistent.records, consistent.gateways⟩
  | elsewhere gatewayId op =>
    exact ⟨consistent.records, consistent.update ((consistent.gateways gatewayId).perform prims op)⟩

/-- A command leaves the file as it was, or with what is in the memory after it. -/
theorem perform_saves (event : Event) : s.store.Saves encode (s.perform encode prims event).store := by
  obtain ⟨command, exchange, fails⟩ := event
  cases command with
  | host | create | lobbyCreate => exact createGroup_extends.file
  | join | send => exact joinGroup_extends.file
  | lobbyJoin => exact lobbyJoin_extends.file
  | setCredential => exact CredentialStore.set_saves
  | removeCredential | forgetCredential => exact CredentialStore.remove_saves
  | interactive | elsewhere => exact .inl rfl
  | rotate kind =>
    change s.store.Saves encode (s.rotate encode prims exchange fails kind).store
    obtain same | ⟨session, token, store, opened, rotated, gateways, saved⟩ :=
      rotate_cases encode prims s exchange fails kind
    · rw [same]
      exact .inl rfl
    · rw [saved]
      split
      · cases done : s.store.persistRotatedToken encode fails session kind token with
        | none => exact .inl rfl
        | some after => exact CredentialStore.persistRotated_saves done
      · exact .inl rfl

theorem Holds.extends (held : s.Holds prims key token) (extended : Extends encode prims s s')
    (kept : s'.store.joinToken key = some token) : s'.Holds prims key token :=
  ⟨kept, (extended.gateways key.gatewayId).administers held.2⟩

/-- The file has what is in the memory. -/
def InFile (encode : CredentialFile → List UInt8) (s : Installation) : Prop :=
  s.store.file = some (encode s.store.records.toFile)

/-- A rotation in a careful administrator's client. -/
theorem rotate_holds {kind : GroupTokenKind} (consistent : s.Consistent) (held : s.Holds prims key token)
    (spared : exchange.replied = true → kind = .member → ∀ session, s.session = some session →
      session.key = key → ¬ ∃ m ∈ (s.gateways key.gatewayId).groupMembers, m.groupId = key.groupId ∧
        m.memberId = session.memberId ∧ m.status = .active ∧ m.role = .member)
    (arrives : kind = .admin → ∀ session, s.session = some session → session.key = key → exchange.replied = true ∧
      ∀ step, fails step = true → step = .setPermissions ∨ step = .syncDirectory) :
    ∃ token', (s.rotate encode prims exchange fails kind).Holds prims key token' ∧
      (token' = token ∨ (s.rotate encode prims exchange fails kind).InFile encode) := by
  obtain same | ⟨session, replaced, store, opened, rotated, gateways, saved⟩ :=
    rotate_cases encode prims s exchange fails kind
  · rw [same]
    exact ⟨token, held, .inl rfl⟩
  obtain ⟨_, hashed, -, ⟨m, mem, ofGroup, isActor, active, role⟩, -⟩ := GatewayStore.rotateGroupToken_ok rotated
  by_cases own : session.key = key ∧ kind = .admin
  · -- the new token is the administrator's, and it arrives
    obtain ⟨rfl, rfl⟩ := own
    obtain ⟨replied, renames⟩ := arrives rfl session opened rfl
    obtain ⟨record, found, -⟩ := Option.map_eq_some_iff.1 held.1
    cases done : s.store.persistRotatedToken encode fails session .admin replaced with
    | none => simp [CredentialStore.persistRotatedToken, found] at done
    | some after =>
      have valid := (GatewayStore.credentialHash_ok hashed).1
      refine ⟨replaced, ⟨?_, ?_⟩, .inr ?_⟩
      · rw [saved, if_pos replied, done]
        exact CredentialStore.persistRotated_admin consistent.records valid done
      · rw [gateways]
        have now := GatewayStore.administers_rotated rotated
        change (Function.update s.gateways session.gatewayId store session.gatewayId).Administers prims _ _
        rwa [Function.update_self]
      · rw [InFile, saved, if_pos replied, done]
        exact CredentialStore.persistRotated_renamed consistent.records valid renames done
  · -- another token, or one of another group
    refine ⟨token, ⟨?_, ?_⟩, .inl rfl⟩
    · rw [saved]
      split
      · rename_i replied
        cases done : s.store.persistRotatedToken encode fails session kind replaced with
        | none => exact held.1
        | some after =>
          obtain kept | ⟨same, notInvite, -⟩ := CredentialStore.persistRotated_kept held.1 done
          · exact kept
          · cases kind with
            | invite => exact absurd rfl notInvite
            | admin => exact absurd ⟨same, rfl⟩ own
            | member =>
              subst same
              exact absurd ⟨m, mem, ofGroup, isActor, active, role⟩ (spared replied rfl session opened rfl)
      · exact held.1
    · rw [gateways, Function.update_apply]
      split
      · rename_i here
        have performed := held.2.perform (.rotateGroupToken session.groupId session.memberId kind exchange.draw)
        rw [here] at performed
        rw [GatewayStore.perform, rotated] at performed
        refine performed fun same => own ?_
        cases kind with
        | admin =>
          simp only [StoreOp.replacesAdmin, Option.some.injEq] at same
          exact ⟨by rw [SessionInfo.key, same, ← here], rfl⟩
        | _ => cases same
      · exact held.2

/-- **A careful administrator keeps the token** over one event; a new one is in the file at once. -/
theorem perform_holds {event : Event} (consistent : s.Consistent) (spares : Spares prims key s event)
    (held : s.Holds prims key token) : ∃ token', (s.perform encode prims event).Holds prims key token' ∧
      (token' = token ∨ (s.perform encode prims event).InFile encode) := by
  obtain ⟨spared, explicit, careful⟩ := spares
  obtain ⟨command, exchange, fails⟩ := event
  cases command with
  | host gatewayId name accessMode =>
    exact ⟨token, held.extends createGroup_extends (createGroup_kept consistent.gateways held), .inl rfl⟩
  | create gatewayId name accessMode | lobbyCreate gatewayId name accessMode =>
    have kept := held.extends createGroup_extends
      (@createGroup_kept encode prims s exchange fails gatewayId key token name accessMode consistent.gateways held)
    exact ⟨token, ⟨kept.1, kept.2⟩, .inl rfl⟩
  | join gatewayId groupId credential =>
    refine ⟨token, held.extends joinGroup_extends (joinGroup_kept (.inl rfl) held.1 ?_), .inl rfl⟩
    intro replied reached presented asks admits
    exact spared ⟨replied, reached, presented, asks, .inl admits⟩
  | send gatewayId groupId credential =>
    have kept := @joinGroup_kept encode prims s exchange fails gatewayId credential key token groupId _ (.inr rfl)
      held.1 fun replied reached presented asks admits => spared ⟨replied, reached, presented, asks, .inl admits⟩
    have entered := held.extends joinGroup_extends kept
    exact ⟨token, ⟨entered.1, entered.2⟩, .inl rfl⟩
  | interactive => exact ⟨token, ⟨held.1, held.2⟩, .inl rfl⟩
  | lobbyJoin gatewayId selectedGateway groupId credential =>
    refine ⟨token, held.extends lobbyJoin_extends (lobbyJoin_kept held.1 ?_), .inl rfl⟩
    intro replied reached presented asks issued
    refine spared ⟨replied, reached, presented, asks, issued.imp_right ?_⟩
    rintro ⟨selected, waits⟩
    cases groupId with
    | none => cases selected
    | some => exact ⟨rfl, waits⟩
  | rotate kind =>
    refine rotate_holds consistent held ?_ ?_
    · intro replied member session opened same found
      exact spared ⟨replied, member, session, opened, same, found⟩
    · rintro rfl
      exact careful
  | setCredential other given inviteToken =>
    refine ⟨token, ⟨(CredentialStore.set_other fun same => ?_).trans held.1, held.2⟩, .inl rfl⟩
    exact explicit (congrArg some same)
  | removeCredential other | forgetCredential other =>
    refine ⟨token, ⟨(CredentialStore.remove_other fun same => ?_).trans held.1, held.2⟩, .inl rfl⟩
    exact explicit (congrArg some same)
  | elsewhere gatewayId op =>
    refine ⟨token, ⟨held.1, ?_⟩, .inl rfl⟩
    change (Function.update s.gateways gatewayId _ key.gatewayId).Administers prims key.groupId token
    rw [Function.update_apply]
    split
    · rename_i here
      have stays := held.2.perform op (careful here.symm)
      rwa [here] at stays
    · exact held.2

end Installation

end LanChat
