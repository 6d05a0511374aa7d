import LanChat.Client.CredentialStore
import LanChat.Storage.Operations
import Mathlib.Logic.Function.Basic

/-!
# Entering a group

The commands of `main.rs` that enter a group, with the part of `client.rs` that
connects and what is kept of the reply in the credential store. A client and the
gateways it can reach are one state. A gateway is its store here, and what anybody
else does at it is an operation of that store.

Every command line is a process of its own, which opens the credential file and
ends with its memory. The lobby and an open chat go on in one process. The client
runs one process at a time.
-/

namespace LanChat

/-- What a client keeps of the reply to its selection of a group. After an `error`
the connection is over. -/
inductive SelectionReply where
  | welcome (groupId memberId : Uuid) (issuedCredentials : Option IssuedGroupCredentials)
      (issuedMemberToken : Option String)
  | joinPending (groupId requestId : Uuid) (requestToken : String)
  | error
deriving DecidableEq, Repr

/-! ## The gateway -/

namespace GatewayStore

variable (prims : Primitives) (store : GatewayStore)

/-- The `JoinGroup` arm of `handle_client`. A group that is not there fails in `authorize_join`. -/
def joinGroup (groupId : Uuid) (credential : Option String) (nickname : String) (draw requestDraw : Draw) :
    SelectionReply × GatewayStore :=
  if credential.any fun token => !isValidGroupCredential token then (.error, store)
  else match store.authorizeJoin prims groupId credential nickname draw with
    | .error _ => (.error, store)
    | .ok (.allowed _ memberId issuedMemberToken, store) =>
      (.welcome groupId memberId none issuedMemberToken, store)
    | .ok (.approvalRequired, store) =>
      match store.createJoinRequest prims groupId nickname requestDraw with
      | .ok ((requestId, requestToken), store) => (.joinPending groupId requestId requestToken, store)
      | .error _ => (.error, store)
    | .ok (.pending requestId requestToken, store) => (.joinPending groupId requestId requestToken, store)
    | .ok (_, store) => (.error, store)

/-- The `CreateGroup` arm of `handle_client`. -/
def selectCreate (name : String) (accessMode : GroupAccessMode) (nickname : String) (draw : Draw) :
    SelectionReply × GatewayStore :=
  match sanitizeGroupName name with
  | .error _ => (.error, store)
  | .ok name => match store.createGroupWithAccess prims name accessMode draw with
    | .error _ => (.error, store)
    | .ok (created, store) =>
      match store.updateMemberNickname created.summary.groupId created.creatorMemberId nickname with
      | .error _ => (.error, store)
      | .ok store =>
        (.welcome created.summary.groupId created.creatorMemberId (some created.credentials) none, store)

end GatewayStore

/-! ## The client -/

/-- What a connection knows of its session. The member is not told; it is the one the
gateway serves the connection as. -/
structure SessionInfo where
  gatewayId : Uuid
  groupId : Uuid
  memberId : Uuid
  issuedCredentials : Option IssuedGroupCredentials
  issuedMemberToken : Option String
deriving DecidableEq, Repr

def SessionInfo.key (session : SessionInfo) : GroupKey := ⟨session.gatewayId, session.groupId⟩

inductive JoinOutcome where
  | connected (session : SessionInfo)
  | pending (gatewayId groupId requestId : Uuid) (requestToken : String)
deriving DecidableEq, Repr

/-- How the connections of a command go: the gateway that is inspected first, if one
answers, whether the selection reaches the gateway, and whether its reply reaches the
client, which accepts it. -/
structure Exchange where
  nickname : String
  inspected : Option Uuid
  reached : Bool
  replied : Bool
  draw : Draw
  requestDraw : Draw

/-- A client and the gateways, with the session that is open in its process, and whether that
process has a lobby. -/
structure Installation where
  store : CredentialStore
  gateways : Uuid → GatewayStore
  session : Option SessionInfo
  lobby : Bool

inductive GroupSelection where
  | join (groupId : Uuid) (credential : Option String)
  | create (name : String) (accessMode : GroupAccessMode)
deriving DecidableEq, Repr

namespace CredentialStore

variable (encode : CredentialFile → List UInt8) (fails : SaveStep → Bool) (store : CredentialStore)

/-- `get(..)`, of which the token that is presented. -/
def joinToken (key : GroupKey) : Option String := store.records[key]?.map (·.joinToken)

/-- `persist_connection_credentials` -/
def persistConnectionCredentials (session : SessionInfo) (supplied : Option String) :
    Except CredentialError Unit × CredentialStore :=
  let saved := match session.issuedCredentials with
    | some issued =>
      store.set encode fails session.gatewayId session.groupId issued.adminToken issued.inviteToken
    | none => (.ok (), store)
  match saved with
  | (.error error, store) => (.error error, store)
  | (.ok (), store) => match session.issuedMemberToken with
    | some memberToken =>
      let inviteToken := store.records[session.key]?.bind (·.inviteToken)
      store.set encode fails session.gatewayId session.groupId memberToken inviteToken
    | none => match session.issuedCredentials, supplied, store.records[session.key]? with
      | none, some supplied, none => store.set encode fails session.gatewayId session.groupId supplied none
      | _, _, _ => (.ok (), store)

/-- `persist_rotated_token`, `none` without a record to change. -/
def persistRotatedToken (session : SessionInfo) (kind : GroupTokenKind) (token : String) :
    Option (Except CredentialError Unit × CredentialStore) :=
  store.records[session.key]?.map fun existing =>
    let (joinToken, inviteToken) := match kind with
      | .member | .admin => (token, existing.inviteToken)
      | .invite => (existing.joinToken, some token)
    store.set encode fails session.gatewayId session.groupId joinToken inviteToken

end CredentialStore

namespace Installation

section
variable (prims : Primitives) (s : Installation) (exchange : Exchange)

/-- `connect_selected`, up to the reply to the selection. -/
def connectSelected (gatewayId : Uuid) (selection : GroupSelection) : Option JoinOutcome × Installation :=
  if !exchange.reached then (none, s)
  else
    let (reply, store) := match selection with
      | .join groupId credential => (s.gateways gatewayId).joinGroup prims groupId credential
          exchange.nickname exchange.draw exchange.requestDraw
      | .create name accessMode =>
        (s.gateways gatewayId).selectCreate prims name accessMode exchange.nickname exchange.draw
    let outcome := match reply with
      | .welcome groupId memberId issuedCredentials issuedMemberToken =>
        some (.connected { gatewayId, groupId, memberId, issuedCredentials, issuedMemberToken })
      | .joinPending groupId requestId requestToken =>
        some (.pending gatewayId groupId requestId requestToken)
      | .error => none
    (if exchange.replied then outcome else none,
      { s with gateways := Function.update s.gateways gatewayId store })

/-- `join_group_with_credential` -/
def joinGroupWithCredential (gatewayId groupId : Uuid) (credential : Option String) :
    Option JoinOutcome × Installation :=
  if credential.any fun token => !isValidGroupCredential token then (none, s)
  else s.connectSelected prims exchange gatewayId (.join groupId credential)

/-- An outcome that has to be a connection. -/
def expectConnected : Option JoinOutcome × Installation → Option SessionInfo × Installation
  | (some (.connected session), s) => (some session, s)
  | (_, s) => (none, s)

/-- The group a gateway is entered at without an id. -/
def onlyGroup (gatewayId : Uuid) : Option Uuid :=
  match (s.gateways gatewayId).listGroups with
  | [group] => some group.groupId
  | _ => none

/-- `connect` -/
def connect (gatewayId : Uuid) : Option SessionInfo × Installation :=
  match s.onlyGroup gatewayId with
  | some groupId => expectConnected (s.connectSelected prims exchange gatewayId (.join groupId none))
  | none => (none, s)

/-- `connect_to_selected_group` -/
def connectToSelectedGroup (gatewayId : Uuid) (groupId : Option Uuid) (credential : Option String) :
    Option SessionInfo × Installation :=
  match groupId with
  | some groupId => expectConnected (s.joinGroupWithCredential prims exchange gatewayId groupId credential)
  | none => if credential.isSome then (none, s) else s.connect prims exchange gatewayId

/-- `resolve_saved_credential`, `none` if no gateway answers the inspection. -/
def resolveSavedCredential (groupId : Option Uuid) (provided : Option String) : Option (Option String) :=
  match provided, groupId with
  | none, some groupId => exchange.inspected.map fun gatewayId => s.store.joinToken ⟨gatewayId, groupId⟩
  | _, _ => some provided

end

/-- The command lines that touch the credentials, the actions of the lobby (`lobbyJoin` has the
gateway the address leads to and the group that was selected, if one was), a rotation in the chat,
and what happens at a gateway besides. -/
inductive Command where
  | host (gatewayId : Uuid) (name : String) (accessMode : GroupAccessMode)
  | create (gatewayId : Uuid) (name : String) (accessMode : GroupAccessMode)
  | join (gatewayId : Uuid) (groupId : Option Uuid) (credential : Option String)
  | send (gatewayId : Uuid) (groupId : Option Uuid) (credential : Option String)
  | setCredential (key : GroupKey) (token : String) (inviteToken : Option String)
  | removeCredential (key : GroupKey)
  | interactive
  | lobbyJoin (gatewayId : Uuid) (selectedGateway groupId : Option Uuid) (credential : Option String)
  | lobbyCreate (gatewayId : Uuid) (name : String) (accessMode : GroupAccessMode)
  | forgetCredential (key : GroupKey)
  | rotate (kind : GroupTokenKind)
  | elsewhere (gatewayId : Uuid) (op : StoreOp)

/-- A command line, which starts a process. -/
def Command.starts : Command → Bool
  | host _ _ _ | create _ _ _ | join _ _ _ | send _ _ _ | setCredential _ _ _ | removeCredential _
  | interactive => true
  | lobbyJoin _ _ _ _ | lobbyCreate _ _ _ | forgetCredential _ | rotate _ | elsewhere _ _ => false

/-- An action of the lobby. -/
def Command.inLobby : Command → Bool
  | lobbyJoin _ _ _ _ | lobbyCreate _ _ _ | forgetCredential _ => true
  | _ => false

/-- A command, how its connections go, and which steps of a save fail. -/
structure Event where
  command : Command
  exchange : Exchange
  fails : SaveStep → Bool

section
variable (encode : CredentialFile → List UInt8) (decode : List UInt8 → Option CredentialFile)
  (prims : Primitives) (s : Installation) (exchange : Exchange) (fails : SaveStep → Bool)

/-- The credentials of a new connection are saved before its chat opens. -/
def enter (supplied : Option String) : Option SessionInfo → Installation
  | none => { s with session := none }
  | some session =>
    match s.store.persistConnectionCredentials encode fails session supplied with
    | (.ok (), store) => { s with store, session := some session }
    | (.error _, store) => { s with store, session := none }

/-- The `Join` and the `Send` of the command line. -/
def joinGroup (gatewayId : Uuid) (groupId : Option Uuid) (credential : Option String) : Installation :=
  match s.resolveSavedCredential exchange groupId credential with
  | none => { s with session := none }
  | some supplied =>
    let (session, s) := s.connectToSelectedGroup prims exchange gatewayId groupId supplied
    s.enter encode fails supplied session

/-- What the lobby presents: the credential that is typed in, or the saved one of the selected group. -/
def lobbyCredential (selectedGateway groupId : Option Uuid) (credential : Option String) : Option String :=
  let stored := match selectedGateway, groupId with
    | some gatewayId, some groupId => s.store.joinToken ⟨gatewayId, groupId⟩
    | _, _ => none
  credential.or stored

/-- `LobbyAction::Join` -/
def lobbyJoin (gatewayId : Uuid) (selectedGateway groupId : Option Uuid) (credential : Option String) :
    Installation :=
  let supplied := s.lobbyCredential selectedGateway groupId credential
  match groupId with
  | none =>
    let (session, s) := s.connect prims exchange gatewayId
    s.enter encode fails supplied session
  | some groupId => match s.joinGroupWithCredential prims exchange gatewayId groupId supplied with
    | (some (.connected session), s) => s.enter encode fails supplied (some session)
    | (some (.pending gatewayId groupId _ requestToken), s) =>
      let saved := s.store.set encode fails gatewayId groupId requestToken none
      { s with store := saved.2, session := none, lobby := saved.1.isOk }
    | (none, s) => { s with session := none }

/-- `create_group_with_access`, with its credentials saved. -/
def createGroup (gatewayId : Uuid) (name : String) (accessMode : GroupAccessMode) : Installation :=
  let (session, s) := expectConnected (s.connectSelected prims exchange gatewayId (.create name accessMode))
  s.enter encode fails none session

/-- `LobbyAction::Create`. The process ends when the new group's credentials cannot be saved. -/
def lobbyCreate (gatewayId : Uuid) (name : String) (accessMode : GroupAccessMode) : Installation :=
  let connected := (expectConnected (s.connectSelected prims exchange gatewayId (.create name accessMode))).1
  let entered := s.createGroup encode prims exchange fails gatewayId name accessMode
  { entered with lobby := connected.isNone || entered.session.isSome }

/-- `LobbyAction::ForgetCredential` -/
def forgetCredential (key : GroupKey) : Installation :=
  let removed := s.store.remove encode fails key.gatewayId key.groupId
  { s with store := removed.2, session := none, lobby := removed.1.isOk }

/-- A rotation in the open session: the gateway changes the token, and the client saves the
new one when the reply reaches it. -/
def rotate (kind : GroupTokenKind) : Installation :=
  match s.session with
  | none => s
  | some session =>
    match (s.gateways session.gatewayId).rotateGroupToken prims session.groupId session.memberId kind
      exchange.draw with
    | .error _ => s
    | .ok (token, store) =>
      let s := { s with gateways := Function.update s.gateways session.gatewayId store }
      if !exchange.replied then s
      else match s.store.persistRotatedToken encode fails session kind token with
        | some (.ok (), store) => { s with store }
        | some (.error _, store) => { s with store, session := none }
        | none => { s with session := none }

/-- What a command does in its process. -/
def perform (event : Event) : Installation :=
  match event.command with
  | .host gatewayId name accessMode =>
    s.createGroup encode prims event.exchange event.fails gatewayId name accessMode
  | .create gatewayId name accessMode =>
    { s.createGroup encode prims event.exchange event.fails gatewayId name accessMode with session := none }
  | .join gatewayId groupId credential =>
    s.joinGroup encode prims event.exchange event.fails gatewayId groupId credential
  | .send gatewayId groupId credential =>
    { s.joinGroup encode prims event.exchange event.fails gatewayId groupId credential with session := none }
  | .setCredential key token inviteToken =>
    { s with store := (s.store.set encode event.fails key.gatewayId key.groupId token inviteToken).2 }
  | .removeCredential key => { s with store := (s.store.remove encode event.fails key.gatewayId key.groupId).2 }
  | .interactive => { s with lobby := true }
  | .lobbyJoin gatewayId selectedGateway groupId credential =>
    s.lobbyJoin encode prims event.exchange event.fails gatewayId selectedGateway groupId credential
  | .lobbyCreate gatewayId name accessMode =>
    s.lobbyCreate encode prims event.exchange event.fails gatewayId name accessMode
  | .forgetCredential key => s.forgetCredential encode event.fails key
  | .rotate kind => s.rotate encode prims event.exchange event.fails kind
  | .elsewhere gatewayId op =>
    { s with gateways := Function.update s.gateways gatewayId ((s.gateways gatewayId).perform prims op).2 }

/-- `CredentialStore::open_default` in a new process. -/
def openDefault : Option Installation :=
  match CredentialStore.openAt decode s.store.file with
  | .ok store => some { s with store, session := none, lobby := false }
  | .error _ => none

/-- The process a command runs in, `none` if there is no such process. -/
def process (command : Command) : Option Installation :=
  if command.starts then s.openDefault decode
  else if command.inLobby && !s.lobby then none
  else some s

def step (event : Event) : Option Installation :=
  (s.process decode event.command).map fun s => s.perform encode prims event

end

end Installation

end LanChat
