import LanChat.Base.Transition
import LanChat.Client.KeyEffects

/-!
# The lobby

`LobbyApp` of `tui.rs`: the list of groups found on the network, and the dialogs
over it. Two dialogs keep the row of the group they are for. A discovery result
replaces the list and leaves the dialog as it is, so the row can come to stand
for another group or for none. As long as no result does that, a dialog acts on
the group that was selected when it was opened.
-/

namespace LanChat

open Transition

inductive LobbyAction where
  | quit
  | join (endpoint : SocketAddr) (fingerprint : Option String) (gatewayId groupId : Option Uuid)
      (credential : Option String)
  | create (groupName : String) (accessMode : GroupAccessMode) (endpoint : SocketAddr)
      (fingerprint : String)
  | setNickname (nickname : String)
  | forgetCredential (gatewayId groupId : Uuid)
deriving DecidableEq, Repr

/-- What the lobby uses of a beacon. -/
structure DiscoveredGateway where
  endpoint : SocketAddr
  serverFingerprint : String
deriving DecidableEq, Repr

structure LobbyGroup where
  gatewayId : Uuid
  groupId : Uuid
  groupName : String
  accessMode : GroupAccessMode
  gatewayName : String
  endpoint : SocketAddr
  serverFingerprint : String
deriving DecidableEq, Repr

structure LobbyDiscovery where
  gateways : List DiscoveredGateway
  groups : List LobbyGroup
deriving DecidableEq, Repr

inductive LobbyInputKind where
  | createGroup
  | directJoin
  | nickname
deriving DecidableEq, Repr

inductive LobbyMode where
  | browse
  | input (kind : LobbyInputKind) (value : String)
  | chooseAccess (groupName : String) (endpoint : SocketAddr) (fingerprint : String) (selected : ℕ)
  | inviteToken (groupIndex : ℕ) (value : String)
  | confirmForget (groupIndex : ℕ)
deriving DecidableEq, Repr

def accessModes : List GroupAccessMode := [.isPublic, .invite, .approval]

structure LobbyApp where
  nickname : String
  gateways : List DiscoveredGateway
  groups : List LobbyGroup
  selected : ℕ
  mode : LobbyMode
  status : String
  refreshing : Bool
  refreshRequested : Bool
  knownCredentials : List (Uuid × Uuid)
deriving DecidableEq, Repr

def lobbyInputBytes : ℕ := 128

def isTokenChar (ch : Char) : Bool := isAsciiAlphanumeric ch || ch == '_'

namespace LobbyApp

def new (nickname : String) (initialStatus : Option String) (knownCredentials : List (Uuid × Uuid)) :
    LobbyApp :=
  { nickname, gateways := [], groups := [], selected := 0, mode := .browse
    status := initialStatus.getD "正在搜索局域网群组…", refreshing := false, refreshRequested := false
    knownCredentials }

variable (app : LobbyApp)

def setDiscovery (discovery : LobbyDiscovery) : LobbyApp :=
  { app with
    gateways := discovery.gateways, groups := discovery.groups
    selected := min app.selected (discovery.groups.length - 1)
    status :=
      if discovery.groups.isEmpty then
        if discovery.gateways.isEmpty then "未发现网关，请先在局域网内启动网关"
        else s!"已连接 {discovery.gateways.length} 个网关，按 C 创建第一个群组"
      else s!"已发现 {discovery.groups.length} 个群组" }

/-! ## Keys

The result is `none` where an index is out of range, which ends the program.
`parse` reads a socket address. -/

/-- A key that asks for nothing. -/
def stay : Option (LobbyApp × Option LobbyAction) := some (app, none)

def act (action : LobbyAction) : Option (LobbyApp × Option LobbyAction) := some (app, some action)

def notify (status : String) : Option (LobbyApp × Option LobbyAction) := some ({ app with status }, none)

def setMode (mode : LobbyMode) : Option (LobbyApp × Option LobbyAction) := some ({ app with mode }, none)

def cancel (status : String) : Option (LobbyApp × Option LobbyAction) :=
  some ({ app with mode := .browse, status }, none)

def knows (group : LobbyGroup) : Bool := (group.gatewayId, group.groupId) ∈ app.knownCredentials

def handleBrowseKey (key : KeyEvent) : Option (LobbyApp × Option LobbyAction) :=
  match key.code with
  | .esc | .char 'q' => app.act .quit
  | .up | .char 'k' => ({ app with selected := app.selected - 1 } : LobbyApp).stay
  | .down => ({ app with selected := min (app.selected + 1) (app.groups.length - 1) } : LobbyApp).stay
  | .enter =>
    if app.groups.isEmpty then app.stay
    else do
      let group ← app.groups[app.selected]?
      if group.accessMode = .invite && !app.knows group then
        some ({ app with mode := .inviteToken app.selected "", status := "请粘贴群组邀请令牌" }, none)
      else app.act (.join group.endpoint (some group.serverFingerprint) (some group.gatewayId)
        (some group.groupId) none)
  | .char 'c' | .char 'C' =>
    if app.gateways.isEmpty then app.notify "未发现可用网关，请先启动网关"
    else app.setMode (.input .createGroup "")
  | .char 'j' | .char 'J' => app.setMode (.input .directJoin "")
  | .char 'n' | .char 'N' => app.setMode (.input .nickname app.nickname)
  | .char 'r' | .char 'R' => ({ app with refreshRequested := true } : LobbyApp).stay
  | .char 'x' | .char 'X' =>
    if app.groups.isEmpty then app.stay
    else do
      let group ← app.groups[app.selected]?
      if app.knows group then
        some ({ app with
          mode := .confirmForget app.selected, status := "删除本机凭据后，下次加入需重新验证" }, none)
      else app.notify "本机没有保存该群组的凭据"
  | _ => app.stay

/-- The gateway a new group is created on: that of the selected group, or the first found. -/
def creationGateway : Option (SocketAddr × String) :=
  ((app.groups[app.selected]?).map fun group => (group.endpoint, group.serverFingerprint)).or
    (app.gateways.head?.map fun gateway => (gateway.endpoint, gateway.serverFingerprint))

def confirmInput (parse : String → Option SocketAddr) (value : String) :
    LobbyInputKind → Option (LobbyApp × Option LobbyAction)
  | .createGroup => match sanitizeGroupName value with
    | .error _ => app.notify "群组名称无效，请输入 1–64 个字符"
    | .ok groupName => match app.creationGateway with
      | none => app.notify "未发现可用网关"
      | some (endpoint, fingerprint) => some
          ({ app with
            mode := .chooseAccess groupName endpoint fingerprint 0, status := "选择群组的加入方式" }, none)
  | .directJoin => match parse value with
    | some endpoint => app.act (.join endpoint none none none none)
    | none => app.notify "请输入类似 192.168.1.20:7373 的网关地址"
  | .nickname => match sanitizeNickname value with
    | .ok nickname => app.act (.setNickname nickname)
    | .error _ => app.notify "昵称无效，请输入 1–32 个字符"

def handleInputKey (parse : String → Option SocketAddr) (key : KeyEvent) (kind : LobbyInputKind)
    (value : String) : Option (LobbyApp × Option LobbyAction) :=
  match key.code with
  | .esc => app.cancel "已取消"
  | .backspace => app.setMode (.input kind (popChar value))
  | .enter => app.confirmInput parse value kind
  | .char ch => match typed key value lobbyInputBytes ch with
    | some value => app.setMode (.input kind value)
    | none => app.stay
  | _ => app.stay

def handleChooseAccessKey (key : KeyEvent) (groupName : String) (endpoint : SocketAddr)
    (fingerprint : String) (selected : ℕ) : Option (LobbyApp × Option LobbyAction) :=
  let choose (selected : ℕ) : Option (LobbyApp × Option LobbyAction) :=
    app.setMode (.chooseAccess groupName endpoint fingerprint selected)
  match key.code with
  | .esc => app.cancel "已取消"
  | .up | .char 'k' => choose (selected - 1)
  | .down | .char 'j' => choose (min (selected + 1) (accessModes.length - 1))
  | .char '1' => choose 0
  | .char '2' => choose 1
  | .char '3' => choose 2
  | .enter => do
    let accessMode ← accessModes[selected]?
    app.act (.create groupName accessMode endpoint fingerprint)
  | _ => app.stay

def handleInviteTokenKey (key : KeyEvent) (groupIndex : ℕ) (value : String) :
    Option (LobbyApp × Option LobbyAction) :=
  match key.code with
  | .esc => app.cancel "已取消"
  | .backspace => app.setMode (.inviteToken groupIndex (popChar value))
  | .enter => match sanitizeGroupCredential value with
    | .ok credential => do
      let group ← app.groups[groupIndex]?
      app.act (.join group.endpoint (some group.serverFingerprint) (some group.gatewayId)
        (some group.groupId) (some credential))
    | .error _ => app.notify "邀请令牌格式无效"
  | .char ch =>
    if !key.control && isTokenChar ch && value.utf8ByteSize + ch.utf8Size ≤ lobbyInputBytes then
      app.setMode (.inviteToken groupIndex (value.push ch))
    else app.stay
  | _ => app.stay

def handleConfirmForgetKey (key : KeyEvent) (groupIndex : ℕ) : Option (LobbyApp × Option LobbyAction) :=
  match key.code with
  | .char 'y' | .char 'Y' => do
    let group ← app.groups[groupIndex]?
    app.act (.forgetCredential group.gatewayId group.groupId)
  | .esc | .char 'n' | .char 'N' => app.cancel "已保留本机凭据"
  | _ => app.stay

def handleKey (parse : String → Option SocketAddr) (key : KeyEvent) :
    Option (LobbyApp × Option LobbyAction) :=
  match app.mode with
  | .browse => app.handleBrowseKey key
  | .input kind value => app.handleInputKey parse key kind value
  | .chooseAccess groupName endpoint fingerprint selected =>
    app.handleChooseAccessKey key groupName endpoint fingerprint selected
  | .inviteToken groupIndex value => app.handleInviteTokenKey key groupIndex value
  | .confirmForget groupIndex => app.handleConfirmForgetKey key groupIndex

def paste (raw : String) : LobbyApp :=
  match app.mode with
  | .input kind value =>
    let pasted := (sanitizePasteForInput raw).toList.take (lobbyInputBytes - value.utf8ByteSize)
    { app with mode := .input kind (value ++ String.ofList pasted) }
  | .inviteToken groupIndex value =>
    let pasted := ((trim raw.toList).filter isTokenChar).take (lobbyInputBytes - value.utf8ByteSize)
    { app with mode := .inviteToken groupIndex (value ++ String.ofList pasted) }
  | .browse | .chooseAccess _ _ _ _ | .confirmForget _ => app

/-! ## The loop of `run_lobby` -/

/-- After a key, a refresh that was asked for is started unless one is under way. -/
def startRequested : LobbyApp :=
  if app.refreshRequested then
    let app := { app with refreshRequested := false }
    if app.refreshing then app else { app with refreshing := true, status := "正在刷新附近群组…" }
  else app

def tick : LobbyApp :=
  if app.refreshing then app else { app with refreshing := true, status := "正在刷新附近群组…" }

def discovered : Except String LobbyDiscovery → LobbyApp
  | .ok discovery => ({ app with refreshing := false } : LobbyApp).setDiscovery discovery
  | .error status => { app with refreshing := false, status }

end LobbyApp

/-! ## Dialogs and the groups they are for -/

namespace LobbyMode

/-- The row a dialog keeps. -/
def groupIndex : LobbyMode → Option ℕ
  | .inviteToken index _ | .confirmForget index => some index
  | _ => none

/-- What the dialog takes from a group: all that a join needs, or the ids. -/
def Agree (mode : LobbyMode) (old new : LobbyGroup) : Prop :=
  new.gatewayId = old.gatewayId ∧ new.groupId = old.groupId ∧ match mode with
    | .inviteToken _ _ => new.endpoint = old.endpoint ∧ new.serverFingerprint = old.serverFingerprint
    | _ => True

end LobbyMode

/-- An action that carries a token or deletes a credential is one for the group `target`. -/
def LobbyAction.IsFor (target : Option LobbyGroup) : LobbyAction → Prop
  | .join endpoint fingerprint gatewayId groupId (some _) => ∃ group, target = some group ∧
      endpoint = group.endpoint ∧ fingerprint = some group.serverFingerprint ∧
      gatewayId = some group.gatewayId ∧ groupId = some group.groupId
  | .forgetCredential gatewayId groupId => ∃ group, target = some group ∧
      gatewayId = group.gatewayId ∧ groupId = group.groupId
  | _ => True

/-- The lobby, with the group that was selected when its dialog was opened. -/
structure Lobby where
  app : LobbyApp
  target : Option LobbyGroup
deriving DecidableEq, Repr

inductive LobbyInput where
  | key (event : KeyEvent)
  | paste (raw : String)
  | tick
  | discovered (result : Except String LobbyDiscovery)

namespace Lobby

def start (nickname : String) (initialStatus : Option String) (knownCredentials : List (Uuid × Uuid)) :
    Lobby := ⟨.new nickname initialStatus knownCredentials, none⟩

/-- The target after a key: the selected group when the key has opened a dialog. -/
def targetAfter (w : Lobby) (app : LobbyApp) : Option LobbyGroup :=
  if w.app.mode.groupIndex.isNone && app.mode.groupIndex.isSome then w.app.groups[w.app.selected]?
  else w.target

def step (parse : String → Option SocketAddr) (w : Lobby) : LobbyInput → Option Lobby
  | .key event => do
    let (app, _) ← w.app.handleKey parse event
    some ⟨app.startRequested, w.targetAfter app⟩
  | .paste raw => some { w with app := w.app.paste raw }
  | .tick => some { w with app := w.app.tick }
  | .discovered result => some { w with app := w.app.discovered result }

/-- A discovery result that comes while a dialog is open has the dialog's group in its row. -/
def RowKept (w : Lobby) : LobbyInput → Prop
  | .discovered (.ok discovery) => ∀ index, w.app.mode.groupIndex = some index →
      ∀ old, w.app.groups[index]? = some old →
        ∃ new, discovery.groups[index]? = some new ∧ w.app.mode.Agree old new
  | _ => True

/-- The selection and the rows of the dialogs are in range, and a dialog's row shows the
group it was opened for. -/
structure InRange (w : Lobby) : Prop where
  selected : w.app.groups ≠ [] → w.app.selected < w.app.groups.length
  access : ∀ groupName endpoint fingerprint selected,
    w.app.mode = .chooseAccess groupName endpoint fingerprint selected → selected < accessModes.length
  dialog : ∀ index, w.app.mode.groupIndex = some index → ∃ shown target,
    w.app.groups[index]? = some shown ∧ w.target = some target ∧ w.app.mode.Agree target shown

end Lobby

namespace LobbyMode

variable {mode mode' : LobbyMode} {old new other : LobbyGroup}

theorem Agree.refl : mode.Agree old old := by
  refine ⟨rfl, rfl, ?_⟩
  split <;> simp

theorem Agree.trans (first : mode.Agree old new) (second : mode.Agree new other) : mode.Agree old other := by
  obtain ⟨gateway, group, rest⟩ := first
  obtain ⟨gateway', group', rest'⟩ := second
  refine ⟨gateway'.trans gateway, group'.trans group, ?_⟩
  cases mode with
  | inviteToken => exact ⟨rest'.1.trans rest.1, rest'.2.trans rest.2⟩
  | _ => trivial

end LobbyMode

namespace Lobby

variable {w : Lobby} {app : LobbyApp} {action : Option LobbyAction} {event : KeyEvent}
  {parse : String → Option SocketAddr}

/-- A key that is handled without an index out of range, asks for nothing but what concerns
the dialog's group, and leaves rows in range. -/
def Handled (w : Lobby) (result : Option (LobbyApp × Option LobbyAction)) : Prop :=
  ∃ app action, result = some (app, action) ∧ (∀ a, action = some a → a.IsFor w.target) ∧
    InRange ⟨app, w.targetAfter app⟩

theorem targetAfter_of_open {index : ℕ} (mode : w.app.mode.groupIndex = some index) :
    w.targetAfter app = w.target := by
  simp [targetAfter, mode]

/-- A key that leaves list and mode as they are. -/
theorem handled_of_mode (safe : InRange w) (groups : app.groups = w.app.groups) (mode : app.mode = w.app.mode)
    (selected : app.groups ≠ [] → app.selected < app.groups.length)
    (meant : ∀ a, action = some a → a.IsFor w.target) : Handled w (some (app, action)) := by
  have target : w.targetAfter app = w.target := by
    simp only [targetAfter, mode]
    cases w.app.mode.groupIndex <;> rfl
  refine ⟨app, action, rfl, meant, selected, ?_, ?_⟩
  · exact fun groupName endpoint fingerprint chosen found =>
      safe.access groupName endpoint fingerprint chosen (mode ▸ found)
  · intro index found
    rw [target, groups, mode]
    exact safe.dialog index (mode ▸ found)

theorem handled_stay (safe : InRange w) : Handled w w.app.stay :=
  handled_of_mode safe rfl rfl safe.selected nofun

theorem handled_notify (safe : InRange w) {status : String} : Handled w (w.app.notify status) :=
  handled_of_mode safe rfl rfl safe.selected nofun

theorem handled_act (safe : InRange w) {a : LobbyAction} (meant : a.IsFor w.target) :
    Handled w (w.app.act a) :=
  handled_of_mode safe rfl rfl safe.selected fun _ same => Option.some.inj same ▸ meant

/-- A key that leads to a mode without a row. -/
theorem handled_of_closed (safe : InRange w) (groups : app.groups = w.app.groups)
    (selected : app.selected = w.app.selected) (mode : app.mode.groupIndex = none)
    (access : ∀ groupName endpoint fingerprint chosen,
      app.mode = .chooseAccess groupName endpoint fingerprint chosen → chosen < accessModes.length) :
    Handled w (some (app, none)) := by
  refine ⟨app, none, rfl, nofun, ?_, access, fun index found => ?_⟩
  · rw [groups, selected]
    exact safe.selected
  · rw [mode] at found
    cases found

theorem handled_cancel (safe : InRange w) {status : String} : Handled w (w.app.cancel status) :=
  handled_of_closed safe rfl rfl rfl nofun

/-- A key that opens a dialog for the selected group. -/
theorem handled_of_opened (safe : InRange w) {group : LobbyGroup} (browsing : w.app.mode = .browse)
    (row : w.app.groups[w.app.selected]? = some group) (groups : app.groups = w.app.groups)
    (selected : app.selected = w.app.selected) (mode : app.mode.groupIndex = some w.app.selected) :
    Handled w (some (app, none)) := by
  refine ⟨app, none, rfl, nofun, ?_, ?_, fun index found => ?_⟩
  · rw [groups, selected]
    exact safe.selected
  · intro groupName endpoint fingerprint chosen found
    rw [found] at mode
    cases mode
  · have closed : w.app.mode.groupIndex = none := by rw [browsing]; rfl
    have target : w.targetAfter app = some group := by
      simp [targetAfter, closed, mode, row]
    rw [mode, Option.some_inj] at found
    subst found
    exact ⟨group, group, groups ▸ row, target, .refl⟩

/-- An index into a list that is not empty finds the selected row. -/
theorem selected_row (safe : InRange w) (nonempty : ¬ w.app.groups.isEmpty = true) :
    ∃ group, w.app.groups[w.app.selected]? = some group := by
  have inside := safe.selected (by simpa using nonempty)
  exact ⟨_, List.getElem?_eq_getElem inside⟩

theorem browse_handled (safe : InRange w) (browsing : w.app.mode = .browse) :
    Handled w (w.app.handleBrowseKey event) := by
  have moved (selected : ℕ) (inside : w.app.groups ≠ [] → selected < w.app.groups.length) :
      Handled w (LobbyApp.stay { w.app with selected }) := handled_of_mode safe rfl rfl inside nofun
  have typing (kind : LobbyInputKind) (value : String) : Handled w (w.app.setMode (.input kind value)) :=
    handled_of_closed safe rfl rfl rfl nofun
  have refresh : Handled w (LobbyApp.stay { w.app with refreshRequested := true }) :=
    handled_of_mode safe rfl rfl safe.selected nofun
  have up : Handled w (LobbyApp.stay { w.app with selected := w.app.selected - 1 }) :=
    moved _ fun nonempty => (Nat.sub_le _ _).trans_lt (safe.selected nonempty)
  have create : Handled w (if w.app.gateways.isEmpty then w.app.notify "未发现可用网关，请先启动网关"
      else w.app.setMode (.input .createGroup "")) := by
    split
    · exact handled_notify safe
    · exact typing _ _
  have forget : Handled w (if w.app.groups.isEmpty then w.app.stay else do
      let group ← w.app.groups[w.app.selected]?
      if w.app.knows group then
        some ({ w.app with
          mode := .confirmForget w.app.selected, status := "删除本机凭据后，下次加入需重新验证" }, none)
      else w.app.notify "本机没有保存该群组的凭据") := by
    split
    · exact handled_stay safe
    · next nonempty =>
      obtain ⟨group, row⟩ := selected_row safe nonempty
      simp only [row, Option.bind_eq_bind, Option.bind_some]
      split
      · exact handled_of_opened safe browsing row rfl rfl rfl
      · exact handled_notify safe
  unfold LobbyApp.handleBrowseKey
  split
  case h_5 =>
    apply moved
    intro nonempty
    have positive := List.length_pos_of_ne_nil nonempty
    omega
  case h_6 =>
    split
    · exact handled_stay safe
    · next nonempty =>
      obtain ⟨group, row⟩ := selected_row safe nonempty
      simp only [row, Option.bind_eq_bind, Option.bind_some]
      split
      · exact handled_of_opened safe browsing row rfl rfl rfl
      · exact handled_act safe trivial
  all_goals first
    | exact handled_act safe trivial
    | exact up
    | exact create
    | exact typing _ _
    | exact refresh
    | exact forget
    | exact handled_stay safe

theorem input_handled (safe : InRange w) {kind : LobbyInputKind} {value : String} :
    Handled w (w.app.handleInputKey parse event kind value) := by
  have typing (value : String) : Handled w (w.app.setMode (.input kind value)) :=
    handled_of_closed safe rfl rfl rfl nofun
  unfold LobbyApp.handleInputKey
  split
  · exact handled_cancel safe
  · exact typing _
  · unfold LobbyApp.confirmInput
    split
    · split
      · exact handled_notify safe
      · split
        · exact handled_notify safe
        · refine handled_of_closed safe rfl rfl rfl fun groupName endpoint fingerprint chosen found => ?_
          cases found
          decide
    · split
      · exact handled_act safe trivial
      · exact handled_notify safe
    · split
      · exact handled_act safe trivial
      · exact handled_notify safe
  · split
    · exact typing _
    · exact handled_stay safe
  · exact handled_stay safe

theorem chooseAccess_handled (safe : InRange w) {groupName : String} {endpoint : SocketAddr}
    {fingerprint : String} {selected : ℕ}
    (choosing : w.app.mode = .chooseAccess groupName endpoint fingerprint selected) :
    Handled w (w.app.handleChooseAccessKey event groupName endpoint fingerprint selected) := by
  have inside : selected < accessModes.length := safe.access _ _ _ _ choosing
  have choose (chosen : ℕ) (inside : chosen < accessModes.length) :
      Handled w (w.app.setMode (.chooseAccess groupName endpoint fingerprint chosen)) := by
    refine handled_of_closed safe rfl rfl rfl fun _ _ _ other found => ?_
    cases found
    exact inside
  have three : accessModes.length = 3 := rfl
  unfold LobbyApp.handleChooseAccessKey
  split
  case h_9 =>
    simp only [List.getElem?_eq_getElem inside, Option.bind_eq_bind, Option.bind_some]
    exact handled_act safe trivial
  all_goals first
    | exact handled_cancel safe
    | exact choose _ (by omega)
    | exact handled_stay safe

theorem inviteToken_handled (safe : InRange w) {index : ℕ} {value : String}
    (asking : w.app.mode = .inviteToken index value) :
    Handled w (w.app.handleInviteTokenKey event index value) := by
  have opened : w.app.mode.groupIndex = some index := by rw [asking]; rfl
  obtain ⟨shown, target, row, known, agree⟩ := safe.dialog index opened
  have typing (value : String) : Handled w (w.app.setMode (.inviteToken index value)) := by
    refine ⟨_, none, rfl, nofun, safe.selected, nofun, fun other found => ?_⟩
    cases found
    rw [targetAfter_of_open opened]
    rw [asking] at agree
    exact ⟨shown, target, row, known, agree⟩
  unfold LobbyApp.handleInviteTokenKey
  split
  · exact handled_cancel safe
  · exact typing _
  · split
    · simp only [row, Option.bind_eq_bind, Option.bind_some]
      rw [asking] at agree
      obtain ⟨gatewayId, groupId, endpoint, fingerprint⟩ := agree
      refine handled_act safe ⟨target, known, ?_⟩
      rw [gatewayId, groupId, endpoint, fingerprint]
      exact ⟨rfl, rfl, rfl, rfl⟩
    · exact handled_notify safe
  · split
    · exact typing _
    · exact handled_stay safe
  · exact handled_stay safe

theorem confirmForget_handled (safe : InRange w) {index : ℕ}
    (asking : w.app.mode = .confirmForget index) : Handled w (w.app.handleConfirmForgetKey event index) := by
  obtain ⟨shown, target, row, known, gatewayId, groupId, -⟩ :=
    safe.dialog index (by rw [asking]; rfl)
  have confirm : Handled w (do
      let group ← w.app.groups[index]?
      w.app.act (.forgetCredential group.gatewayId group.groupId)) := by
    simp only [row, Option.bind_eq_bind, Option.bind_some]
    refine handled_act safe ⟨target, known, ?_⟩
    rw [gatewayId, groupId]
    exact ⟨rfl, rfl⟩
  unfold LobbyApp.handleConfirmForgetKey
  split <;> first
    | exact confirm
    | exact handled_cancel safe
    | exact handled_stay safe

theorem key_handled (safe : InRange w) : Handled w (w.app.handleKey parse event) := by
  unfold LobbyApp.handleKey
  split
  · next browsing => exact browse_handled safe browsing
  · exact input_handled safe
  · next choosing => exact chooseAccess_handled safe choosing
  · next asking => exact inviteToken_handled safe asking
  · next asking => exact confirmForget_handled safe asking

/-- What the loop does besides keys keeps the rows when it keeps list, selection and mode. -/
theorem InRange.of_view (safe : InRange w) (groups : app.groups = w.app.groups)
    (selected : app.selected = w.app.selected) (mode : app.mode = w.app.mode) : InRange ⟨app, w.target⟩ := by
  constructor
  · rw [groups, selected]
    exact safe.selected
  · rw [mode]
    exact safe.access
  · rw [mode, groups]
    exact safe.dialog

theorem paste_inRange (safe : InRange w) {raw : String} : InRange ⟨w.app.paste raw, w.target⟩ := by
  unfold LobbyApp.paste
  split
  · exact ⟨safe.selected, nofun, nofun⟩
  · next index value asking =>
    refine ⟨safe.selected, nofun, fun other found => ?_⟩
    cases found
    obtain ⟨shown, target, row, known, agree⟩ := safe.dialog index (by rw [asking]; rfl)
    rw [asking] at agree
    exact ⟨shown, target, row, known, agree⟩
  all_goals exact safe

theorem discovered_inRange (safe : InRange w) {result : Except String LobbyDiscovery}
    (kept : w.RowKept (.discovered result)) : InRange ⟨w.app.discovered result, w.target⟩ := by
  cases result with
  | error status => exact safe.of_view rfl rfl rfl
  | ok discovery =>
    refine ⟨fun nonempty => ?_, safe.access, fun index found => ?_⟩
    · have positive : 0 < discovery.groups.length := List.length_pos_of_ne_nil nonempty
      show min w.app.selected (discovery.groups.length - 1) < discovery.groups.length
      omega
    · obtain ⟨shown, target, row, known, agree⟩ := safe.dialog index found
      obtain ⟨new, row', agree'⟩ := kept index found shown row
      exact ⟨new, target, row', known, agree.trans agree'⟩

theorem inRange_step {after : Lobby} {input : LobbyInput} (safe : InRange w) (kept : w.RowKept input)
    (h : w.step parse input = some after) : InRange after := by
  cases input with
  | key event =>
    obtain ⟨app, action, handled, -, inRange⟩ := @key_handled _ event parse safe
    simp only [step, handled, Option.bind_eq_bind, Option.bind_some, Option.some.injEq] at h
    subst h
    refine inRange.of_view ?_ ?_ ?_ <;> simp only [LobbyApp.startRequested] <;> split <;>
      first | rfl | (split <;> rfl)
  | paste raw =>
    cases h
    exact paste_inRange safe
  | tick =>
    cases h
    refine safe.of_view ?_ ?_ ?_ <;> simp only [LobbyApp.tick] <;> split <;> rfl
  | discovered result =>
    cases h
    exact discovered_inRange safe kept

end Lobby

/-- **Lobby dialogs.** As long as no discovery result puts another group, or none, into the
row of an open dialog, every key is handled, and a token or a deletion is for the group
that was selected when the dialog was opened. -/
theorem lobby_dialogs {parse : String → Option SocketAddr} {nickname : String} {initialStatus : Option String}
    {knownCredentials : List (Uuid × Uuid)} {inputs : List LobbyInput} {w : Lobby}
    (run : Run (Lobby.step parse) Lobby.RowKept (.start nickname initialStatus knownCredentials) inputs w)
    (event : KeyEvent) : ∃ app action, w.app.handleKey parse event = some (app, action) ∧
      ∀ a, action = some a → a.IsFor w.target := by
  have safe : w.InRange := run.preserves (fun _ _ _ safe kept taken => Lobby.inRange_step safe kept taken)
    ⟨fun nonempty => absurd rfl nonempty, nofun, nofun⟩
  obtain ⟨app, action, handled, meant, -⟩ := @Lobby.key_handled _ event parse safe
  exact ⟨app, action, handled, meant⟩

/-! ## Two groups -/

def homeGroup : LobbyGroup :=
  { gatewayId := ⟨1⟩, groupId := ⟨2⟩, groupName := "home", accessMode := .invite, gatewayName := "attic"
    endpoint := ⟨.v4 192 168 1 20, 7373⟩, serverFingerprint := "0000:0000:0000:0000:0000:0001" }

def otherGroup : LobbyGroup :=
  { gatewayId := ⟨3⟩, groupId := ⟨4⟩, groupName := "guests", accessMode := .isPublic, gatewayName := "cafe"
    endpoint := ⟨.v4 192 168 1 66, 7373⟩, serverFingerprint := "0000:0000:0000:0000:0000:0003" }

def refreshWith (groups : List LobbyGroup) : LobbyInput := .discovered (.ok ⟨[], groups⟩)

def press (code : KeyCode) : LobbyInput := .key ⟨code, false⟩

/-- While the user is asked about "home", a refresh that no longer finds it makes the `y`
index out of range; one that finds another group first sends that group the token. -/
theorem lobby_dialog_moved :
    (∃ inputs w, Run (Lobby.step fun _ => none) anyAction (.start "Ann" none [(⟨1⟩, ⟨2⟩)]) inputs w ∧
      w.app.mode = .confirmForget 0 ∧ w.target = some homeGroup ∧
      w.app.handleKey (fun _ => none) ⟨.char 'y', false⟩ = none) ∧
    ∃ inputs w app, Run (Lobby.step fun _ => none) anyAction (.start "Ann" none []) inputs w ∧
      w.target = some homeGroup ∧
      w.app.handleKey (fun _ => none) ⟨.enter, false⟩ = some (app, some (.join otherGroup.endpoint
        (some otherGroup.serverFingerprint) (some otherGroup.gatewayId) (some otherGroup.groupId)
        (some "lc_invite_1"))) := by
  constructor
  · exact ⟨[refreshWith [homeGroup], press (.char 'x'), refreshWith []], _,
      @run_of_exec _ _ _ _ (fun _ => true) (fun _ _ _ => trivial) _ _ _ rfl, by decide +kernel, by decide +kernel,
      by decide +kernel⟩
  · exact ⟨[refreshWith [homeGroup], press .enter, .paste "lc_invite_1", refreshWith [otherGroup, homeGroup]], _, _,
      @run_of_exec _ _ _ _ (fun _ => true) (fun _ _ _ => trivial) _ _ _ rfl, by decide +kernel, by rfl⟩

/-- A refresh that finds the group in its row again. -/
theorem lobby_dialogs_refreshed :
    let app := ((LobbyApp.new "Ann" none [(⟨1⟩, ⟨2⟩)]).setDiscovery ⟨[], [homeGroup]⟩)
    let asked := { app with mode := .confirmForget 0, status := "删除本机凭据后，下次加入需重新验证" }
    ∃ app action, (asked.setDiscovery ⟨[], [homeGroup, otherGroup]⟩).handleKey (fun _ => none) ⟨.char 'y', false⟩ =
        some (app, action) ∧ ∀ a, action = some a → a.IsFor (some homeGroup) := by
  refine @lobby_dialogs (fun _ => none) "Ann" none [(⟨1⟩, ⟨2⟩)]
    [refreshWith [homeGroup], press (.char 'x'), refreshWith [homeGroup, otherGroup]]
    ⟨_, some homeGroup⟩ (.cons ?_ rfl (.cons trivial rfl (.cons ?_ rfl (.nil _)))) ⟨.char 'y', false⟩
  · exact nofun
  · intro index opened old row
    cases opened
    cases row
    exact ⟨homeGroup, rfl, .refl⟩

end LanChat
