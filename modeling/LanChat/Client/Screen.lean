import LanChat.Base.Transition
import LanChat.Client.Keys
import LanChat.Client.Sanitize

/-!
# What the screen indexes

The parts of the drawing functions of `tui.rs` that look something up: the pane
of the active conversation, the list of conversations, the rows of an overlay.
A lookup that finds nothing ends the program, which is `none`, as it is for a
key. `ChatApp.Sound` says that they all find something, and `listedAfter` when a
message of the gateway keeps it so.
-/

namespace LanChat

open Transition Fallible

def joinRequestsWindow : ℕ := 8
def membersWindow : ℕ := 10

section
variable {α : Type}

/-- The rows an overlay draws, a window around the selected one, and whether they are marked. -/
def drawnRows (windowSize selected : ℕ) (rows : List α) : List (α × Bool) :=
  let start := min (selected - windowSize / 2) (rows.length - windowSize)
  let finish := min (start + windowSize) rows.length
  ((rows.zipIdx.take finish).drop start).map fun row => (row.1, row.2 == selected)

/-- The rows that are drawn as the selected one. -/
def highlighted (windowSize selected : ℕ) (rows : List α) : List α :=
  ((drawnRows windowSize selected rows).filter (·.2)).map (·.1)

theorem filter_zipIdx (rows : List α) (first selected : ℕ) (within : first ≤ selected) :
    (rows.zipIdx first).filter (fun row => row.2 == selected) =
      (rows[selected - first]?.map fun row => (row, selected)).toList := by
  induction rows generalizing first with
  | nil => simp
  | cons row rows ih =>
    rw [List.zipIdx_cons, List.filter_cons]
    by_cases here : first = selected
    · have later : (rows.zipIdx (first + 1)).filter (fun row => row.2 == selected) = [] := by
        rw [List.filter_eq_nil_iff]
        intro entry mem
        have := List.le_snd_of_mem_zipIdx mem
        simp only [beq_iff_eq]
        omega
      rw [if_pos (by simpa using here), later, here, Nat.sub_self]
      rfl
    · rw [if_neg (by simpa using here), ih (first + 1) (by omega),
        show selected - first = selected - (first + 1) + 1 by omega, List.getElem?_cons_succ]

/-- **One row is marked**, the selected one: the window is around it. -/
theorem highlighted_eq {windowSize selected : ℕ} {rows : List α} (wide : 0 < windowSize) {row : α}
    (found : rows[selected]? = some row) : highlighted windowSize selected rows = [row] := by
  have inside : selected < rows.length := (List.getElem?_eq_some_iff.1 found).1
  have marked : rows.zipIdx.filter (fun row => row.2 == selected) = [(row, selected)] := by
    rw [filter_zipIdx rows 0 selected (Nat.zero_le _), Nat.sub_zero, found]
    rfl
  simp only [highlighted, drawnRows, List.filter_map, List.map_map]
  generalize begins : min (selected - windowSize / 2) (rows.length - windowSize) = start
  generalize ends : min (start + windowSize) rows.length = finish
  have before : start ≤ selected := by omega
  have after : selected < finish := by omega
  -- the rows above and below the window have other indices
  have above : ((rows.zipIdx.take finish).take start).filter (fun row => row.2 == selected) = [] := by
    rw [List.filter_eq_nil_iff]
    intro entry mem
    obtain ⟨i, bound, rfl⟩ := List.mem_take_iff_getElem.1 mem
    simp only [List.getElem_take, List.getElem_zipIdx, beq_iff_eq]
    omega
  have below : (rows.zipIdx.drop finish).filter (fun row => row.2 == selected) = [] := by
    rw [List.filter_eq_nil_iff]
    intro entry mem
    obtain ⟨i, bound, rfl⟩ := List.mem_drop_iff_getElem.1 mem
    simp only [List.getElem_zipIdx, beq_iff_eq]
    omega
  have window : ((rows.zipIdx.take finish).drop start).filter (fun row => row.2 == selected) =
      [(row, selected)] := by
    rw [← marked]
    conv_rhs => rw [← List.take_append_drop finish rows.zipIdx, ← List.take_append_drop start
      (rows.zipIdx.take finish), List.filter_append, List.filter_append, above, below]
    simp
  calc List.map _ (List.filter _ _)
      = ((rows.zipIdx.take finish).drop start |>.filter fun row => row.2 == selected).map (·.1) := rfl
    _ = [row] := by rw [window]; rfl

end

/-! ## Maps whose values name their key -/

section
variable {κ ν : Type} [Ord κ] {key : ν → κ} {map : Std.TreeMap κ ν} {k : κ} {v : ν}

theorem values_eq_map : map.values = map.toList.map (·.2) := by
  have folded : map.values = map.foldr (fun _ value values => value :: values) [] := rfl
  rw [folded, Std.TreeMap.foldr_eq_foldr_toList]
  induction map.toList with
  | nil => rfl
  | cons entry entries ih => simp only [List.foldr_cons, ih, List.map_cons]

/-- Every value is filed under its key. -/
def Filed (key : ν → κ) (map : Std.TreeMap κ ν) : Prop := ∀ k v, map[k]? = some v → key v = k

variable [Std.TransOrd κ]

theorem Filed.empty : Filed key (∅ : Std.TreeMap κ ν) := by simp [Filed]

theorem Filed.erase (filed : Filed key map) : Filed key (map.erase k) := by
  intro k' v' found
  rw [Std.TreeMap.getElem?_erase] at found
  split at found
  · cases found
  · exact filed k' v' found

variable [Std.LawfulEqOrd κ]

theorem Filed.insert (filed : Filed key map) (same : key v = k) : Filed key (map.insert k v) := by
  intro k' v' found
  rw [Std.TreeMap.getElem?_insert] at found
  split at found
  · next here => rw [← Option.some.inj found, same, Std.LawfulEqOrd.eq_of_compare here]
  · exact filed k' v' found

theorem Filed.insertIfNew (filed : Filed key map) (same : key v = k) : Filed key (map.insertIfNew k v) := by
  intro k' v' found
  rw [Std.TreeMap.getElem?_insertIfNew] at found
  split at found
  · next here => rw [← Option.some.inj found, same, Std.LawfulEqOrd.eq_of_compare here.1]
  · exact filed k' v' found

theorem Filed.modify (filed : Filed key map) {change : ν → ν} (keeps : ∀ v, key (change v) = key v) :
    Filed key (map.modify k change) := by
  intro k' v' found
  rw [Std.TreeMap.getElem?_modify] at found
  split at found
  · obtain ⟨old, before, rfl⟩ := Option.map_eq_some_iff.1 found
    next here => rw [keeps, filed _ old before, Std.LawfulEqOrd.eq_of_compare here]
  · exact filed k' v' found

/-- A value of the map names an entry. -/
theorem Filed.key_mem (filed : Filed key map) (mem : v ∈ map.values) : key v ∈ map := by
  rw [values_eq_map] at mem
  obtain ⟨⟨k, value⟩, listed, rfl⟩ := List.mem_map.1 mem
  have found : map[k]? = some value := Std.TreeMap.mem_toList_iff_getElem?_eq_some.1 listed
  rw [filed k value found, Std.TreeMap.mem_iff_isSome_getElem?, found]
  rfl

end

/-! ## What is drawn -/

/-- `room_display_name` -/
def RoomView.displayName (room : RoomView) : String :=
  if room.summary.roomId = "general" then "大厅" else room.summary.roomName

/-- A row of the list of conversations: its name, the note beside it, and how it is drawn. -/
structure NavigationRow where
  name : String
  note : String
  selected : Bool
  active : Bool

namespace ChatApp

variable (app : ChatApp)

def privateSendLocked : Option String :=
  match app.active with
  | .room _ => none
  | .privateChat peerId => app.privateChats[peerId]?.bind fun chat =>
    if !chat.online then some "对方已离线"
    else if chat.status = some (.awaitingReply app.sessionId) then some "等待对方首次回复"
    else none

/-- `render_active_messages`: the title, the note beside it, and the items. -/
def renderActiveMessages : Option (String × String × (List UiItem ⊕ List DirectRecord)) :=
  match app.active with
  | .room roomId => app.rooms[roomId]?.map fun room =>
    (room.displayName, if room.summary.visibility = .isPrivate then "私有房间" else "", .inl room.items)
  | .privateChat peerId => app.privateChats[peerId]?.map fun chat =>
    (chat.peer.nickname,
      app.privateSendLocked.getD (if chat.online then "点对点已加密" else "对方已离线"), .inr chat.items)

def navigationRow (entry : ConversationTarget × ℕ) : Option NavigationRow :=
  let row (name note : String) : NavigationRow :=
    { name, note
      selected := decide (app.focus = .conversations) && entry.2 == app.selectedConversation
      active := decide (entry.1 = app.active) }
  match entry.1 with
  | .room roomId => app.rooms[roomId]?.map fun room => row room.displayName
      (if 0 < room.unread then s!"{room.unread} 条"
        else if !room.joined then "未加入"
        else if room.summary.visibility = .isPrivate then "私有"
        else "公开")
  | .privateChat peerId => app.privateChats[peerId]?.map fun chat => row chat.peer.nickname
      (if 0 < chat.unread then s!"{chat.unread} 条"
        else if !chat.online then "离线"
        else if chat.status = some (.awaitingReply app.sessionId) then "等待回复"
        else "私聊")

/-- `render_conversations` on a screen that is high enough for all rows; on a lower one it draws
the first of them. -/
def renderConversations : Option (List NavigationRow) := app.conversationEntries.zipIdx.mapM app.navigationRow

/-! ## A sound screen -/

/-- The maps have an entry for the target. -/
def Lists : ConversationTarget → Prop
  | .room roomId => roomId ∈ app.rooms
  | .privateChat peerId => peerId ∈ app.privateChats

end ChatApp

/-- The selected row of a list that has rows is one of them. -/
def ChatOverlay.InRange (choices : List GroupTokenKind) : ChatOverlay → Prop
  | .joinRequests requests selected _ => requests ≠ [] → selected < requests.length
  | .groupMembers members selected _ _ _ => members ≠ [] → selected < members.length
  | .roomMembers _ members selected _ _ _ => members ≠ [] → selected < members.length
  | .rotateTokens selected _ => selected < choices.length
  | _ => True

namespace ChatApp

structure Sound (app : ChatApp) : Prop where
  active : app.Lists app.active
  rooms : Filed (·.summary.roomId) app.rooms
  chats : Filed (·.peer.sessionId) app.privateChats
  overlay : ∀ overlay ∈ app.overlay, overlay.InRange (tokenRotationChoices app.role app.accessMode)

/-- What a request of an overlay is about: the row drawn as selected, in an overlay that is not loading. -/
def Names (app : ChatApp) : ClientMessage → Prop
  | .decideJoinRequest requestId _ => ∃ requests selected request,
    app.overlay = some (.joinRequests requests selected false) ∧
      highlighted joinRequestsWindow selected requests = [request] ∧ requestId = request.requestId
  | .setMemberBanned memberId banned => ∃ members selected offset hasMore member,
    app.overlay = some (.groupMembers members selected false offset hasMore) ∧
      highlighted membersWindow selected members = [member] ∧ memberId = member.memberId ∧
        banned = decide (member.status = .active)
  | .setRoomMember roomId memberId included => ∃ members selected offset hasMore member,
    app.overlay = some (.roomMembers roomId members selected false offset hasMore) ∧
      highlighted membersWindow selected members = [member] ∧ memberId = member.memberId ∧
        included = !member.included
  | _ => True

section
variable {app app' : ChatApp}

theorem Sound.lists_entries (sound : app.Sound) :
    ∀ target ∈ app.conversationEntries, app.Lists target := by
  intro target mem
  rcases List.mem_append.1 mem with mem | mem
  · obtain ⟨room, inRooms, rfl⟩ := List.mem_map.1 mem
    exact sound.rooms.key_mem (Table.mem_orderBy.1 inRooms)
  · obtain ⟨chat, inChats, rfl⟩ := List.mem_map.1 mem
    exact sound.chats.key_mem (Table.mem_orderBy.1 inChats)

theorem Sound.renderActiveMessages (sound : app.Sound) : app.renderActiveMessages.isSome = true := by
  have active := sound.active
  unfold ChatApp.renderActiveMessages
  split
  · next roomId here =>
    rw [here] at active
    rw [Option.isSome_map]
    exact Std.TreeMap.mem_iff_isSome_getElem?.1 active
  · next peerId here =>
    rw [here] at active
    rw [Option.isSome_map]
    exact Std.TreeMap.mem_iff_isSome_getElem?.1 active

theorem isSome_navigationRow {entry : ConversationTarget × ℕ} (listed : app.Lists entry.1) :
    (app.navigationRow entry).isSome = true := by
  obtain ⟨target, index⟩ := entry
  cases target with
  | room roomId =>
    simp only [navigationRow, Option.isSome_map]
    exact Std.TreeMap.mem_iff_isSome_getElem?.1 listed
  | privateChat peerId =>
    simp only [navigationRow, Option.isSome_map]
    exact Std.TreeMap.mem_iff_isSome_getElem?.1 listed

theorem isSome_mapM {α β : Type} {f : α → Option β} {as : List α} (each : ∀ a ∈ as, (f a).isSome = true) :
    (as.mapM f).isSome = true := by
  induction as with
  | nil => rfl
  | cons a as ih =>
    obtain ⟨b, first⟩ := Option.isSome_iff_exists.1 (each a List.mem_cons_self)
    obtain ⟨bs, rest⟩ := Option.isSome_iff_exists.1 (ih fun a mem => each a (List.mem_cons_of_mem _ mem))
    rw [List.mapM_cons, first, rest]
    rfl

theorem Sound.renderConversations (sound : app.Sound) : app.renderConversations.isSome = true := by
  refine isSome_mapM fun entry mem => isSome_navigationRow (sound.lists_entries entry.1 ?_)
  exact List.fst_mem_of_mem_zipIdx mem

/-! ## Keys -/

/-- The maps and the active conversation are left alone. -/
theorem Sound.frame (sound : app.Sound) (rooms : app'.rooms = app.rooms)
    (chats : app'.privateChats = app.privateChats) (active : app'.active = app.active)
    (overlay : ∀ overlay ∈ app'.overlay, overlay.InRange (tokenRotationChoices app'.role app'.accessMode)) :
    app'.Sound := by
  refine ⟨?_, rooms ▸ sound.rooms, chats ▸ sound.chats, overlay⟩
  have listed := sound.active
  rw [active]
  cases target : app.active with
  | room roomId =>
    rw [target] at listed
    simp only [Lists] at listed ⊢
    rw [rooms]
    exact listed
  | privateChat peerId =>
    rw [target] at listed
    simp only [Lists] at listed ⊢
    rw [chats]
    exact listed

theorem Sound.setOverlay (sound : app.Sound) {overlay : ChatOverlay}
    (inRange : overlay.InRange (tokenRotationChoices app.role app.accessMode)) :
    (app.setOverlay overlay).Sound :=
  sound.frame rfl rfl rfl fun _ same => Option.some.inj same ▸ inRange

theorem Sound.withStatus (sound : app.Sound) (status : String) : Sound { app with status } :=
  sound.frame rfl rfl rfl sound.overlay

theorem Sound.closeOverlay (sound : app.Sound) : Sound { app with overlay := none } :=
  sound.frame rfl rfl rfl fun overlay open_ => absurd open_ (Option.not_mem_none overlay)

variable (app) in
/-- A key is answered: the program goes on, its screen is sound, and what is asked of the gateway
is about the row drawn as selected. -/
def Safe (result : Option (ChatApp × ChatKeyAction)) : Prop :=
  ∃ after action, result = some (after, action) ∧ after.Sound ∧
    ∀ message, action = .send message → app.Names message

theorem safe_stay (sound : app'.Sound) : app.Safe app'.stay := ⟨app', .none, rfl, sound, nofun⟩

theorem safe_notify (sound : app'.Sound) (status : String) : app.Safe (app'.notify status) :=
  ⟨_, .none, rfl, sound.withStatus status, nofun⟩

theorem safe_closeOverlay (sound : app.Sound) : app.Safe app.closeOverlay :=
  ⟨_, .none, rfl, sound.closeOverlay, nofun⟩

theorem safe_send (sound : app'.Sound) {message : ClientMessage} (names : app.Names message) :
    app.Safe (some (app', .send message)) := by
  refine ⟨app', _, rfl, sound, fun sent same => ?_⟩
  cases same
  exact names

theorem moveUp_lt {selected length : ℕ} (within : selected < length) : moveUp selected < length := by
  unfold moveUp
  omega

theorem moveDown_lt {selected length : ℕ} (some : 0 < length) : moveDown selected length < length := by
  unfold moveDown
  omega

theorem handleCreateRoomKey_safe (sound : app.Sound) (key : KeyEvent) (name : String)
    (visibility : RoomVisibility) : app.Safe (app.handleCreateRoomKey key name visibility) := by
  have renamed (name : String) (visibility : RoomVisibility) :
      app.Safe (app.setOverlay (.createRoom name visibility)).stay := safe_stay (sound.setOverlay trivial)
  unfold handleCreateRoomKey
  split
  · exact safe_closeOverlay sound
  · exact renamed _ _
  · exact renamed _ _
  · split
    · exact safe_send sound.closeOverlay trivial
    · exact safe_notify sound _
  · split
    · exact renamed _ _
    · exact safe_stay sound
  · exact safe_stay sound

theorem handleNoticeKey_safe (sound : app.Sound) (key : KeyEvent) : app.Safe (app.handleNoticeKey key) := by
  unfold handleNoticeKey
  split
  · exact safe_closeOverlay sound
  · exact safe_closeOverlay sound
  · exact safe_stay sound

/-- The row that an index in range is at. -/
theorem getElem?_of_inRange {α : Type} {rows : List α} {selected : ℕ}
    (inRange : rows ≠ [] → selected < rows.length) (some : rows.isEmpty = false) : ∃ row, rows[selected]? = .some row := by
  have within : selected < rows.length := inRange (by simpa using some)
  exact ⟨rows[selected], List.getElem?_eq_getElem within⟩

theorem handleJoinRequestsKey_safe (sound : app.Sound) {requests : List JoinRequestSummary} {selected : ℕ}
    {loading : Bool} (open_ : app.overlay = some (.joinRequests requests selected loading)) (key : KeyEvent) :
    app.Safe (app.handleJoinRequestsKey key requests selected loading) := by
  have inRange : requests ≠ [] → selected < requests.length := sound.overlay _ open_
  have moved {selected' : ℕ} (loading' : Bool) (within : requests ≠ [] → selected' < requests.length) :
      (app.setOverlay (.joinRequests requests selected' loading')).Sound := sound.setOverlay within
  have decide (approve : Bool) : app.Safe (if !requests.isEmpty && !loading then do
      let request ← requests[selected]?
      some (app.setOverlay (.joinRequests requests selected true),
        ChatKeyAction.send (.decideJoinRequest request.requestId approve))
    else app.stay) := by
    split
    · next ready =>
      simp only [Bool.and_eq_true, Bool.not_eq_true'] at ready
      obtain ⟨request, found⟩ := getElem?_of_inRange inRange ready.1
      rw [found]
      refine safe_send (moved true inRange) ⟨requests, selected, request, ?_, ?_, rfl⟩
      · rw [open_, ready.2]
      · exact highlighted_eq (by decide) found
    · exact safe_stay sound
  simp only [handleJoinRequestsKey]
  split
  · exact safe_closeOverlay sound
  · exact safe_stay (moved loading fun some => moveUp_lt (inRange some))
  · exact safe_stay (moved loading fun some => moveUp_lt (inRange some))
  · exact safe_stay (moved loading fun some => moveDown_lt (List.length_pos_iff.2 some))
  · exact safe_stay (moved loading fun some => moveDown_lt (List.length_pos_iff.2 some))
  · exact safe_send (moved true inRange) trivial
  · exact safe_send (moved true inRange) trivial
  · exact decide true
  · exact decide true
  · exact decide true
  · exact decide false
  · exact decide false
  · exact decide false
  · exact safe_stay sound

theorem handleGroupMembersKey_safe (sound : app.Sound) {members : List GroupMemberSummary} {selected : ℕ}
    {loading : Bool} {offset : ℕ} {hasMore : Bool}
    (open_ : app.overlay = some (.groupMembers members selected loading offset hasMore)) (key : KeyEvent) :
    app.Safe (app.handleGroupMembersKey key members selected loading offset hasMore) := by
  have inRange : members ≠ [] → selected < members.length := sound.overlay _ open_
  have moved {selected' : ℕ} (loading' : Bool) (within : members ≠ [] → selected' < members.length) :
      (app.setOverlay (.groupMembers members selected' loading' offset hasMore)).Sound :=
    sound.setOverlay within
  have page (turns : Bool) (offset' : ℕ) : app.Safe (if turns then some
      (app.setOverlay (.groupMembers members 0 true offset hasMore),
        ChatKeyAction.send (.listGroupMembers offset')) else app.stay) := by
    split
    · exact safe_send (moved true List.length_pos_iff.2) trivial
    · exact safe_stay sound
  have ban : app.Safe (if !members.isEmpty && !loading then do
      let member ← members[selected]?
      if member.role = .admin then app.notify "不能封禁群组管理员"
      else some (app.setOverlay (.groupMembers members selected true offset hasMore),
        ChatKeyAction.send (.setMemberBanned member.memberId (member.status = .active)))
    else app.stay) := by
    split
    · next ready =>
      simp only [Bool.and_eq_true, Bool.not_eq_true'] at ready
      obtain ⟨member, found⟩ := getElem?_of_inRange inRange ready.1
      rw [found]
      show app.Safe (if member.role = .admin then _ else _)
      split
      · exact safe_notify sound _
      · refine safe_send (moved true inRange) ⟨members, selected, offset, hasMore, member, ?_, ?_, rfl, rfl⟩
        · rw [open_, ready.2]
        · exact highlighted_eq (by decide) found
    · exact safe_stay sound
  simp only [handleGroupMembersKey]
  split
  · exact safe_closeOverlay sound
  · exact safe_stay (moved loading fun some => moveUp_lt (inRange some))
  · exact safe_stay (moved loading fun some => moveUp_lt (inRange some))
  · exact safe_stay (moved loading fun some => moveDown_lt (List.length_pos_iff.2 some))
  · exact safe_stay (moved loading fun some => moveDown_lt (List.length_pos_iff.2 some))
  · exact safe_send (moved true inRange) trivial
  · exact safe_send (moved true inRange) trivial
  · exact page _ _
  · exact page _ _
  · exact ban
  · exact ban
  · exact ban
  · exact safe_stay sound

theorem handleRoomMembersKey_safe (sound : app.Sound) {roomId : String} {members : List RoomMemberSummary}
    {selected : ℕ} {loading : Bool} {offset : ℕ} {hasMore : Bool}
    (open_ : app.overlay = some (.roomMembers roomId members selected loading offset hasMore)) (key : KeyEvent) :
    app.Safe (app.handleRoomMembersKey key roomId members selected loading offset hasMore) := by
  have inRange : members ≠ [] → selected < members.length := sound.overlay _ open_
  have moved {selected' : ℕ} (loading' : Bool) (within : members ≠ [] → selected' < members.length) :
      (app.setOverlay (.roomMembers roomId members selected' loading' offset hasMore)).Sound :=
    sound.setOverlay within
  have page (turns : Bool) (offset' : ℕ) : app.Safe (if turns then some
      (app.setOverlay (.roomMembers roomId members 0 true offset hasMore),
        ChatKeyAction.send (.listRoomMembers roomId offset')) else app.stay) := by
    split
    · exact safe_send (moved true List.length_pos_iff.2) trivial
    · exact safe_stay sound
  have toggle : app.Safe (if !members.isEmpty && !loading then do
      let member ← members[selected]?
      if member.isOwner || member.groupRole = .admin then
        app.notify "房主与群组管理员始终保留访问权限"
      else some (app.setOverlay (.roomMembers roomId members selected true offset hasMore),
        ChatKeyAction.send (.setRoomMember roomId member.memberId (!member.included)))
    else app.stay) := by
    split
    · next ready =>
      simp only [Bool.and_eq_true, Bool.not_eq_true'] at ready
      obtain ⟨member, found⟩ := getElem?_of_inRange inRange ready.1
      rw [found]
      show app.Safe (if member.isOwner || member.groupRole = .admin then _ else _)
      split
      · exact safe_notify sound _
      · refine safe_send (moved true inRange) ⟨members, selected, offset, hasMore, member, ?_, ?_, rfl, rfl⟩
        · rw [open_, ready.2]
        · exact highlighted_eq (by decide) found
    · exact safe_stay sound
  simp only [handleRoomMembersKey]
  split
  · exact safe_closeOverlay sound
  · exact safe_stay (moved loading fun some => moveUp_lt (inRange some))
  · exact safe_stay (moved loading fun some => moveUp_lt (inRange some))
  · exact safe_stay (moved loading fun some => moveDown_lt (List.length_pos_iff.2 some))
  · exact safe_stay (moved loading fun some => moveDown_lt (List.length_pos_iff.2 some))
  · exact safe_send (moved true inRange) trivial
  · exact safe_send (moved true inRange) trivial
  · exact page _ _
  · exact page _ _
  · exact toggle
  · exact toggle
  · exact safe_stay sound

theorem tokenRotationChoices_pos (role : GroupRole) (accessMode : GroupAccessMode) :
    0 < (tokenRotationChoices role accessMode).length := by
  unfold tokenRotationChoices
  split
  · exact Nat.zero_lt_one
  · split
    · exact Nat.zero_lt_two
    · exact Nat.zero_lt_one

theorem handleRotateTokensKey_safe (sound : app.Sound) {selected : ℕ} {confirming : Bool}
    (open_ : app.overlay = some (.rotateTokens selected confirming)) (key : KeyEvent) :
    app.Safe (app.handleRotateTokensKey key selected confirming) := by
  have inRange : selected < (tokenRotationChoices app.role app.accessMode).length := sound.overlay _ open_
  have moved {selected' : ℕ} (confirming' : Bool)
      (within : selected' < (tokenRotationChoices app.role app.accessMode).length) :
      (app.setOverlay (.rotateTokens selected' confirming')).Sound := sound.setOverlay within
  have confirm : app.Safe (if confirming then do
      let kind ← (tokenRotationChoices app.role app.accessMode)[selected]?
      some (app, ChatKeyAction.send (.rotateGroupToken kind))
    else app.stay) := by
    split
    · rw [List.getElem?_eq_getElem inRange]
      exact safe_send sound trivial
    · exact safe_stay sound
  have down : moveDown selected _ < (tokenRotationChoices app.role app.accessMode).length :=
    moveDown_lt (tokenRotationChoices_pos app.role app.accessMode)
  simp only [handleRotateTokensKey]
  split
  · exact safe_closeOverlay sound
  · exact safe_stay (moved false (moveUp_lt inRange))
  · exact safe_stay (moved false (moveUp_lt inRange))
  · exact safe_stay (moved false down)
  · exact safe_stay (moved false down)
  · exact safe_notify (moved true inRange) _
  · exact confirm
  · exact confirm
  · exact safe_stay sound

theorem handleOverlayKey_safe (sound : app.Sound) {overlay : ChatOverlay} (open_ : app.overlay = some overlay)
    (key : KeyEvent) : app.Safe (app.handleOverlayKey key overlay) := by
  cases overlay with
  | createRoom name visibility => exact handleCreateRoomKey_safe sound key name visibility
  | joinRequests => exact handleJoinRequestsKey_safe sound open_ key
  | groupMembers => exact handleGroupMembersKey_safe sound open_ key
  | roomMembers => exact handleRoomMembersKey_safe sound open_ key
  | rotateTokens => exact handleRotateTokensKey_safe sound open_ key
  | issuedCredentials | rotatedToken => exact handleNoticeKey_safe sound key

/-! ### The panes -/

/-- An entry stays one when the maps only grow. -/
theorem Lists.mono {target : ConversationTarget} (listed : app.Lists target)
    (rooms : ∀ r ∈ app.rooms, r ∈ app'.rooms) (chats : ∀ p ∈ app.privateChats, p ∈ app'.privateChats) :
    app'.Lists target := by
  cases target with
  | room roomId => exact rooms roomId listed
  | privateChat peerId => exact chats peerId listed

/-- The views of rooms are replaced or added to. -/
theorem Sound.withRooms (sound : app.Sound) {rooms : Std.TreeMap String RoomView}
    (filed : Filed (fun room : RoomView => room.summary.roomId) rooms)
    (grow : ∀ r ∈ app.rooms, r ∈ rooms) : Sound { app with rooms } :=
  ⟨sound.active.mono grow fun _ mem => mem, filed, sound.chats, sound.overlay⟩

/-- The private chats are replaced or added to. -/
theorem Sound.withChats (sound : app.Sound) {privateChats : Std.TreeMap Uuid PrivateView}
    (filed : Filed (fun chat : PrivateView => chat.peer.sessionId) privateChats)
    (grow : ∀ p ∈ app.privateChats, p ∈ privateChats) :
    Sound { app with privateChats } :=
  ⟨sound.active.mono (fun _ mem => mem) grow, sound.rooms, filed, sound.overlay⟩

theorem Sound.modifyRoom (sound : app.Sound) (roomId : String) {change : RoomView → RoomView}
    (keeps : ∀ view, (change view).summary.roomId = view.summary.roomId) :
    Sound { app with rooms := app.rooms.modify roomId change } :=
  sound.withRooms (sound.rooms.modify keeps) fun _ mem => Std.TreeMap.mem_modify.2 mem

theorem Sound.modifyChat (sound : app.Sound) (peerId : Uuid) {change : PrivateView → PrivateView}
    (keeps : ∀ view, (change view).peer.sessionId = view.peer.sessionId) :
    Sound { app with privateChats := app.privateChats.modify peerId change } :=
  sound.withChats (sound.chats.modify keeps) fun _ mem => Std.TreeMap.mem_modify.2 mem

theorem Sound.sync (sound : app.Sound) : app.syncConversationSelection.Sound := by
  unfold syncConversationSelection
  split
  · exact sound.frame rfl rfl rfl sound.overlay
  · exact sound

theorem Sound.activate (sound : app.Sound) {target : ConversationTarget} (listed : app.Lists target) :
    (app.activate target).Sound := by
  cases target with
  | room roomId =>
    have opened : Sound { app with active := .room roomId, scrollFromBottom := 0 } :=
      ⟨listed, sound.rooms, sound.chats, sound.overlay⟩
    exact opened.modifyRoom roomId fun _ => rfl
  | privateChat peerId =>
    have opened : Sound { app with active := .privateChat peerId, scrollFromBottom := 0 } :=
      ⟨listed, sound.rooms, sound.chats, sound.overlay⟩
    exact opened.modifyChat peerId fun _ => rfl

theorem Sound.withFocus (sound : app.Sound) (focus : ChatFocus) : Sound { app with focus } :=
  sound.frame rfl rfl rfl sound.overlay

theorem Sound.clearActiveView (sound : app.Sound) : app.clearActiveView.Sound := by
  unfold ChatApp.clearActiveView
  split
  · next roomId _ =>
    have cleared : Sound { app with
        rooms := app.rooms.modify roomId fun room => { room with items := [] } } :=
      sound.modifyRoom roomId fun _ => rfl
    exact cleared.withStatus _
  · next peerId _ =>
    have cleared : Sound { app with
        privateChats := app.privateChats.modify peerId fun chat => { chat with items := [] } } :=
      sound.modifyChat peerId fun _ => rfl
    exact cleared.withStatus _

theorem prepareMessage_safe (sound : app.Sound) (draw : Uuid) : app.Safe (app.prepareMessage draw) := by
  unfold prepareMessage
  split
  · exact safe_notify sound _
  · split
    · split
      · exact safe_send sound trivial
      · exact safe_notify sound _
    · split
      · exact safe_stay sound
      · next chat found =>
        split
        · exact safe_notify sound _
        · split
          · exact safe_notify sound _
          · refine safe_send (sound.withChats ?_ ?_) trivial
            · exact sound.chats.insert (sound.chats _ chat found)
            · exact fun p mem => Std.TreeMap.mem_insert.2 (.inr mem)

theorem handleInputKey_safe (sound : app.Sound) (draw : Uuid) (key : KeyEvent) :
    app.Safe (app.handleInputKey draw key) := by
  have scrolled (scrollFromBottom : ℕ) : Sound { app with scrollFromBottom } :=
    sound.frame rfl rfl rfl sound.overlay
  unfold handleInputKey
  cases key.code with
  | enter =>
    simp only
    split
    · exact safe_stay sound
    · exact prepareMessage_safe sound draw
  | backspace => exact safe_stay (sound.frame rfl rfl rfl sound.overlay)
  | char ch =>
    simp only
    split
    · exact safe_stay (sound.frame rfl rfl rfl sound.overlay)
    · exact safe_stay sound
  | pageUp =>
    simp only
    split
    · exact safe_stay (scrolled _)
    · next roomId _ =>
      split
      · exact safe_stay (scrolled _)
      · next room found =>
        split
        · split
          · exact safe_stay (scrolled _)
          · have loading : Sound { app with
                rooms := app.rooms.insert roomId { room with loadingHistory := true } } :=
              sound.withRooms (sound.rooms.insert (sound.rooms roomId room found))
                fun r mem => Std.TreeMap.mem_insert.2 (.inr mem)
            refine safe_send ?_ trivial
            exact loading.frame rfl rfl rfl loading.overlay
        · exact safe_stay (scrolled _)
  | pageDown => exact safe_stay (scrolled _)
  | endKey => exact safe_stay (scrolled _)
  | _ => exact safe_stay sound

theorem handleConversationKey_safe (sound : app.Sound) (key : KeyEvent) :
    app.Safe (app.handleConversationKey key) := by
  have moved (selectedConversation : ℕ) : app.Safe (stay { app with selectedConversation }) :=
    safe_stay (sound.frame rfl rfl rfl sound.overlay)
  have entered {target : ConversationTarget}
      (row : app.conversationEntries[app.selectedConversation]? = some target) :
      app.Safe (stay { app.activate target with focus := .input }) :=
    safe_stay ((sound.activate (sound.lists_entries target (List.mem_of_getElem? row))).withFocus _)
  unfold handleConversationKey
  simp only
  split
  · exact moved _
  · exact moved _
  · exact moved _
  · exact moved _
  · exact safe_stay (sound.setOverlay trivial)
  · exact safe_stay (sound.setOverlay trivial)
  · split
    · exact safe_send sound trivial
    · exact safe_stay sound
  · split
    · exact safe_stay sound
    · next roomId row =>
      split
      · exact entered row
      · exact safe_send (sound.withStatus _) trivial
    · next peerId row => exact entered row
  · exact safe_stay sound

theorem handleMemberKey_safe (sound : app.Sound) (key : KeyEvent) : app.Safe (app.handleMemberKey key) := by
  have moved (selectedMember : ℕ) : app.Safe (stay { app with selectedMember }) :=
    safe_stay (sound.frame rfl rfl rfl sound.overlay)
  unfold handleMemberKey
  simp only
  split
  · exact moved _
  · exact moved _
  · exact moved _
  · exact moved _
  · split
    · exact safe_stay sound
    · next peerId nickname row =>
      let view : PrivateView :=
        { peer := { sessionId := peerId, memberId := ⟨0⟩, nickname, direct := none }
          items := [], status := none, unread := 0, online := true }
      have opened : Sound { app with privateChats := app.privateChats.insertIfNew peerId view } :=
        sound.withChats (sound.chats.insertIfNew rfl) fun p mem => Std.TreeMap.mem_insertIfNew.2 (.inr mem)
      have listed : Lists { app with privateChats := app.privateChats.insertIfNew peerId view }
          (.privateChat peerId) := Std.TreeMap.mem_insertIfNew_self
      have active := (opened.activate listed).sync
      exact safe_stay (active.frame rfl rfl rfl active.overlay)
  · exact safe_stay sound

theorem handlePaneKey_safe (sound : app.Sound) (draw : Uuid) (key : KeyEvent) :
    app.Safe (app.handlePaneKey draw key) := by
  unfold handlePaneKey
  extract_lets pane
  have focused : app.Safe pane := by
    unfold pane
    split
    · exact handleInputKey_safe sound draw key
    · exact handleConversationKey_safe sound key
    · exact handleMemberKey_safe sound key
  have empty {α : Type} (no : ([] : List α) ≠ []) : 0 < ([] : List α).length := absurd rfl no
  split
  · exact ⟨app, .back, rfl, sound, by simp⟩
  · exact safe_stay (sound.setOverlay trivial)
  · split
    · have loading : (app.setOverlay (.joinRequests [] 0 true)).Sound := sound.setOverlay empty
      exact safe_send (loading.withStatus _) trivial
    · exact focused
  · split
    · exact safe_notify sound _
    · split
      · next roomId _ _ =>
        have loading : (app.setOverlay (.roomMembers roomId [] 0 true 0 false)).Sound := sound.setOverlay empty
        exact safe_send loading trivial
      · exact safe_notify sound _
  · split
    · have loading : (app.setOverlay (.groupMembers [] 0 true 0 false)).Sound := sound.setOverlay empty
      exact safe_send loading trivial
    · exact focused
  · exact safe_stay (sound.setOverlay (tokenRotationChoices_pos _ _))
  · exact safe_stay (sound.withFocus _)
  · exact safe_stay (sound.withFocus _)
  · exact focused

/-- **A key on a sound screen.** -/
theorem handleKey_safe (sound : app.Sound) (draw : Uuid) (key : KeyEvent) :
    app.Safe (app.handleKey draw key) := by
  unfold handleKey
  split
  · next overlay open_ => exact handleOverlayKey_safe sound open_ key
  · split
    · exact ⟨_, _, rfl, sound.frame rfl rfl rfl sound.overlay, nofun⟩
    · unfold handleViewKey
      split
      · exact ⟨app, .quit, rfl, sound, nofun⟩
      · split
        · exact safe_stay sound.clearActiveView
        · split
          · exact safe_stay (sound.frame rfl rfl rfl sound.overlay)
          · split
            · split
              · exact ⟨app, .back, rfl, sound, nofun⟩
              · exact handleInputKey_safe sound draw key
            · exact handlePaneKey_safe sound draw key

theorem Sound.paste (sound : app.Sound) (raw : String) : (app.paste raw).Sound := by
  unfold ChatApp.paste
  simp only
  split
  · exact sound.setOverlay trivial
  · exact sound
  · split
    · split
      · exact sound.frame rfl rfl rfl sound.overlay
      · exact sound.withStatus _
    · exact sound

/-! ## Messages of the gateway -/

variable (app) in
/-- When the active room is left there is a room `general` to go back to, and it is not the
private room that is left. -/
def keepsActive : ServerMessage → Prop
  | .roomLeft roomId => app.active = .room roomId → ∃ general, app.rooms["general"]? = some general ∧
      (roomId = "general" → general.summary.visibility ≠ .isPrivate)
  | _ => True

theorem handleRoomLeft_sound (sound : app.Sound) {roomId : String} (keeps : app.keepsActive (.roomLeft roomId)) :
    (app.handleServerMessage (.roomLeft roomId)).Sound := by
  have isRoom : app.active = .room roomId → "general" ∈ app.rooms := by
    intro here
    obtain ⟨general, found, -⟩ := keeps here
    exact Std.TreeMap.mem_iff_isSome_getElem?.2 (by simp [found])
  simp only [handleServerMessage]
  split
  · next isPrivate =>
    refine ⟨?_, sound.rooms.erase, sound.chats, sound.overlay⟩
    show Lists _ (if app.active = .room roomId then _ else app.active)
    split
    · next here =>
      obtain ⟨general, found, visible⟩ := keeps here
      refine Std.TreeMap.mem_erase.2 ⟨fun same => ?_, isRoom here⟩
      have same := Std.LawfulEqOrd.eq_of_compare same
      rw [same, found] at isPrivate
      exact visible same (by simpa using isPrivate)
    · next apart =>
      have listed := sound.active
      cases target : app.active with
      | privateChat peerId =>
        rw [target] at listed
        exact listed
      | room other =>
        rw [target] at listed apart
        refine Std.TreeMap.mem_erase.2 ⟨fun same => apart ?_, listed⟩
        rw [Std.LawfulEqOrd.eq_of_compare same]
  · refine ⟨?_, sound.rooms.modify fun _ => rfl, sound.chats, sound.overlay⟩
    show Lists _ (if app.active = .room roomId then _ else app.active)
    split
    · next here => exact Std.TreeMap.mem_modify.2 (isRoom here)
    · exact sound.active.mono (fun _ mem => Std.TreeMap.mem_modify.2 mem) fun _ mem => mem

theorem handlePrivateMessage_sound (sound : app.Sound) (message : DirectRecord)
    (status : PrivateConversationStatus) : (app.handlePrivateMessage message status).Sound := by
  simp only [handlePrivateMessage]
  generalize apart : (if message.sender.sessionId = app.sessionId then message.recipientSessionId
    else message.sender.sessionId) = peerId
  generalize new : (if message.sender.sessionId = peerId then message.sender else _) = peer
  -- a chat that is opened is filed under its peer, and one that is there stays so
  have opened : peer.sessionId = peerId := by
    rw [← new]
    split
    · next same => exact same
    · rfl
  have filed : ∀ view : PrivateView, view.peer = (app.privateChats[peerId]?.getD
      { peer, items := [], status := none, unread := 0, online := true }).peer →
      view.peer.sessionId = peerId := by
    intro view kept
    rw [kept]
    cases found : app.privateChats[peerId]? with
    | none => exact opened
    | some chat => exact sound.chats peerId chat found
  refine Sound.sync ⟨?_, sound.rooms, sound.chats.insert (filed _ rfl), sound.overlay⟩
  exact sound.active.mono (fun _ mem => mem) fun p mem => Std.TreeMap.mem_insert.2 (.inr mem)

theorem pushRoomNotice_sound (sound : app.Sound) (roomId notice : String) :
    (app.pushRoomNotice roomId notice).Sound := sound.modifyRoom roomId fun _ => rfl

theorem closePrivate_sound (sound : app.Sound) (sessionId : Uuid) :
    Sound { app with privateChats := app.closePrivate sessionId } :=
  sound.modifyChat sessionId fun _ => rfl

/-- **A message on a sound screen.** -/
theorem handleServerMessage_sound (sound : app.Sound) {message : ServerMessage} (keeps : app.keepsActive message) :
    (app.handleServerMessage message).Sound := by
  have kept {α : Type} (selected : ℕ) {rows : List α} (some : rows ≠ []) :
      keepSelected selected rows.length < rows.length := by
    have := List.length_pos_iff.2 some
    unfold keepSelected
    omega
  cases message with
  | chat message => exact sound.modifyRoom message.roomId fun _ => rfl
  | roomCreated room =>
    have created : Sound { app with rooms := app.rooms.insertIfNew room.roomId (.new room false) } :=
      sound.withRooms (sound.rooms.insertIfNew rfl) fun r mem => Std.TreeMap.mem_insertIfNew.2 (.inr mem)
    simp only [handleServerMessage]
    split
    · exact created.withStatus _
    · exact created.sync.withStatus _
  | roomJoined room history =>
    have joined : Sound (syncConversationSelection { app with
        rooms := app.rooms.insert room.roomId
          { summary := room, joined := true, items := history.map .chat, unread := 0,
            hasMoreHistory := hasOlder (history.map .chat), loadingHistory := false }
        active := .room room.roomId }) :=
      Sound.sync ⟨Std.TreeMap.mem_insert_self, sound.rooms.insert rfl, sound.chats, sound.overlay⟩
    exact joined.frame rfl rfl rfl joined.overlay
  | roomLeft roomId => exact handleRoomLeft_sound sound keeps
  | historyPage roomId messages hasMore =>
    simp only [handleServerMessage]
    split
    · exact sound
    · next room found =>
      refine ⟨sound.active.mono (fun r mem => Std.TreeMap.mem_insert.2 (.inr mem)) fun _ mem => mem,
        sound.rooms.insert (sound.rooms roomId room found), sound.chats, sound.overlay⟩
  | joinRequests requests =>
    refine sound.frame rfl rfl rfl fun overlay same => ?_
    rw [← Option.some.inj same]
    exact kept _
  | groupMembers members offset hasMore =>
    refine sound.frame rfl rfl rfl fun overlay same => ?_
    rw [← Option.some.inj same]
    exact kept _
  | roomMembers roomId members offset hasMore =>
    refine sound.frame rfl rfl rfl fun overlay same => ?_
    rw [← Option.some.inj same]
    exact kept _
  | groupTokenRotated kind token =>
    refine sound.frame rfl rfl rfl fun overlay same => ?_
    rw [← Option.some.inj same]
    trivial
  | privateMessage message status => exact handlePrivateMessage_sound sound message status
  | privateClosed peerSessionId => exact (closePrivate_sound sound peerSessionId).withStatus _
  | memberJoined member =>
    have joined : Sound { app with members := app.members.insert member.sessionId member.nickname } :=
      sound.frame rfl rfl rfl sound.overlay
    exact pushRoomNotice_sound joined _ _
  | memberLeft sessionId =>
    have shown : ∀ {app' : ChatApp}, app'.Sound → ∀ selectedMember,
        Sound { app' with privateChats := app'.closePrivate sessionId, selectedMember } := by
      intro app' sound selectedMember
      have closed := closePrivate_sound sound sessionId
      exact closed.frame rfl rfl rfl closed.overlay
    simp only [handleServerMessage]
    split
    · next nickname _ =>
      have left : Sound { app with members := app.members.erase sessionId } :=
        sound.frame rfl rfl rfl sound.overlay
      exact shown (pushRoomNotice_sound left _ _) _
    · exact shown sound _
  | error code text =>
    refine sound.frame rfl rfl rfl fun overlay same => ?_
    obtain ⟨old, open_, rfl⟩ := Option.map_eq_some_iff.1 same
    have inRange := sound.overlay old open_
    cases old <;> exact inRange
  | pong | welcome | gatewayWelcome | joinPending => exact sound.withStatus _

/-- Without that room the view is left with no entry to show. -/
theorem keepsActive_of_sound {message : ServerMessage} (after : (app.handleServerMessage message).Sound) :
    app.keepsActive message := by
  cases message with
  | roomLeft roomId =>
    intro here
    have active := after.active
    simp only [handleServerMessage, here, if_true] at active
    split at active
    · next isPrivate =>
      obtain ⟨apart, listed⟩ := Std.TreeMap.mem_erase.1 active
      obtain ⟨general, found⟩ := Option.isSome_iff_exists.1 (Std.TreeMap.mem_iff_isSome_getElem?.1 listed)
      exact ⟨general, found, fun same => absurd (Std.LawfulEqOrd.compare_eq_iff_eq.2 same) apart⟩
    · next visible =>
      have listed : "general" ∈ app.rooms := Std.TreeMap.mem_modify.1 active
      obtain ⟨general, found⟩ := Option.isSome_iff_exists.1 (Std.TreeMap.mem_iff_isSome_getElem?.1 listed)
      refine ⟨general, found, fun same hidden => visible ?_⟩
      rw [same, found]
      simpa using hidden
  | _ => trivial

theorem handleServerMessage_sound_iff (sound : app.Sound) {message : ServerMessage} :
    (app.handleServerMessage message).Sound ↔ app.keepsActive message :=
  ⟨keepsActive_of_sound, handleServerMessage_sound sound⟩

/-! ## Runs -/

theorem sound_new (session : Welcome) : (new session).Sound := by
  have listed : ∀ (summaries : List RoomSummary) (rooms : Std.TreeMap String RoomView),
      Filed (fun room : RoomView => room.summary.roomId) rooms →
      Filed (fun room : RoomView => room.summary.roomId) (summaries.foldl (fun (rooms : Std.TreeMap String RoomView) summary =>
        rooms.insert summary.roomId (RoomView.new summary (summary.roomId = session.roomId))) rooms) := by
    intro summaries
    induction summaries with
    | nil => exact fun rooms filed => filed
    | cons summary summaries ih => exact fun rooms filed => ih _ (filed.insert rfl)
  refine Sound.sync ⟨?_, ?_, .empty, ?_⟩
  · exact Std.TreeMap.mem_modify.2 Std.TreeMap.mem_insertIfNew_self
  · refine Filed.modify (Filed.insertIfNew (listed session.rooms ∅ .empty) ?_) fun view => ?_
    · rfl
    · rfl
  · intro overlay open_
    obtain ⟨credentials, -, rfl⟩ := Option.map_eq_some_iff.1 open_
    trivial

end

end ChatApp

/-- What the loop of `run_chat` reads. A request is refused by a full or closed queue, with its
error. -/
inductive ViewEvent where
  | server (raw : ServerMessage)
  | disconnected (reason : String)
  | key (draw : Uuid) (event : KeyEvent) (refused : Option String)
  | paste (raw : String)

namespace ChatApp

/-- One turn of `run_chat`, `none` if the loop is over: a message the client does not accept
ends the connection, and a lookup that finds nothing the program. -/
def turn (app : ChatApp) : ViewEvent → Option ChatApp
  | .server raw => match sanitizeServerMessage raw with
    | .ok message => some (app.handleServerEvent (.server message))
    | .error _ => none
  | .disconnected reason => some (app.handleServerEvent (.disconnected reason))
  | .key draw event refused => do
    let (app, action) ← app.handleKey draw event
    match action, refused with
    | .none, _ => some app
    | .send _, none => some { app with input := "", status := "已发送" }
    | .send _, some error => some { app with status := "发送失败：" ++ error }
    | .back, _ | .quit, _ => none
  | .paste raw => some (app.paste raw)

/-- When the gateway makes the view leave its active room, there is one to go back to. -/
def canFallBack (app : ChatApp) : ViewEvent → Prop
  | .server raw => ∀ message, sanitizeServerMessage raw = .ok message → app.keepsActive message
  | _ => True

theorem sound_turn {app app' : ChatApp} {event : ViewEvent} (sound : app.Sound) (falls : app.canFallBack event)
    (h : app.turn event = some app') : app'.Sound := by
  cases event with
  | server raw =>
    simp only [turn] at h
    split at h
    · next message accepted =>
      rw [← Option.some.inj h]
      exact (handleServerMessage_sound_iff sound).2 (falls message accepted)
    · cases h
  | disconnected reason =>
    rw [← Option.some.inj h]
    exact sound.frame rfl rfl rfl sound.overlay
  | key draw event refused =>
    obtain ⟨after, action, answered, next, -⟩ := handleKey_safe sound draw event
    simp only [turn, answered, Option.bind_eq_bind, Option.bind_some] at h
    split at h
    · exact Option.some.inj h ▸ next
    · rw [← Option.some.inj h]
      exact next.frame rfl rfl rfl next.overlay
    · rw [← Option.some.inj h]
      exact next.withStatus _
    · cases h
    · cases h
  | paste raw =>
    rw [← Option.some.inj h]
    exact sound.paste raw

/-- A group whose first room is not `general`. -/
def lobbyWelcome : Welcome :=
  { protocolVersion := protocolMax, groupId := ⟨10⟩, groupName := "team", accessMode := .isPublic
    role := .member, issuedCredentials := none, issuedMemberToken := none, roomId := "lobby"
    roomName := "lobby", rooms := [], sessionId := ⟨20⟩, members := [⟨⟨20⟩, ⟨11⟩, "Ana", none⟩]
    history := [] }

/-- **What no gateway can do to the view**, in every run in which each room the view has to leave
has a room to go back to: what is active and what is listed has an entry, an overlay selects one of
its rows, drawing finds everything it looks up, and every key is answered, with requests about the
row drawn as selected. -/
theorem view_stays_sound (session : Welcome) {events : List ViewEvent} {app : ChatApp}
    (run : Run turn canFallBack (.new session) events app) :
    app.Lists app.active ∧ (∀ target ∈ app.conversationEntries, app.Lists target) ∧
    (∀ overlay ∈ app.overlay, overlay.InRange (tokenRotationChoices app.role app.accessMode)) ∧
    app.renderActiveMessages.isSome = true ∧ app.renderConversations.isSome = true ∧
    ∀ draw key, ∃ after action, app.handleKey draw key = some (after, action) ∧
      ∀ message, action = .send message → app.Names message := by
  have sound : app.Sound :=
    run.preserves (fun _ _ _ sound falls taken => sound_turn sound falls taken) (sound_new session)
  refine ⟨sound.active, sound.lists_entries, sound.overlay, sound.renderActiveMessages,
    sound.renderConversations, fun draw key => ?_⟩
  obtain ⟨after, action, answered, -, names⟩ := handleKey_safe sound draw key
  exact ⟨after, action, answered, names⟩

def hall : RoomSummary := ⟨"general", "general", .isPublic⟩

/-- The view of that group, left for `general`, which has been created before. -/
def generalView : ChatApp :=
  ((ChatApp.new lobbyWelcome).handleServerMessage (.roomCreated hall)).handleServerMessage (.roomLeft "lobby")

theorem view_stays_sound_general :
    generalView.renderActiveMessages.isSome = true ∧ generalView.renderConversations.isSome = true := by
  have accepted :
      sanitizeServerMessage (.roomCreated hall) = .ok (.roomCreated hall) ∧
      sanitizeServerMessage (.roomLeft "lobby") = .ok (.roomLeft "lobby") := by
    decide +kernel
  have created : (ChatApp.new lobbyWelcome).turn (.server (.roomCreated hall)) =
      some ((ChatApp.new lobbyWelcome).handleServerMessage (.roomCreated hall)) := by
    simp only [turn, accepted.1]
    rfl
  have left : ((ChatApp.new lobbyWelcome).handleServerMessage
      (.roomCreated hall)).turn (.server (.roomLeft "lobby")) = some generalView := by
    simp only [turn, accepted.2]
    rfl
  have general : (((ChatApp.new lobbyWelcome).handleServerMessage
      (.roomCreated hall)).rooms["general"]?).isSome = true := by
    decide +kernel
  obtain ⟨view, found⟩ := Option.isSome_iff_exists.1 general
  have run : Run turn canFallBack (.new lobbyWelcome)
      [.server (.roomCreated hall), .server (.roomLeft "lobby")] generalView := by
    refine .cons ?_ created (.cons ?_ left (.nil _))
    · intro message sanitized
      rw [accepted.1] at sanitized
      cases sanitized
      trivial
    · intro message sanitized
      rw [accepted.2] at sanitized
      cases sanitized
      exact fun _ => ⟨view, found, fun same => absurd same (by decide)⟩
  obtain ⟨-, -, -, active, listed, -⟩ := view_stays_sound lobbyWelcome run
  exact ⟨active, listed⟩

/-- The gateway makes the view leave its only room. -/
theorem view_panics : sanitizeServerMessage (.welcome lobbyWelcome) = .ok (.welcome lobbyWelcome) ∧
    ∃ app, Run turn anyAction (.new lobbyWelcome) [.server (.roomLeft "lobby")] app ∧
      app.renderActiveMessages = none := by
  have accepted : sanitizeServerMessage (.welcome lobbyWelcome) = .ok (.welcome lobbyWelcome) ∧
      sanitizeServerMessage (.roomLeft "lobby") = .ok (.roomLeft "lobby") := by
    decide +kernel
  have left : (ChatApp.new lobbyWelcome).turn (.server (.roomLeft "lobby")) =
      some ((ChatApp.new lobbyWelcome).handleServerMessage (.roomLeft "lobby")) := by
    simp only [turn, accepted.2]
    rfl
  refine ⟨accepted.1, _, .cons trivial left (.nil _), ?_⟩
  have drawn : ((ChatApp.new lobbyWelcome).handleServerMessage (.roomLeft "lobby")).renderActiveMessages.isNone =
      true := by
    decide +kernel
  exact Option.isNone_iff_eq_none.1 drawn

end ChatApp

end LanChat
