import LanChat.Storage.Store
import Mathlib.Data.List.Induction

/-!
# Runs of store operations

Every public operation of the store as one value with its arguments and
draws, its reply, and the run of a list of operations with the trace of
replies a caller has seen.
-/

namespace LanChat

inductive StoreOp where
  | gatewayId (draw : Draw)
  | listGroups
  | createGroup (groupName : String) (draw : Draw)
  | createGroupWithAccess (groupName : String) (accessMode : GroupAccessMode) (draw : Draw)
  | group (groupId : Uuid)
  | authorizeJoin (groupId : Uuid) (credential : Option String) (nickname : String) (draw : Draw)
  | createJoinRequest (groupId : Uuid) (nickname : String) (draw : Draw)
  | updateMemberNickname (groupId memberId : Uuid) (nickname : String)
  | pendingJoinRequests (groupId : Uuid)
  | decideJoinRequest (groupId requestId : Uuid) (approve : Bool)
  | rooms (groupId : Uuid)
  | createRoom (groupId : Uuid) (roomName : String) (draw : Draw)
  | roomsForMember (groupId memberId : Uuid)
  | createRoomWithVisibility (groupId : Uuid) (roomName : String) (visibility : RoomVisibility)
      (creatorMemberId : Option Uuid) (draw : Draw)
  | memberCanAccessRoom (groupId : Uuid) (roomId : String) (memberId : Uuid)
  | groupMembers (groupId : Uuid) (offset : ℕ)
  | setMemberBanned (groupId memberId : Uuid) (banned : Bool)
  | rotateGroupToken (groupId actorMemberId : Uuid) (kind : GroupTokenKind) (draw : Draw)
  | roomMembers (groupId : Uuid) (roomId : String) (offset : ℕ)
  | memberCanManageRoom (groupId : Uuid) (roomId : String) (actorMemberId : Uuid)
      (actorRole : GroupRole)
  | setRoomMember (groupId : Uuid) (roomId : String) (actorMemberId : Uuid) (actorRole : GroupRole)
      (targetMemberId : Uuid) (included : Bool)
  | appendMessage (groupId : Uuid) (roomId : String) (messageId : Uuid) (sender : Peer)
      (sentAtMs : ℕ) (text : String) (draw : Draw)
  | history (groupId : Uuid) (roomId : String) (limit : ℕ)
  | historyBefore (groupId : Uuid) (roomId : String) (beforeSequence limit : ℕ)

inductive StoreReply where
  | failed (error : StoreError)
  | done
  | id (id : Uuid)
  | flag (value : Bool)
  | token (token : String)
  | group (group : Option GroupSummary)
  | groups (groups : List GroupSummary)
  | created (created : CreatedGroup)
  | authorization (authorization : JoinAuthorization)
  | request (requestId : Uuid) (requestToken : String)
  | requests (requests : List JoinRequestSummary)
  | room (room : RoomSummary)
  | rooms (rooms : List RoomSummary)
  | members (page : List GroupMemberSummary) (hasMore : Bool)
  | roomMembers (page : List RoomMemberSummary) (hasMore : Bool)
  | record (record : ChatRecord)
  | records (records : List ChatRecord)

namespace GatewayStore

/-- A failed operation leaves the store as it was. -/
def settle {α : Type} (store : GatewayStore) (reply : α → StoreReply)
    (result : Except StoreError (α × GatewayStore)) : StoreReply × GatewayStore :=
  match result with
  | .error error => (.failed error, store)
  | .ok (a, store') => (reply a, store')

/-- The reply of a query. -/
def answer {α : Type} (reply : α → StoreReply) (result : Except StoreError α) : StoreReply :=
  match result with
  | .error error => .failed error
  | .ok a => reply a

def perform (prims : Primitives) (store : GatewayStore) : StoreOp → StoreReply × GatewayStore
  | .gatewayId draw => let (id, store') := store.gatewayId draw; (.id id, store')
  | .listGroups => (.groups store.listGroups, store)
  | .createGroup name draw =>
    store.settle (fun group => .group (some group)) (store.createGroup prims name draw)
  | .createGroupWithAccess name mode draw =>
    store.settle .created (store.createGroupWithAccess prims name mode draw)
  | .group groupId => (.group (store.group groupId), store)
  | .authorizeJoin groupId credential nickname draw =>
    store.settle .authorization (store.authorizeJoin prims groupId credential nickname draw)
  | .createJoinRequest groupId nickname draw =>
    store.settle (fun (id, token) => .request id token)
      (store.createJoinRequest prims groupId nickname draw)
  | .updateMemberNickname groupId memberId nickname =>
    store.settle (fun _ => .done)
      ((store.updateMemberNickname groupId memberId nickname).map ((), ·))
  | .pendingJoinRequests groupId => (.requests (store.pendingJoinRequests groupId), store)
  | .decideJoinRequest groupId requestId approve =>
    let (changed, store') := store.decideJoinRequest groupId requestId approve
    (.flag changed, store')
  | .rooms groupId => (.rooms (store.roomsOf groupId), store)
  | .createRoom groupId name draw => store.settle .room (store.createRoom groupId name draw)
  | .roomsForMember groupId memberId => (.rooms (store.roomsForMember groupId memberId), store)
  | .createRoomWithVisibility groupId name visibility creator draw =>
    store.settle .room (store.createRoomWithVisibility groupId name visibility creator draw)
  | .memberCanAccessRoom groupId roomId memberId =>
    (.flag (store.memberCanAccessRoom groupId roomId memberId), store)
  | .groupMembers groupId offset =>
    let (page, hasMore) := store.groupMembersPage groupId offset
    (.members page hasMore, store)
  | .setMemberBanned groupId memberId banned =>
    let (changed, store') := store.setMemberBanned groupId memberId banned
    (.flag changed, store')
  | .rotateGroupToken groupId actor kind draw =>
    store.settle .token (store.rotateGroupToken prims groupId actor kind draw)
  | .roomMembers groupId roomId offset =>
    (answer (fun (page, hasMore) => .roomMembers page hasMore)
      (store.roomMembersPage groupId roomId offset), store)
  | .memberCanManageRoom groupId roomId actor role =>
    (.flag (store.memberCanManageRoom groupId roomId actor role), store)
  | .setRoomMember groupId roomId actor role target included =>
    store.settle .flag (store.setRoomMember groupId roomId actor role target included)
  | .appendMessage groupId roomId messageId sender sentAtMs text draw =>
    store.settle .record
      (store.appendMessage prims groupId roomId messageId sender sentAtMs text draw)
  | .history groupId roomId limit =>
    (answer .records (store.history prims groupId roomId limit), store)
  | .historyBefore groupId roomId before limit =>
    (answer .records (store.historyBefore prims groupId roomId before limit), store)

/-- The store after a list of operations, and the trace of their replies. -/
def performAll (prims : Primitives) (store : GatewayStore) :
    List StoreOp → List (StoreOp × StoreReply) × GatewayStore
  | [] => ([], store)
  | op :: ops =>
    let (reply, store') := store.perform prims op
    let (trace, last) := performAll prims store' ops
    ((op, reply) :: trace, last)

variable {prims : Primitives} {store : GatewayStore}

theorem performAll_append (ops later : List StoreOp) :
    (store.performAll prims (ops ++ later)).2 =
      ((store.performAll prims ops).2.performAll prims later).2 := by
  induction ops generalizing store with
  | nil => rfl
  | cons first ops ih => exact ih

theorem performAll_concat (ops : List StoreOp) (op : StoreOp) :
    store.performAll prims (ops ++ [op]) =
      let run := store.performAll prims ops
      (run.1 ++ [(op, (run.2.perform prims op).1)], (run.2.perform prims op).2) := by
  induction ops generalizing store with
  | nil => rfl
  | cons first ops ih => simp only [List.cons_append, performAll, ih]

/-- **The run rule**: what holds before the first operation and after every
operation that follows, holds after a run. -/
theorem performAll_induction {motive : List StoreOp → List (StoreOp × StoreReply) → GatewayStore → Prop}
    (nil : motive [] [] store)
    (concat : ∀ ops op, motive ops (store.performAll prims ops).1 (store.performAll prims ops).2 →
      let run := store.performAll prims ops
      motive (ops ++ [op]) (run.1 ++ [(op, (run.2.perform prims op).1)]) (run.2.perform prims op).2)
    (ops : List StoreOp) :
    motive ops (store.performAll prims ops).1 (store.performAll prims ops).2 := by
  induction ops using List.reverseRecOn with
  | nil => exact nil
  | append_singleton ops op ih =>
    rw [performAll_concat]
    exact concat ops op ih

end GatewayStore

end LanChat
