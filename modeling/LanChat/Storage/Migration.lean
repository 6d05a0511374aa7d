import LanChat.Storage.Rooms

/-!
# Databases of version 2

The tables of schema version 2 and their migration: every room becomes public,
every message gets the nil sender, and the two tables of memberships are empty.
-/

namespace LanChat

structure RoomRowTwo where
  roomId : String
  groupId : Uuid
  name : String
  nextSequence : ℕ
deriving DecidableEq, Repr

structure MessageRowTwo where
  messageId : Uuid
  groupId : Uuid
  roomId : String
  sequence : ℕ
  senderSessionId : Uuid
  senderNickname : String
  sentAtMs : ℕ
  encryptedBody : List UInt8
deriving DecidableEq, Repr

/-- A database of schema version 2 and its key. -/
structure VersionTwo where
  key : BitVec 256
  gatewayMeta : Option Uuid
  groups : List GroupRow
  rooms : List RoomRowTwo
  groupMessages : List MessageRowTwo
  joinRequests : List JoinRequestRow
deriving DecidableEq, Repr

/-- `DEFAULT 'public'`. -/
def RoomRowTwo.migrate (row : RoomRowTwo) : RoomRow :=
  { roomId := row.roomId, groupId := row.groupId, name := row.name, visibility := .isPublic,
    nextSequence := row.nextSequence }

/-- `DEFAULT '00000000-0000-0000-0000-000000000000'`. -/
def MessageRowTwo.migrate (row : MessageRowTwo) : MessageRow :=
  { messageId := row.messageId, groupId := row.groupId, roomId := row.roomId, sequence := row.sequence,
    senderSessionId := row.senderSessionId, senderMemberId := ⟨0⟩,
    senderNickname := row.senderNickname, sentAtMs := row.sentAtMs, encryptedBody := row.encryptedBody }

/-- The `version == 2` branch of `initialize_schema`. -/
def VersionTwo.migrate (v : VersionTwo) : GatewayStore :=
  { key := v.key, gatewayMeta := v.gatewayMeta, groups := v.groups,
    rooms := v.rooms.map RoomRowTwo.migrate, groupMessages := v.groupMessages.map MessageRowTwo.migrate,
    joinRequests := v.joinRequests, groupMembers := [], roomMembers := [] }

/-- A store before its first operation: new, or migrated from version 2. -/
inductive Opened : GatewayStore → Prop where
  | created (key : BitVec 256) : Opened (.empty key)
  | migrated (v : VersionTwo) (unique : v.migrate.GroupIdsUnique) : Opened v.migrate

namespace Opened

variable {store : GatewayStore}

theorem groupMembers (opened : Opened store) : store.groupMembers = [] := by
  cases opened <;> rfl

theorem roomMembers (opened : Opened store) : store.roomMembers = [] := by
  cases opened <;> rfl

theorem groupIdsUnique (opened : Opened store) : store.GroupIdsUnique := by
  cases opened with
  | created key => exact List.nodup_nil
  | migrated v unique => exact unique

end Opened

end LanChat
