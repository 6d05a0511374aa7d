import LanChat.Base.Fallible
import LanChat.Base.Table
import LanChat.Security

/-!
# The gateway's database

The tables of schema version 3 with the constraints SQLite enforces on an
insertion, and the credentials and encrypted bodies kept in them. Timestamps
that no query reads (`created_at_ms`, `updated_at_ms`, `added_at_ms`) are left
out. Ids are kept as `Uuid`s: their text form is injective and sorts as they do.
-/

namespace LanChat

def maxPendingJoinRequests : ℕ := 256
def joinRequestPageSize : ℕ := 100
def memberPageSize : ℕ := 40
def maxGroupMembers : ℕ := 10000
def encryptedBodyVersion : UInt8 := 1
def nonceLength : ℕ := 24

/-- Why a store call returned `Err`. -/
inductive StoreError where
  | bail (text : String)
  | constraint
  | noRows
deriving DecidableEq, Repr

/-- `bail!` with `text` unless `check` passes. -/
def ensure (check : Bool) (text : String) : Except StoreError Unit :=
  if check then .ok () else .error (.bail text)

theorem ensure_eq_ok {check : Bool} {text : String} {u : Unit} :
    ensure check text = .ok u ↔ check = true := by
  cases check <;> simp [ensure]

export Fallible (bind_eq_ok ok_bind forall₂_of_mapM)

/-! ## Rows -/

inductive JoinRequestStatus where
  | pending
  | approved
  | rejected
deriving DecidableEq, Repr

inductive RoomRole where
  | owner
  | member
deriving DecidableEq, Repr

structure GroupRow where
  groupId : Uuid
  name : String
  accessMode : GroupAccessMode
  adminTokenHash : Option (List UInt8)
  inviteTokenHash : Option (List UInt8)
deriving DecidableEq, Repr

structure RoomRow where
  roomId : String
  groupId : Uuid
  name : String
  visibility : RoomVisibility
  nextSequence : ℕ
deriving DecidableEq, Repr

structure MessageRow where
  messageId : Uuid
  groupId : Uuid
  roomId : String
  sequence : ℕ
  senderSessionId : Uuid
  senderMemberId : Uuid
  senderNickname : String
  sentAtMs : ℕ
  encryptedBody : List UInt8
deriving DecidableEq, Repr

structure JoinRequestRow where
  requestId : Uuid
  groupId : Uuid
  nickname : String
  requestTokenHash : List UInt8
  status : JoinRequestStatus
  requestedAtMs : ℕ
deriving DecidableEq, Repr

structure MemberRow where
  memberId : Uuid
  groupId : Uuid
  credentialHash : List UInt8
  role : GroupRole
  status : GroupMemberStatus
  lastNickname : String
deriving DecidableEq, Repr

structure RoomMemberRow where
  groupId : Uuid
  roomId : String
  memberId : Uuid
  role : RoomRole
deriving DecidableEq, Repr

/-- `PRIMARY KEY(group_id, room_id, member_id)`. -/
def RoomMemberRow.key (row : RoomMemberRow) : Uuid × String × Uuid :=
  (row.groupId, row.roomId, row.memberId)

/-- The database and the key of its message bodies. -/
structure GatewayStore where
  key : BitVec 256
  gatewayMeta : Option Uuid
  groups : List GroupRow
  rooms : List RoomRow
  groupMessages : List MessageRow
  joinRequests : List JoinRequestRow
  groupMembers : List MemberRow
  roomMembers : List RoomMemberRow
deriving DecidableEq, Repr

/-- A database that `initialize_schema` has just created. -/
def GatewayStore.empty (key : BitVec 256) : GatewayStore :=
  { key, gatewayMeta := none, groups := [], rooms := [], groupMessages := [], joinRequests := [],
    groupMembers := [], roomMembers := [] }

/-- What compares equal under `COLLATE NOCASE`, which folds ASCII only, and
the order it sorts by. -/
def nocase (text : String) : List ℕ := text.toList.map fun ch => ch.toLower.toNat

def Uuid.key (id : Uuid) : ℕ := id.bits.toNat

namespace GatewayStore

variable (store : GatewayStore)

def hasGroup (groupId : Uuid) : Bool := store.groups.any (·.groupId == groupId)

def hasRoom (groupId : Uuid) (roomId : String) : Bool :=
  store.rooms.any fun room => room.groupId == groupId && room.roomId == roomId

def findGroup (groupId : Uuid) : Option GroupRow := store.groups.find? (·.groupId == groupId)

def findRoom (groupId : Uuid) (roomId : String) : Option RoomRow :=
  store.rooms.find? fun room => room.groupId == groupId && room.roomId == roomId

def findMember (groupId memberId : Uuid) : Option MemberRow :=
  store.groupMembers.find? fun m => m.groupId == groupId && m.memberId == memberId

/-- The hash a membership is found by. -/
def memberHash (groupId memberId : Uuid) : List UInt8 :=
  ((store.findMember groupId memberId).map (·.credentialHash)).getD []

/-! ### Insertions, with the constraints of their table -/

def insertGroup (row : GroupRow) : Except StoreError GatewayStore :=
  if store.groups.any fun g => g.groupId == row.groupId || nocase g.name == nocase row.name then
    .error .constraint
  else .ok { store with groups := store.groups ++ [row] }

def insertRoom (row : RoomRow) : Except StoreError GatewayStore :=
  if !store.hasGroup row.groupId || (store.rooms.any fun r =>
      r.groupId == row.groupId && (r.roomId == row.roomId || r.name == row.name)) then
    .error .constraint
  else .ok { store with rooms := store.rooms ++ [row] }

def insertMessage (row : MessageRow) : Except StoreError GatewayStore :=
  if !store.hasRoom row.groupId row.roomId || (store.groupMessages.any fun m =>
      m.messageId == row.messageId ||
        (m.groupId == row.groupId && m.roomId == row.roomId && m.sequence == row.sequence)) then
    .error .constraint
  else .ok { store with groupMessages := store.groupMessages ++ [row] }

def insertJoinRequest (row : JoinRequestRow) : Except StoreError GatewayStore :=
  if !store.hasGroup row.groupId || (store.joinRequests.any fun r => r.requestId == row.requestId ||
      (r.groupId == row.groupId && r.requestTokenHash == row.requestTokenHash)) then
    .error .constraint
  else .ok { store with joinRequests := store.joinRequests ++ [row] }

def insertMember (row : MemberRow) : Except StoreError GatewayStore :=
  if !store.hasGroup row.groupId || (store.groupMembers.any fun m => m.memberId == row.memberId ||
      (m.groupId == row.groupId && m.credentialHash == row.credentialHash)) then
    .error .constraint
  else .ok { store with groupMembers := store.groupMembers ++ [row] }

def insertRoomMember (row : RoomMemberRow) : Except StoreError GatewayStore :=
  if !store.hasRoom row.groupId row.roomId ||
      !(store.groupMembers.any (·.memberId == row.memberId)) ||
      (store.roomMembers.any fun m =>
        m.groupId == row.groupId && m.roomId == row.roomId && m.memberId == row.memberId) then
    .error .constraint
  else .ok { store with roomMembers := store.roomMembers ++ [row] }

/-- `UPDATE group_members SET credential_hash`, under `UNIQUE(group_id,
credential_hash)`. -/
def updateCredentialHash (groupId : Uuid) (hash : List UInt8) (selects : MemberRow → Bool) :
    Except StoreError GatewayStore :=
  if store.groupMembers.any selects && (store.groupMembers.any fun m =>
      !selects m && m.groupId == groupId && m.credentialHash == hash) then
    .error .constraint
  else
    let change (m : MemberRow) : MemberRow := { m with credentialHash := hash }
    .ok { store with groupMembers := Table.updateWhere selects change store.groupMembers }

end GatewayStore

/-! ## Credentials and message bodies -/

/-- The hash and the cipher of the store, which are third-party code: BLAKE3 of
a byte string, and XChaCha20-Poly1305 under a key with a nonce, associated data
and a message. -/
structure Primitives where
  blake3 : List UInt8 → List UInt8
  encrypt : BitVec 256 → List UInt8 → List UInt8 → List UInt8 → Option (List UInt8)
  decrypt : BitVec 256 → List UInt8 → List UInt8 → List UInt8 → Option (List UInt8)

/-- Decrypting undoes encrypting, and a ciphertext is its message and a tag. -/
structure AeadCorrect (prims : Primitives) : Prop where
  decrypts : ∀ key nonce aad msg cipher, nonce.length = nonceLength →
    prims.encrypt key nonce aad msg = some cipher → prims.decrypt key nonce aad cipher = some msg
  tagged : ∀ key nonce aad msg cipher, prims.encrypt key nonce aad msg = some cipher →
    cipher.length = msg.length + 16

/-- The values an operation draws: two ids, two random strings, a nonce and
the milliseconds since the epoch. -/
structure Draw where
  id : Uuid
  id₂ : Uuid
  random : BitVec 256
  random₂ : BitVec 256
  nonce : BitVec 192
  millis : ℕ
deriving DecidableEq, Repr

def Draw.nowMs (draw : Draw) : ℕ := min draw.millis u64Max
def Draw.nowMsI64 (draw : Draw) : ℕ := min draw.millis i64Max

/-- `String::as_bytes` and `String::from_utf8`. -/
def utf8Encode (text : String) : List UInt8 := text.toByteArray.data.toList
def utf8Decode (bytes : List UInt8) : Option String := String.fromUTF8? ⟨bytes.toArray⟩

@[simp] theorem utf8Decode_encode (text : String) : utf8Decode (utf8Encode text) = some text := by
  have valid := text.isValidUTF8
  simp [utf8Decode, utf8Encode, String.fromUTF8?, String.fromUTF8, valid]

def generateCredential (kind : String) (random : BitVec 256) : String :=
  String.ofList ("lc_".toList ++ kind.toList ++ "_".toList ++ hexDigits 64 random.toNat)

def tokenHash (prims : Primitives) (token : String) : List UInt8 := prims.blake3 (utf8Encode token)

def credentialHash (prims : Primitives) (credential : String) : Except StoreError (List UInt8) :=
  if isValidGroupCredential credential then .ok (tokenHash prims credential)
  else .error (.bail "group credential has an invalid format")

/-- `.map(credential_hash).transpose()`. -/
def optionalHash (prims : Primitives) : Option String → Except StoreError (Option (List UInt8))
  | none => .ok none
  | some credential => (credentialHash prims credential).map some

/-- `sequence.to_be_bytes()` closes the associated data of a body. -/
def messageAad (groupId : Uuid) (roomId : String) (messageId : Uuid) (sequence : ℕ) : List UInt8 :=
  groupId.asBytes ++ utf8Encode roomId ++ messageId.asBytes ++ bigEndian 8 sequence

def encryptBody (prims : Primitives) (key : BitVec 256) (groupId : Uuid) (roomId : String)
    (messageId : Uuid) (sequence : ℕ) (plaintext : List UInt8) (draw : Draw) :
    Except StoreError (List UInt8) :=
  let nonce := bigEndian nonceLength draw.nonce.toNat
  match prims.encrypt key nonce (messageAad groupId roomId messageId sequence) plaintext with
  | none => .error (.bail "failed to encrypt a stored group message")
  | some ciphertext => .ok (encryptedBodyVersion :: (nonce ++ ciphertext))

def decryptBody (prims : Primitives) (key : BitVec 256) (groupId : Uuid) (roomId : String)
    (messageId : Uuid) (sequence : ℕ) (encoded : List UInt8) : Except StoreError (List UInt8) :=
  if encoded.length ≤ 1 + nonceLength || encoded.head? != some encryptedBodyVersion then
    .error (.bail "stored message has an unsupported encrypted body format")
  else
    let nonce := (encoded.drop 1).take nonceLength
    let ciphertext := (encoded.drop 1).drop nonceLength
    match prims.decrypt key nonce (messageAad groupId roomId messageId sequence) ciphertext with
    | none => .error (.bail "stored message authentication failed")
    | some plaintext => .ok plaintext

/-- An encrypted body decrypts, under the identifiers it was encrypted with. -/
theorem decryptBody_encryptBody {prims : Primitives} (aead : AeadCorrect prims) {key : BitVec 256}
    {groupId : Uuid} {roomId : String} {messageId : Uuid} {sequence : ℕ}
    {plaintext encoded : List UInt8} {draw : Draw}
    (h : encryptBody prims key groupId roomId messageId sequence plaintext draw = .ok encoded) :
    decryptBody prims key groupId roomId messageId sequence encoded = .ok plaintext := by
  simp only [encryptBody] at h
  split at h
  · cases h
  · rename_i ciphertext encrypted
    cases h
    have nonce : (bigEndian nonceLength draw.nonce.toNat).length = nonceLength := length_bigEndian _ _
    have decrypted := aead.decrypts _ _ _ _ _ nonce encrypted
    have tagged := aead.tagged _ _ _ _ _ encrypted
    have long : ¬ 1 + nonceLength + ciphertext.length ≤ 1 + nonceLength := by omega
    simp only [decryptBody, List.length_cons, List.length_append, nonce, List.head?_cons,
      List.drop_succ_cons, List.drop_zero, List.take_left' nonce, List.drop_left' nonce, decrypted]
    rw [if_neg]
    simp
    omega

/-! ## A cipher and draws to evaluate with -/

/-- Sixteen bytes that depend on everything a body is bound to. -/
def checksum (key : BitVec 256) (nonce aad msg : List UInt8) : List UInt8 :=
  bigEndian 16 ((nonce ++ aad ++ msg).foldl (fun sum byte => 257 * sum + byte.toNat) key.toNat)

/-- An authenticated encoding that stands for the cipher in evaluations: the
message in the clear with a checksum for its tag. -/
def Primitives.checksummed : Primitives where
  blake3 bytes := bytes
  encrypt key nonce aad msg := some (msg ++ checksum key nonce aad msg)
  decrypt key nonce aad cipher :=
    let msg := cipher.take (cipher.length - 16)
    if cipher.drop (cipher.length - 16) = checksum key nonce aad msg then some msg else none

theorem aeadCorrect_checksummed : AeadCorrect .checksummed where
  decrypts key nonce aad msg cipher _ h := by
    cases h
    have tag : (checksum key nonce aad msg).length = 16 := length_bigEndian _ _
    simp [Primitives.checksummed, tag]
  tagged key nonce aad msg cipher h := by
    cases h
    have tag : (checksum key nonce aad msg).length = 16 := length_bigEndian _ _
    simp [tag]

/-- A draw of its own for each number. -/
def Draw.numbered (n : ℕ) : Draw :=
  { id := ⟨n⟩, id₂ := ⟨n + 1⟩, random := n, random₂ := n + 1, nonce := n, millis := n }

end LanChat
