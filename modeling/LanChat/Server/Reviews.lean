import LanChat.Sizes
import LanChat.Storage.Caps

/-!
# Reviewing join requests

`handle_list_join_requests` lists up to 100 pending requests, and the session
of the administrator ends when the list does not fit a frame. Its size is a sum
over the nicknames and times of the listed requests.
-/

namespace LanChat

open Json

namespace GatewayStore

/-- The rows `pending_join_requests` selects: the first pending ones by time and id. -/
def listedRequests (store : GatewayStore) (g : Uuid) : List JoinRequestRow :=
  (Table.orderBy (fun r => toLex (r.requestedAtMs, r.requestId.key))
    (store.joinRequests.filter fun r => r.groupId == g && r.status == .pending)).take
      joinRequestPageSize

end GatewayStore

/-- The bytes of the listed requests: 87 for each and those of its nickname and time. -/
def reviewSize (rows : List JoinRequestRow) : ℕ :=
  (rows.map fun r => 87 + escapedSize r.nickname + (Nat.toDigits 10 r.requestedAtMs).length).sum + 37

variable {store : GatewayStore} {g : Uuid}

theorem size_pendingJoinRequests (some : store.listedRequests g ≠ []) :
    size (ServerMessage.joinRequests (store.pendingJoinRequests g)).toJson =
      reviewSize (store.listedRequests g) := by
  have listed : store.pendingJoinRequests g = (store.listedRequests g).map fun r =>
      { requestId := r.requestId, nickname := r.nickname, requestedAtMs := r.requestedAtMs } := rfl
  have split : ∀ rows : List JoinRequestRow, (rows.map fun r =>
      87 + escapedSize r.nickname + (Nat.toDigits 10 r.requestedAtMs).length).sum =
        (rows.map fun r => escapedSize r.nickname + (Nat.toDigits 10 r.requestedAtMs).length + 86).sum +
          rows.length := by
    intro rows
    induction rows with
    | nil => rfl
    | cons row rows ih =>
      simp only [List.map_cons, List.sum_cons, List.length_cons, ih]
      omega
  have length := List.length_pos_iff.2 some
  rw [size_joinRequests, listed, List.map_map, List.length_map, reviewSize, split]
  simp only [Function.comp_def, size_joinRequest]
  omega

/-- **The review fits a frame** exactly when the nicknames and times of the
listed requests leave room for it. -/
theorem join_requests_fit_iff (store : GatewayStore) (g : Uuid) :
    fitsFrame (.joinRequests (store.pendingJoinRequests g)) = true ↔
      reviewSize (store.listedRequests g) ≤ maxPlaintextFrame := by
  rw [fitsFrame, decide_eq_true_iff]
  by_cases none : store.listedRequests g = []
  · have empty : store.pendingJoinRequests g = [] := by
      change (store.listedRequests g).map _ = []
      rw [none, List.map_nil]
    rw [empty, none]
    decide
  · rw [size_pendingJoinRequests none]

/-- Nicknames of at least `k` bytes. -/
theorem le_reviewSize {rows : List JoinRequestRow} {k : ℕ}
    (wide : ∀ r ∈ rows, k ≤ escapedSize r.nickname) : rows.length * (87 + k) + 37 ≤ reviewSize rows := by
  unfold reviewSize
  induction rows with
  | nil => simp
  | cons row rows ih =>
    have first := wide row List.mem_cons_self
    have rest := ih fun r mem => wide r (List.mem_cons_of_mem _ mem)
    simp only [List.map_cons, List.sum_cons, List.length_cons, Nat.add_one_mul]
    omega

/-! ## A hundred wide nicknames -/

/-- Thirty-two characters of four bytes each. -/
def wideName : String := String.ofList (List.replicate 32 (Char.ofNat 0x1F600))

def asks (n : ℕ) : StoreOp := .createJoinRequest ⟨1⟩ wideName (.numbered n)

/-- The request it makes. -/
def asked (n : ℕ) : JoinRequestRow :=
  { requestId := ⟨n⟩, groupId := ⟨1⟩, nickname := wideName,
    requestTokenHash := utf8Encode (generateCredential "request" n), status := .pending,
    requestedAtMs := min n i64Max }

/-- A new approval group, with its creation. -/
def founding : List StoreOp := [.createGroupWithAccess "team" .approval (.numbered 1)]

def approvalFounded : GatewayStore := ((GatewayStore.empty 0).performAll .checksummed founding).2

/-- The group with `n` pending requests. -/
def reviewed (n : ℕ) : GatewayStore :=
  { approvalFounded with joinRequests := (List.range n).map asked }

namespace GatewayStore

theorem mem_reviewed {n : ℕ} {r : JoinRequestRow} :
    r ∈ (reviewed n).joinRequests ↔ ∃ i < n, asked i = r := by
  simp [reviewed]

theorem perform_asks {n : ℕ} (few : n < maxPendingJoinRequests) :
    ((reviewed n).perform .checksummed (asks n)).2 = reviewed (n + 1) := by
  have inApproval : ((reviewed n).findGroup ⟨1⟩).any (·.accessMode = .approval) = true := by
    change (approvalFounded.findGroup ⟨1⟩).any (·.accessMode = .approval) = true
    decide +kernel
  have room : (reviewed n).joinRequests.countP (fun r => r.groupId == ⟨1⟩ && r.status == .pending) <
      maxPendingJoinRequests := by
    refine lt_of_le_of_lt List.countP_le_length ?_
    simpa [reviewed] using few
  have valid : isValidGroupCredential (generateCredential "request" (Draw.numbered n).random) = true := by
    have drawn : generateCredential "request" (Draw.numbered n).random ∈ (asks n).tokens :=
      List.mem_singleton_self _
    exact isValid_of_tokens drawn
  have known : (reviewed n).hasGroup ⟨1⟩ = true := by
    change approvalFounded.hasGroup ⟨1⟩ = true
    decide +kernel
  have unused : ((reviewed n).joinRequests.any fun r => r.requestId == (asked n).requestId ||
      (r.groupId == (asked n).groupId && r.requestTokenHash == (asked n).requestTokenHash)) = false := by
    have small : maxPendingJoinRequests < 2 ^ 128 := by decide
    rw [List.any_eq_false]
    intro r mem taken
    obtain ⟨i, below, rfl⟩ := mem_reviewed.1 mem
    simp only [asked, Bool.or_eq_true, Bool.and_eq_true, beq_iff_eq] at taken
    rcases taken with sameId | ⟨-, sameHash⟩
    · exact absurd (natCast_inj (by omega) (by omega) (congrArg Uuid.bits sameId)) (by omega)
    · have decoded := congrArg utf8Decode sameHash
      simp only [utf8Decode_encode, Option.some.injEq] at decoded
      exact absurd (natCast_inj (by omega) (by omega) (generateCredential_inj decoded)) (by omega)
  have inserted : (reviewed n).insertJoinRequest (asked n) = .ok (reviewed (n + 1)) := by
    rw [insertJoinRequest, unused, show (asked n).groupId = ⟨1⟩ from rfl, known]
    simp [reviewed, List.range_succ]
  have requested : (reviewed n).createJoinRequest .checksummed ⟨1⟩ wideName (.numbered n) =
      .ok (((Draw.numbered n).id, generateCredential "request" (Draw.numbered n).random),
        reviewed (n + 1)) := by
    rw [createJoinRequest, ensure, if_pos inApproval, ok_bind, ensure, if_pos (decide_eq_true room),
      ok_bind, credentialHash_valid valid, ok_bind]
    change ((reviewed n).insertJoinRequest (asked n) >>= _) = _
    rw [inserted, ok_bind]
  rw [asks, perform, requested]
  rfl

theorem performAll_asks {n : ℕ} (few : n ≤ maxPendingJoinRequests) :
    (approvalFounded.performAll .checksummed ((List.range n).map asks)).2 = reviewed n := by
  induction n with
  | zero => rfl
  | succ n ih =>
    rw [List.range_succ, List.map_append, List.map_singleton, performAll_concat]
    simp only
    rw [ih (by omega), perform_asks (by omega)]

end GatewayStore

theorem length_listedRequests {n : ℕ} :
    ((reviewed n).listedRequests ⟨1⟩).length = min joinRequestPageSize n := by
  have all : ∀ r ∈ (reviewed n).joinRequests, (r.groupId == (⟨1⟩ : Uuid) && r.status == .pending) = true := by
    intro r mem
    obtain ⟨i, -, rfl⟩ := GatewayStore.mem_reviewed.1 mem
    rfl
  rw [GatewayStore.listedRequests, List.length_take, Table.length_orderBy, List.filter_eq_self.2 all]
  simp [reviewed]

theorem nickname_listedRequests {n : ℕ} {r : JoinRequestRow}
    (mem : r ∈ (reviewed n).listedRequests ⟨1⟩) : r.nickname = wideName := by
  have inTable := List.mem_of_mem_filter (Table.mem_orderBy.1 (List.mem_of_mem_take mem))
  obtain ⟨i, -, rfl⟩ := GatewayStore.mem_reviewed.1 inTable
  rfl

/-- What a client without a credential can do with approval groups: create
them, and ask to join under a name that `sanitize_nickname` accepts. -/
def asksToJoin : StoreOp → Bool
  | .createGroupWithAccess _ .approval _ => true
  | .createJoinRequest _ nickname _ => decide (sanitizeNickname nickname = .ok nickname)
  | _ => false

theorem escapedSize_wideName : escapedSize wideName = 128 := by decide +kernel

theorem accepted_wideName : sanitizeNickname wideName = .ok wideName := by decide +kernel

/-- A full page of wide nicknames does not fit. -/
theorem overflow_reviewed :
    maxPlaintextFrame < reviewSize ((reviewed joinRequestPageSize).listedRequests ⟨1⟩) := by
  have wide : ∀ r ∈ (reviewed joinRequestPageSize).listedRequests ⟨1⟩, 128 ≤ escapedSize r.nickname := by
    intro r listed
    rw [nickname_listedRequests listed, escapedSize_wideName]
  have large := le_reviewSize wide
  rw [length_listedRequests] at large
  refine lt_of_lt_of_le ?_ large
  decide

theorem asksToJoin_asks (n : ℕ) : asksToJoin (asks n) = true := by
  rw [asks, asksToJoin, decide_eq_true_iff]
  exact accepted_wideName

/-- **A review that is too large**: a hundred requests with nicknames of 128 bytes. -/
theorem join_requests_overflow : ¬ ∀ ops : List StoreOp, (∀ op ∈ ops, asksToJoin op = true) →
    ∀ g, fitsFrame (.joinRequests
      (((GatewayStore.empty 0).performAll .checksummed ops).2.pendingJoinRequests g)) = true := by
  intro claim
  have fits := claim (founding ++ (List.range joinRequestPageSize).map asks) ?_ ⟨1⟩
  · have some : (reviewed joinRequestPageSize).listedRequests ⟨1⟩ ≠ [] :=
      List.ne_nil_of_length_pos (by rw [length_listedRequests]; decide)
    rw [GatewayStore.performAll_append, ← approvalFounded, GatewayStore.performAll_asks (by decide),
      fitsFrame, decide_eq_true_iff, size_pendingJoinRequests some] at fits
    exact absurd fits (Nat.not_le_of_lt overflow_reviewed)
  · intro op mem
    rcases List.mem_append.1 mem with mem | mem
    · obtain rfl := List.mem_singleton.1 mem
      rfl
    · obtain ⟨n, -, rfl⟩ := List.mem_map.1 mem
      exact asksToJoin_asks n

end LanChat
