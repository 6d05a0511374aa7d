import LanChat.Base.PrettyJson
import LanChat.Base.Transition
import LanChat.Sizes
import LanChat.Storage.Schema
import Std.Data.ExtTreeMap.Lemmas
import Mathlib.Algebra.Order.BigOperators.Group.List
import Mathlib.Algebra.Order.Ring.Nat

/-!
# The credentials of a client

`CredentialStore` of `credentials.rs`: the records in memory and the file they are
saved in. An update changes the memory first and then replaces the file; each
step of the replacement can fail. `encode` and `decode` stand for serde_json on
the type of the file.
-/

namespace LanChat

open Transition

def credentialFileVersion : ℕ := 1
def maxCredentialFileBytes : ℕ := 1024 * 1024

structure StoredGroupCredential where
  gatewayId : Uuid
  groupId : Uuid
  joinToken : String
  inviteToken : Option String
deriving DecidableEq, Repr

structure CredentialFile where
  version : ℕ
  records : List StoredGroupCredential
deriving DecidableEq, Repr

/-- A pair of ids, in the order of the two. -/
structure GroupKey where
  gatewayId : Uuid
  groupId : Uuid
deriving DecidableEq, Repr

namespace GroupKey

def bits (key : GroupKey) : BitVec (128 + 128) := key.gatewayId.bits ++ key.groupId.bits

instance : Ord GroupKey := ⟨fun a b => compare a.bits b.bits⟩

instance : Std.TransOrd GroupKey where
  eq_swap := fun {a b} => Std.OrientedOrd.eq_swap (a := a.bits) (b := b.bits)
  isLE_trans := fun {a b c} => Std.TransOrd.isLE_trans (a := a.bits) (b := b.bits) (c := c.bits)

instance : Std.LawfulEqOrd GroupKey where
  eq_of_compare := fun {a b} same => by
    have bits : a.bits = b.bits := Std.LawfulEqOrd.eq_of_compare same
    have gateway := congrArg (BitVec.extractLsb' 128 128) bits
    have group := congrArg (BitVec.extractLsb' 0 128) bits
    simp only [GroupKey.bits, BitVec.extractLsb'_append_eq_left, BitVec.extractLsb'_append_eq_right] at gateway group
    obtain ⟨⟨_⟩, ⟨_⟩⟩ := a
    obtain ⟨⟨_⟩, ⟨_⟩⟩ := b
    cases gateway
    cases group
    rfl

end GroupKey

def StoredGroupCredential.key (record : StoredGroupCredential) : GroupKey := ⟨record.gatewayId, record.groupId⟩

abbrev CredentialRecords := Std.ExtTreeMap GroupKey StoredGroupCredential

namespace CredentialRecords

/-- `records.values().cloned().collect()` -/
def values (records : CredentialRecords) : List StoredGroupCredential := records.toList.map Prod.snd

def toFile (records : CredentialRecords) : CredentialFile := ⟨credentialFileVersion, records.values⟩

end CredentialRecords

def validateRecord (record : StoredGroupCredential) : Bool :=
  isValidGroupCredential record.joinToken && record.inviteToken.all isValidGroupCredential

/-! ## The text of the file -/

open Json in
def StoredGroupCredential.toJson (record : StoredGroupCredential) : List Char :=
  prettyObject 2 [prettyField "gateway_id" record.gatewayId.toJson, prettyField "group_id" record.groupId.toJson,
    prettyField "join_token" (string record.joinToken),
    prettyField "invite_token" (option string record.inviteToken)]

open Json in
def CredentialFile.toJson (file : CredentialFile) : List Char :=
  prettyObject 0 [prettyField "version" (number file.version),
    prettyField "records" (prettyArray 1 (file.records.map StoredGroupCredential.toJson))]

/-- `serde_json::to_vec_pretty` of the file. -/
def prettyFile (file : CredentialFile) : List UInt8 := utf8Encode (String.ofList file.toJson)

/-! ## The store -/

/-- The store and what is at its path. -/
structure CredentialStore where
  records : CredentialRecords
  file : Option (List UInt8)

/-- The steps of `save`, in order. The steps up to the renaming leave the file as it was. -/
inductive SaveStep where
  | createDirectory
  | createTemporary
  | write
  | sync
  | rename
  | setPermissions
  | syncDirectory
deriving DecidableEq, Repr

inductive CredentialError where
  | invalidToken
  | failed (step : SaveStep)
deriving DecidableEq, Repr

inductive CredentialUpdate where
  | set (gatewayId groupId : Uuid) (joinToken : String) (inviteToken : Option String)
  | remove (gatewayId groupId : Uuid)
deriving DecidableEq, Repr

namespace CredentialStore

/-- The loop of `open_at` over the records of the file. -/
def load (known : CredentialRecords) : List StoredGroupCredential → Except String CredentialRecords
  | [] => .ok known
  | record :: records =>
    if !validateRecord record then .error "client credential file contains an invalid token"
    else if record.key ∈ known then .error "client credential file contains a duplicate group"
    else load (known.insert record.key record) records

/-- `open_at`, on what is at the path. -/
def openAt (decode : List UInt8 → Option CredentialFile) : Option (List UInt8) → Except String CredentialStore
  | none => .ok ⟨∅, none⟩
  | some encoded =>
    if maxCredentialFileBytes < encoded.length then .error "client credential file is unexpectedly large"
    else match decode encoded with
      | none => .error "client credential file is invalid"
      | some file =>
        if file.version ≠ credentialFileVersion then
          .error "client credential file has an unsupported version"
        else (load ∅ file.records).map fun records => ⟨records, some encoded⟩

variable (encode : CredentialFile → List UInt8) (fails : SaveStep → Bool) (store : CredentialStore)

def save : Except CredentialError Unit × CredentialStore :=
  match [SaveStep.createDirectory, .createTemporary, .write, .sync, .rename].find? fails with
  | some step => (.error (.failed step), store)
  | none =>
    let store := { store with file := some (encode store.records.toFile) }
    match [SaveStep.setPermissions, .syncDirectory].find? fails with
    | some step => (.error (.failed step), store)
    | none => (.ok (), store)

def set (gatewayId groupId : Uuid) (joinToken : String) (inviteToken : Option String) :
    Except CredentialError Unit × CredentialStore :=
  let record : StoredGroupCredential := { gatewayId, groupId, joinToken, inviteToken }
  if !validateRecord record then (.error .invalidToken, store)
  else ({ store with records := store.records.insert ⟨gatewayId, groupId⟩ record } : CredentialStore).save encode fails

def remove (gatewayId groupId : Uuid) : Except CredentialError Bool × CredentialStore :=
  let removed := decide ((⟨gatewayId, groupId⟩ : GroupKey) ∈ store.records)
  let store := { store with records := store.records.erase ⟨gatewayId, groupId⟩ }
  if removed then
    let (result, store) := store.save encode fails
    (result.map fun _ => true, store)
  else (.ok false, store)

/-- One call of `set` or `remove`. -/
def perform : CredentialUpdate → Except CredentialError Unit × CredentialStore
  | .set gatewayId groupId joinToken inviteToken =>
    store.set encode fails gatewayId groupId joinToken inviteToken
  | .remove gatewayId groupId =>
    let (result, store) := store.remove encode fails gatewayId groupId
    (result.map fun _ => (), store)

end CredentialStore

/-! ## All or nothing -/

/-- The records a file holds. -/
def storedRecords (decode : List UInt8 → Option CredentialFile) :
    Option (List UInt8) → Option (List StoredGroupCredential)
  | none => some []
  | some encoded => (decode encoded).map (·.records)

namespace CredentialUpdate

def key : CredentialUpdate → GroupKey
  | set gatewayId groupId _ _ | remove gatewayId groupId => ⟨gatewayId, groupId⟩

/-- The records after the update. -/
def records (records : CredentialRecords) : CredentialUpdate → CredentialRecords
  | set gatewayId groupId joinToken inviteToken =>
    records.insert ⟨gatewayId, groupId⟩ { gatewayId, groupId, joinToken, inviteToken }
  | remove gatewayId groupId => records.erase ⟨gatewayId, groupId⟩

/-- A removal of a record that is not there is not saved. -/
def saves (records : CredentialRecords) : CredentialUpdate → Bool
  | set _ _ _ _ => true
  | remove gatewayId groupId => decide ((⟨gatewayId, groupId⟩ : GroupKey) ∈ records)

end CredentialUpdate

namespace CredentialStore

section
variable (encode : CredentialFile → List UInt8) (decode : List UInt8 → Option CredentialFile)
  (fails : SaveStep → Bool) (store : CredentialStore)

/-- A call that fails leaves store and file as they were, one that succeeds leaves the
updated records in both. -/
def AllOrNothing (update : CredentialUpdate) : Prop :=
  match store.perform encode fails update with
  | (.error _, after) => after = store
  | (.ok _, after) => after.records = update.records store.records ∧
      storedRecords decode after.file = some (update.records store.records).values

/-- Nothing fails, or what was changed before the failure is as it was. A record that is
not there is removed without a look at the file. -/
def Undisturbed : CredentialUpdate → Prop
  | .set gatewayId groupId joinToken inviteToken =>
    let record : StoredGroupCredential := { gatewayId, groupId, joinToken, inviteToken }
    validateRecord record = true → (∀ step, fails step = false) ∨
      (store.records[record.key]? = some record ∧
        ((∃ step, fails step = true ∧ step ≠ .setPermissions ∧ step ≠ .syncDirectory) ∨
          store.file = some (encode store.records.toFile)))
  | .remove gatewayId groupId =>
    if (⟨gatewayId, groupId⟩ : GroupKey) ∈ store.records then ∀ step, fails step = false
    else storedRecords decode store.file = some store.records.values

end

variable {encode : CredentialFile → List UInt8} {decode : List UInt8 → Option CredentialFile}
  {fails : SaveStep → Bool} {store : CredentialStore} {update : CredentialUpdate}

/-- What a save comes to: it fails before the file is replaced, after it, or not at all. -/
theorem save_cases (encode : CredentialFile → List UInt8) (fails : SaveStep → Bool) (store : CredentialStore) :
    (∃ step, fails step = true ∧ step ≠ .setPermissions ∧ step ≠ .syncDirectory ∧
      store.save encode fails = (.error (.failed step), store)) ∨
    ((∀ step, fails step = true → step = .setPermissions ∨ step = .syncDirectory) ∧
      ∃ step, fails step = true ∧ store.save encode fails =
        (.error (.failed step), { store with file := some (encode store.records.toFile) })) ∨
    ((∀ step, fails step = false) ∧ store.save encode fails =
      (.ok (), { store with file := some (encode store.records.toFile) })) := by
  unfold save
  cases early : [SaveStep.createDirectory, .createTemporary, .write, .sync, .rename].find? fails with
  | some step =>
    have mem := List.mem_of_find?_eq_some early
    refine .inl ⟨step, List.find?_some early, ?_, ?_, rfl⟩ <;> rintro rfl <;> simp at mem
  | none =>
    have passed := List.find?_eq_none.1 early
    cases late : [SaveStep.setPermissions, .syncDirectory].find? fails with
    | some step =>
      refine .inr (.inl ⟨fun other failed => ?_, step, List.find?_some late, rfl⟩)
      cases other
      case setPermissions | syncDirectory => simp
      all_goals exact absurd failed (passed _ (by simp))
    | none =>
      have passed' := List.find?_eq_none.1 late
      refine .inr (.inr ⟨fun step => ?_, rfl⟩)
      cases step
      case setPermissions | syncDirectory => exact Bool.eq_false_iff.2 (passed' _ (by simp))
      all_goals exact Bool.eq_false_iff.2 (passed _ (by simp))

theorem insert_eq_self {records : CredentialRecords} {key : GroupKey} {record : StoredGroupCredential} :
    records.insert key record = records ↔ records[key]? = some record := by
  constructor
  · intro same
    rw [← same]
    simp
  · intro there
    refine Std.ExtTreeMap.ext_getElem? fun other => ?_
    rw [Std.ExtTreeMap.getElem?_insert]
    split
    · next same =>
      rw [← Std.LawfulEqOrd.eq_of_compare same, there]
    · rfl

theorem erase_eq_self {records : CredentialRecords} {key : GroupKey} :
    records.erase key = records ↔ key ∉ records := by
  constructor
  · intro same
    rw [← same]
    simp
  · intro missing
    refine Std.ExtTreeMap.ext_getElem? fun other => ?_
    rw [Std.ExtTreeMap.getElem?_erase]
    split
    · next same =>
      rw [← Std.LawfulEqOrd.eq_of_compare same, Std.ExtTreeMap.getElem?_eq_none missing]
    · rfl

/-- A store with other records and file is the same store when both are the same. -/
theorem mk_eq_iff {records : CredentialRecords} {file : Option (List UInt8)} :
    (⟨records, file⟩ : CredentialStore) = store ↔ records = store.records ∧ file = store.file := by
  cases store
  simp

theorem set_allOrNothing {gatewayId groupId : Uuid} {joinToken : String} {inviteToken : Option String}
    (inverse : decode (encode (CredentialRecords.toFile (store.records.insert ⟨gatewayId, groupId⟩
      { gatewayId, groupId, joinToken, inviteToken }))) =
        some (CredentialRecords.toFile (store.records.insert ⟨gatewayId, groupId⟩
          { gatewayId, groupId, joinToken, inviteToken }))) :
    store.AllOrNothing encode decode fails (.set gatewayId groupId joinToken inviteToken) ↔
      store.Undisturbed encode decode fails (.set gatewayId groupId joinToken inviteToken) := by
  simp only [AllOrNothing, perform, set, Undisturbed, CredentialUpdate.records]
  generalize made : ({ gatewayId, groupId, joinToken, inviteToken } : StoredGroupCredential) = record at inverse ⊢
  have key : record.key = ⟨gatewayId, groupId⟩ := by rw [← made]; rfl
  rw [key]
  by_cases valid : validateRecord record = true
  · simp only [valid, Bool.not_true, Bool.false_eq_true, if_false, forall_const]
    obtain ⟨step, failed, early⟩ | ⟨late, step, failed, saved⟩ | ⟨none, saved⟩ :=
      save_cases encode fails ⟨store.records.insert ⟨gatewayId, groupId⟩ record, store.file⟩
    · -- the file is as it was, so all depends on the memory
      obtain ⟨notPermissions, notSync, saved⟩ := early
      rw [saved]
      simp only [mk_eq_iff, insert_eq_self, and_true]
      refine ⟨fun there => .inr ⟨there, .inl ⟨step, failed, notPermissions, notSync⟩⟩, ?_⟩
      rintro (none | ⟨there, -⟩)
      · rw [none step] at failed
        cases failed
      · exact there
    · rw [saved]
      simp only [mk_eq_iff, insert_eq_self]
      constructor
      · rintro ⟨there, replaced⟩
        rw [insert_eq_self.2 there] at replaced
        exact .inr ⟨there, .inr replaced.symm⟩
      · rintro (none | ⟨there, ⟨other, failed', notPermissions, notSync⟩ | same⟩)
        · rw [none step] at failed
          cases failed
        · rcases late other failed' with rfl | rfl
          · exact absurd rfl notPermissions
          · exact absurd rfl notSync
        · rw [insert_eq_self.2 there]
          exact ⟨there, same.symm⟩
    · rw [saved]
      simp only [storedRecords, inverse, Option.map_some, true_and]
      exact ⟨fun _ => .inl none, fun _ => rfl⟩
  · simp [valid]

theorem remove_allOrNothing {gatewayId groupId : Uuid}
    (inverse : decode (encode (CredentialRecords.toFile (store.records.erase ⟨gatewayId, groupId⟩))) =
      some (CredentialRecords.toFile (store.records.erase ⟨gatewayId, groupId⟩))) :
    store.AllOrNothing encode decode fails (.remove gatewayId groupId) ↔
      store.Undisturbed encode decode fails (.remove gatewayId groupId) := by
  simp only [AllOrNothing, perform, remove, Undisturbed, CredentialUpdate.records]
  by_cases there : (⟨gatewayId, groupId⟩ : GroupKey) ∈ store.records
  · have changed : store.records.erase ⟨gatewayId, groupId⟩ ≠ store.records :=
      fun same => erase_eq_self.1 same there
    simp only [there, decide_true, if_true]
    obtain ⟨step, failed, -, -, saved⟩ | ⟨-, step, failed, saved⟩ | ⟨none, saved⟩ :=
      save_cases encode fails ⟨store.records.erase ⟨gatewayId, groupId⟩, store.file⟩
    · rw [saved]
      simp only [Except.map, mk_eq_iff, changed, false_and, false_iff, not_forall]
      exact ⟨step, by rw [failed]; simp⟩
    · rw [saved]
      simp only [Except.map, mk_eq_iff, changed, false_and, false_iff, not_forall]
      exact ⟨step, by rw [failed]; simp⟩
    · rw [saved]
      simp only [Except.map, storedRecords, inverse, Option.map_some, true_and]
      exact ⟨fun _ => none, fun _ => rfl⟩
  · have same := erase_eq_self.2 there
    simp [there, same, Except.map]

end CredentialStore

/-- **Updates that are all or nothing** are the undisturbed ones: the memory is changed
before the file, and a failure takes back neither. -/
theorem update_all_or_nothing {encode : CredentialFile → List UInt8}
    {decode : List UInt8 → Option CredentialFile} {fails : SaveStep → Bool} {store : CredentialStore}
    {update : CredentialUpdate}
    (inverse : decode (encode (update.records store.records).toFile) = some (update.records store.records).toFile) :
    store.AllOrNothing encode decode fails update ↔ store.Undisturbed encode decode fails update := by
  cases update with
  | set => exact CredentialStore.set_allOrNothing inverse
  | remove => exact CredentialStore.remove_allOrNothing inverse

/-! ## Reading back -/

/-- Each record is filed under its own ids and passes the check. -/
def CredentialRecords.WellKeyed (records : CredentialRecords) : Prop :=
  ∀ (key : GroupKey) record, records[key]? = some record → record.key = key ∧ validateRecord record = true

namespace CredentialRecords

variable {records known : CredentialRecords} {record : StoredGroupCredential}

theorem mem_values : record ∈ records.values ↔ ∃ key : GroupKey, records[key]? = some record := by
  simp [values]

theorem WellKeyed.insert (keyed : known.WellKeyed) (valid : validateRecord record = true) :
    WellKeyed (Std.ExtTreeMap.insert known record.key record) := by
  intro key found there
  rw [Std.ExtTreeMap.getElem?_insert] at there
  split at there
  · next same =>
    cases there
    exact ⟨Std.LawfulEqOrd.eq_of_compare same, valid⟩
  · exact keyed key found there

theorem WellKeyed.erase (keyed : known.WellKeyed) {key : GroupKey} :
    WellKeyed (Std.ExtTreeMap.erase known key) := by
  intro other found there
  rw [Std.ExtTreeMap.getElem?_erase] at there
  split at there
  · cases there
  · exact keyed other found there

/-- The values of a well-keyed map have keys of their own. -/
theorem WellKeyed.pairwise (keyed : records.WellKeyed) :
    records.values.Pairwise fun a b => a.key ≠ b.key := by
  rw [values, List.pairwise_map]
  refine List.Pairwise.imp_of_mem (fun {a b} mem mem' apart same => apart ?_) records.distinct_keys_toList
  have own := (keyed a.1 a.2 (Std.ExtTreeMap.mem_toList_iff_getElem?_eq_some.1 mem)).1
  have own' := (keyed b.1 b.2 (Std.ExtTreeMap.mem_toList_iff_getElem?_eq_some.1 mem')).1
  rw [← own, ← own', same]
  exact Std.ReflCmp.compare_self

end CredentialRecords

namespace CredentialStore

/-- Records that pass the checks are loaded as they are. -/
theorem load_ok {records : List StoredGroupCredential} (valid : ∀ r ∈ records, validateRecord r = true)
    (apart : records.Pairwise fun a b => a.key ≠ b.key) (known : CredentialRecords)
    (fresh : ∀ r ∈ records, r.key ∉ known) :
    ∃ loaded, load known records = .ok loaded ∧ ∀ (key : GroupKey) (r : StoredGroupCredential),
      loaded[key]? = some r ↔ (r ∈ records ∧ r.key = key) ∨ known[key]? = some r := by
  induction records generalizing known with
  | nil => exact ⟨known, rfl, by simp⟩
  | cons record records ih =>
    rw [List.forall_mem_cons] at valid fresh
    rw [List.pairwise_cons] at apart
    obtain ⟨loaded, ok, found⟩ := ih valid.2 apart.2 (known.insert record.key record) (by
      intro r mem there
      rw [Std.ExtTreeMap.mem_insert] at there
      rcases there with same | there
      · exact apart.1 r mem (Std.LawfulEqOrd.eq_of_compare same)
      · exact fresh.2 r mem there)
    refine ⟨loaded, by simp [load, valid.1, fresh.1, ok], fun key r => ?_⟩
    rw [found, Std.ExtTreeMap.getElem?_insert]
    by_cases same : record.key = key
    · subst same
      have missing : known[record.key]? = none := Std.ExtTreeMap.getElem?_eq_none fresh.1
      have others : ∀ r ∈ records, r.key ≠ record.key := fun r mem same => apart.1 r mem same.symm
      simp only [Std.ReflOrd.compare_self, if_true, Option.some.injEq, List.mem_cons, missing, reduceCtorEq,
        or_false]
      constructor
      · rintro (⟨mem, same⟩ | rfl)
        · exact absurd same (others r mem)
        · exact ⟨.inl rfl, rfl⟩
      · rintro ⟨rfl | mem, same⟩
        · exact .inr rfl
        · exact absurd same (others r mem)
    · have different : compare record.key key ≠ .eq := fun equal => same (Std.LawfulEqOrd.eq_of_compare equal)
      simp only [different, if_false, List.mem_cons]
      constructor
      · rintro (⟨mem, own⟩ | there)
        · exact .inl ⟨.inr mem, own⟩
        · exact .inr there
      · rintro (⟨rfl | mem, own⟩ | there)
        · exact absurd own same
        · exact .inl ⟨mem, own⟩
        · exact .inr there

theorem load_wellKeyed {records : List StoredGroupCredential} {known loaded : CredentialRecords}
    (keyed : known.WellKeyed) (h : load known records = .ok loaded) : loaded.WellKeyed := by
  induction records generalizing known with
  | nil =>
    cases h
    exact keyed
  | cons record records ih =>
    simp only [load] at h
    split at h
    · cases h
    · next valid =>
      split at h
      · cases h
      · exact ih (keyed.insert (by simpa using valid)) h

variable {encode : CredentialFile → List UInt8} {decode : List UInt8 → Option CredentialFile}
  {store after : CredentialStore}

/-- What was opened is filed under its own ids. -/
theorem openAt_wellKeyed {file : Option (List UInt8)} (h : openAt decode file = .ok store) :
    store.records.WellKeyed ∧ store.file = file := by
  unfold openAt at h
  split at h
  · cases h
    exact ⟨fun key record there => by simp at there, rfl⟩
  · split at h
    · cases h
    · split at h
      · cases h
      · split at h
        · cases h
        · next file decoded version =>
          cases loaded : load ∅ file.records with
          | error text =>
            rw [loaded] at h
            cases h
          | ok records =>
            rw [loaded] at h
            cases h
            exact ⟨load_wellKeyed (fun key record there => by simp at there) loaded, rfl⟩

/-- A saved file within the limit is read as the records it was written from. -/
theorem openAt_saved {records : CredentialRecords} (keyed : records.WellKeyed)
    (inverse : decode (encode records.toFile) = some records.toFile)
    (small : (encode records.toFile).length ≤ maxCredentialFileBytes) :
    openAt decode (some (encode records.toFile)) = .ok ⟨records, some (encode records.toFile)⟩ := by
  obtain ⟨loaded, ok, found⟩ := @load_ok records.values
    (fun r mem => (CredentialRecords.mem_values.1 mem).elim fun key there => (keyed key r there).2)
    keyed.pairwise ∅ (fun r mem => Std.ExtTreeMap.not_mem_empty)
  have same : loaded = records := by
    refine Std.ExtTreeMap.ext_getElem? fun key => Option.ext fun r => ?_
    rw [found key r]
    constructor
    · rintro (⟨mem, own⟩ | there)
      · obtain ⟨key', there⟩ := CredentialRecords.mem_values.1 mem
        rwa [← own, (keyed key' r there).1]
      · simp at there
    · exact fun there => .inl ⟨CredentialRecords.mem_values.2 ⟨key, there⟩, (keyed key r there).1⟩
  rw [openAt, if_neg (by omega), inverse]
  simp only [CredentialRecords.toFile, ne_eq, not_true_eq_false, if_false]
  rw [ok, same]
  rfl

/-- A call of `set` or `remove`, and what fails during its save. -/
structure Call where
  fails : SaveStep → Bool
  update : CredentialUpdate

/-- The calls that succeed. -/
def call (encode : CredentialFile → List UInt8) (store : CredentialStore) (c : Call) : Option CredentialStore :=
  match store.perform encode c.fails c.update with
  | (.ok _, after) => some after
  | (.error _, _) => none

/-- A save that succeeds leaves the records' file. -/
theorem save_ok {fails : SaveStep → Bool} (h : store.save encode fails = (.ok (), after)) :
    after = { store with file := some (encode store.records.toFile) } := by
  obtain ⟨step, -, -, -, saved⟩ | ⟨-, step, -, saved⟩ | ⟨-, saved⟩ := save_cases encode fails store
  · rw [saved] at h
    cases h
  · rw [saved] at h
    cases h
  · rw [saved] at h
    cases h
    rfl

/-- A call that succeeds saves the updated records, or has nothing to change. -/
theorem call_cases {c : Call} (h : store.call encode c = some after) :
    if c.update.saves store.records then
      after = ⟨c.update.records store.records, some (encode (c.update.records store.records).toFile)⟩ ∧
        (store.records.WellKeyed → (c.update.records store.records).WellKeyed)
    else after = store := by
  unfold call at h
  split at h
  · next result after' performed =>
    cases h
    cases update : c.update with
    | set gatewayId groupId joinToken inviteToken =>
      simp only [perform, set, update] at performed
      split at performed
      · cases performed
      · next valid =>
        have valid : validateRecord { gatewayId, groupId, joinToken, inviteToken } = true := by
          simpa using valid
        exact ⟨save_ok performed, fun keyed => keyed.insert valid⟩
    | remove gatewayId groupId =>
      simp only [perform, remove, update] at performed
      split at performed
      · next there =>
        rw [if_pos (by exact there)]
        cases saved : ({ store with records := store.records.erase ⟨gatewayId, groupId⟩ } : CredentialStore).save
          encode c.fails with
        | mk outcome kept =>
          rw [saved] at performed
          cases outcome with
          | error error => cases performed
          | ok _ =>
            cases performed
            exact ⟨save_ok saved, fun keyed => keyed.erase⟩
      · next absent =>
        rw [if_neg (by exact absent)]
        cases performed
        have same := erase_eq_self.2 (by simpa using absent)
        rw [same]
  · cases h

/-- A call that succeeds saves well-keyed records, or changes nothing. -/
theorem call_saved {c : Call} (keyed : store.records.WellKeyed) (h : store.call encode c = some after) :
    after.records.WellKeyed ∧ (after = store ∨ after.file = some (encode after.records.toFile)) := by
  have called := call_cases h
  split at called
  · obtain ⟨rfl, keeps⟩ := called
    exact ⟨keeps keyed, .inr rfl⟩
  · subst called
    exact ⟨keyed, .inl rfl⟩

end CredentialStore

/-- **What was saved can be read back** exactly while its file is within the limit of the
reader; the writer has none. -/
theorem saved_is_readable {encode : CredentialFile → List UInt8}
    {decode : List UInt8 → Option CredentialFile} {file : Option (List UInt8)}
    {opened store : CredentialStore} {calls : List CredentialStore.Call}
    (start : CredentialStore.openAt decode file = .ok opened)
    (run : Run (CredentialStore.call encode) anyAction opened calls store)
    (inverse : decode (encode store.records.toFile) = some store.records.toFile) :
    CredentialStore.openAt decode store.file = .ok store ↔
      ∀ encoded, store.file = some encoded → encoded.length ≤ maxCredentialFileBytes := by
  have invariant := run.preserves (I := fun store => store.records.WellKeyed ∧
      (CredentialStore.openAt decode store.file = .ok store ∨
        store.file = some (encode store.records.toFile)))
    (fun store c after ⟨keyed, readable⟩ _ h => by
      obtain ⟨keyed', rfl | saved⟩ := CredentialStore.call_saved keyed h
      · exact ⟨keyed, readable⟩
      · exact ⟨keyed', .inr saved⟩)
    ⟨(CredentialStore.openAt_wellKeyed start).1, .inl ((CredentialStore.openAt_wellKeyed start).2 ▸ start)⟩
  constructor
  · intro ok encoded there
    rw [there, CredentialStore.openAt] at ok
    split at ok
    · cases ok
    · omega
  · intro small
    obtain readable | saved := invariant.2
    · exact readable
    · have reopened := CredentialStore.openAt_saved invariant.1 inverse (small _ saved)
      rw [saved, reopened, ← saved]

/-! ## Concrete stores -/

/-- A reader of one file. -/
def readsBack (file : CredentialFile) (encoded : List UInt8) : Option CredentialFile :=
  if encoded = prettyFile file then some file else none

theorem readsBack_prettyFile (file : CredentialFile) : readsBack file (prettyFile file) = some file := if_pos rfl

/-- A reader of two files. -/
def readsEither (first second : CredentialFile) (encoded : List UInt8) : Option CredentialFile :=
  (utf8Decode encoded).bind fun text => [first, second].find? fun file => file.toJson = text.toList

theorem readsEither_prettyFile {first second file : CredentialFile} (different : first.toJson ≠ second.toJson)
    (mem : file ∈ [first, second]) : readsEither first second (prettyFile file) = some file := by
  rw [readsEither, prettyFile, utf8Decode_encode, Option.bind_some, String.toList_ofList]
  simp only [List.mem_cons, List.not_mem_nil, or_false] at mem
  obtain rfl | rfl := mem
  · rw [List.find?_cons_of_pos (by simp)]
  · rw [List.find?_cons_of_neg (by simpa using different), List.find?_cons_of_pos (by simp)]

def homeKey : GroupKey := ⟨⟨1⟩, ⟨2⟩⟩

/-- A credential for one group. -/
def rememberHome : CredentialUpdate := .set homeKey.gatewayId homeKey.groupId "lc_admin_1" none

def forgetHome : CredentialUpdate := .remove homeKey.gatewayId homeKey.groupId

def homeRecords : CredentialRecords := rememberHome.records ∅

theorem homeKey_mem : homeKey ∈ homeRecords := by
  simp [homeRecords, rememberHome, CredentialUpdate.records]

/-- The first credential of a store is saved. -/
theorem update_all_or_nothing_first :
    CredentialStore.AllOrNothing prettyFile (readsBack homeRecords.toFile) (fun _ => false) ⟨∅, none⟩
      rememberHome := by
  have undisturbed : CredentialStore.Undisturbed prettyFile (readsBack homeRecords.toFile) (fun _ => false) ⟨∅, none⟩
      rememberHome := fun _ => .inl fun _ => rfl
  have inverse := readsBack_prettyFile homeRecords.toFile
  exact (@update_all_or_nothing prettyFile _ (fun _ => false) ⟨∅, none⟩ rememberHome inverse).2 undisturbed

/-- The renaming fails while a credential is removed: it is gone from the memory and still
in the file. -/
theorem removed_in_memory_only : ∃ (store : CredentialStore) (fails : SaveStep → Bool),
    (∀ decode, ¬ store.AllOrNothing prettyFile decode fails forgetHome) ∧ homeKey ∈ store.records ∧
      (store.perform prettyFile fails forgetHome).1 = .error (.failed .rename) ∧
      homeKey ∉ (store.perform prettyFile fails forgetHome).2.records ∧
      (store.perform prettyFile fails forgetHome).2.file = store.file := by
  let store : CredentialStore := ⟨homeRecords, some (prettyFile homeRecords.toFile)⟩
  let fails (step : SaveStep) : Bool := step = .rename
  have performed : store.perform prettyFile fails forgetHome =
      (.error (.failed .rename), { store with records := homeRecords.erase homeKey }) := by
    simp only [CredentialStore.perform, forgetHome, CredentialStore.remove]
    rw [if_pos (decide_eq_true homeKey_mem)]
    rfl
  refine ⟨store, fails, fun decode whole => ?_, homeKey_mem, ?_, ?_, ?_⟩
  · simp only [CredentialStore.AllOrNothing, performed, CredentialStore.mk_eq_iff] at whole
    exact CredentialStore.erase_eq_self.1 whole.1 homeKey_mem
  · rw [performed]
  · rw [performed]
    simp
  · rw [performed]

/-- The store with one credential. -/
theorem saved_is_readable_first :
    let store : CredentialStore := ⟨homeRecords, some (prettyFile homeRecords.toFile)⟩
    CredentialStore.openAt (readsBack homeRecords.toFile) store.file = .ok store ↔
      ∀ encoded, store.file = some encoded → encoded.length ≤ maxCredentialFileBytes :=
  @saved_is_readable prettyFile _ none ⟨∅, none⟩ _ _ rfl
    (.cons (a := ⟨fun _ => false, rememberHome⟩) trivial rfl (.nil _))
    (readsBack_prettyFile homeRecords.toFile)

namespace CredentialStore

/-- Credentials for the groups `0` to `n - 1` of one gateway. -/
def manyCalls (n : ℕ) : List Call :=
  (List.range n).map fun i => ⟨fun _ => false, .set ⟨0⟩ ⟨BitVec.ofNat 128 i⟩ "a" none⟩

theorem manyCalls_run (n : ℕ) (small : n ≤ 2 ^ 128) : ∃ store : CredentialStore,
    Run (call prettyFile) anyAction ⟨∅, none⟩ (manyCalls n) store ∧ store.records.size = n ∧
      (∀ key ∈ store.records, key.groupId.bits.toNat < n) ∧
      (0 < n → store.file = some (prettyFile store.records.toFile)) := by
  induction n with
  | zero => exact ⟨_, .nil _, by simp, by simp, nofun⟩
  | succ n ih =>
    obtain ⟨store, run, size, below, -⟩ := ih (by omega)
    have number : (BitVec.ofNat 128 n).toNat = n := by
      rw [BitVec.toNat_ofNat]
      exact Nat.mod_eq_of_lt (by omega)
    have fresh : (⟨⟨0⟩, ⟨BitVec.ofNat 128 n⟩⟩ : GroupKey) ∉ store.records := by
      intro there
      have less := below _ there
      rw [number] at less
      omega
    let records : CredentialRecords := store.records.insert ⟨⟨0⟩, ⟨BitVec.ofNat 128 n⟩⟩
      { gatewayId := ⟨0⟩, groupId := ⟨BitVec.ofNat 128 n⟩, joinToken := "a", inviteToken := none }
    refine ⟨⟨records, some (prettyFile records.toFile)⟩, ?_, ?_, ?_, fun _ => rfl⟩
    · have valid : validateRecord
          { gatewayId := ⟨0⟩, groupId := ⟨BitVec.ofNat 128 n⟩, joinToken := "a", inviteToken := none } = true := by
        show (isValidGroupCredential "a" && true) = true
        decide
      rw [manyCalls, List.range_succ, List.map_append]
      refine run.snoc trivial ?_
      simp only [call, perform, set, valid, Bool.not_true, Bool.false_eq_true, if_false]
      rfl
    · simp only [records, Std.ExtTreeMap.size_insert]
      rw [if_neg (by simpa using fresh), size]
    · intro key there
      rw [Std.ExtTreeMap.mem_insert] at there
      rcases there with same | there
      · rw [← Std.LawfulEqOrd.eq_of_compare same]
        simp only [number]
        omega
      · exact (below key there).trans (Nat.lt_succ_self n)

end CredentialStore

theorem length_utf8Encode (text : List Char) : (utf8Encode (String.ofList text)).length = Json.size text := by
  rw [← Json.utf8ByteSize_ofList]
  rfl

/-- A record takes at least the bytes of its two ids. -/
theorem size_record (record : StoredGroupCredential) : 76 ≤ Json.size record.toJson := by
  have fields := Json.size_prettyObject 2 [Json.prettyField "gateway_id" record.gatewayId.toJson,
    Json.prettyField "group_id" record.groupId.toJson, Json.prettyField "join_token" (Json.string record.joinToken),
    Json.prettyField "invite_token" (Json.option Json.string record.inviteToken)]
  have gateway := Json.size_prettyField "gateway_id" record.gatewayId.toJson
  have group := Json.size_prettyField "group_id" record.groupId.toJson
  rw [size_uuid] at gateway group
  simp only [List.map_cons, List.sum_cons] at fields
  rw [StoredGroupCredential.toJson]
  omega

theorem length_prettyFile (file : CredentialFile) : 76 * file.records.length ≤ (prettyFile file).length := by
  have fields := Json.size_prettyObject 0 [Json.prettyField "version" (Json.number file.version),
    Json.prettyField "records" (Json.prettyArray 1 (file.records.map StoredGroupCredential.toJson))]
  have array := Json.size_prettyField "records" (Json.prettyArray 1 (file.records.map StoredGroupCredential.toJson))
  have items := Json.size_prettyArray 1 (file.records.map StoredGroupCredential.toJson)
  have each : (file.records.map fun _ => 76).sum ≤
      ((file.records.map StoredGroupCredential.toJson).map Json.size).sum := by
    rw [List.map_map]
    exact List.sum_le_sum fun record _ => size_record record
  simp only [List.map_cons, List.sum_cons] at fields
  rw [prettyFile, length_utf8Encode, CredentialFile.toJson]
  rw [List.map_const', List.sum_replicate_nat, Nat.mul_comm] at each
  omega

/-- With the credentials of 16384 groups the file is larger than the reader admits, whatever
it would decode to. -/
theorem saved_file_unreadable : ∃ calls store,
    Run (CredentialStore.call prettyFile) anyAction ⟨∅, none⟩ calls store ∧
      ∀ decode, CredentialStore.openAt decode store.file =
        .error "client credential file is unexpectedly large" := by
  obtain ⟨store, run, size, -, saved⟩ := CredentialStore.manyCalls_run 16384 (by decide)
  refine ⟨_, store, run, fun decode => ?_⟩
  have long := length_prettyFile store.records.toFile
  have count : store.records.toFile.records.length = 16384 := by
    simp [CredentialRecords.toFile, CredentialRecords.values, size]
  rw [count] at long
  rw [saved (by decide), CredentialStore.openAt, if_pos]
  simp only [maxCredentialFileBytes]
  omega

end LanChat
