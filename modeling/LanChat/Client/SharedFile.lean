import LanChat.Client.CredentialStore
import Mathlib.Logic.Function.Basic

/-!
# Processes that share the credentials

Each process opens `credentials.json` once and saves all of its own records with
every update. The file has what the last update of every key left as long as a
process that saves has seen the updates of the others.
-/

namespace LanChat

open Transition

namespace CredentialUpdate

/-- What a reader of the key finds after the update. -/
def value : CredentialUpdate → Option StoredGroupCredential
  | set gatewayId groupId joinToken inviteToken => some { gatewayId, groupId, joinToken, inviteToken }
  | remove _ _ => none

theorem getElem?_records (update : CredentialUpdate) (records : CredentialRecords) (key : GroupKey) :
    (update.records records)[key]? = Function.update (fun key => records[key]?) update.key update.value key := by
  have other (own : GroupKey) : compare own key = .eq ↔ key = own :=
    ⟨fun same => (Std.LawfulEqOrd.eq_of_compare same).symm, fun same => same ▸ Std.ReflCmp.compare_self⟩
  cases update with
  | set gatewayId groupId joinToken inviteToken =>
    rw [CredentialUpdate.records, Std.ExtTreeMap.getElem?_insert, Function.update_apply]
    simp only [other]
    rfl
  | remove gatewayId groupId =>
    rw [CredentialUpdate.records, Std.ExtTreeMap.getElem?_erase, Function.update_apply]
    simp only [other]
    rfl

end CredentialUpdate

/-- The file, and the records in the memory of each process. `last` is what the last
successful update of a key left, `saved` what the processes had after their updates. -/
structure SharedFile where
  file : Option (List UInt8)
  processes : List CredentialRecords
  last : GroupKey → Option StoredGroupCredential
  saved : List CredentialFile

inductive SharedAction where
  | opens
  | call (p : ℕ) (c : CredentialStore.Call)

namespace SharedFile

/-- No process has run yet. -/
def fresh : SharedFile := { file := none, processes := [], last := fun _ => none, saved := [] }

section
variable (encode : CredentialFile → List UInt8) (decode : List UInt8 → Option CredentialFile) (s : SharedFile)

def step : SharedAction → Option SharedFile
  | .opens => match CredentialStore.openAt decode s.file with
    | .ok store => some { s with processes := s.processes ++ [store.records] }
    | .error _ => none
  | .call p c => do
    let records ← s.processes[p]?
    let after ← CredentialStore.call encode ⟨records, s.file⟩ c
    some {
      file := after.file
      processes := s.processes.set p after.records
      last := Function.update s.last c.update.key c.update.value
      saved := s.saved ++ [after.records.toFile] }

/-- A process that opens the file now reads what the last updates left. -/
def Reads : Prop :=
  ∀ opened, CredentialStore.openAt decode s.file = .ok opened → ∀ key, opened.records[key]? = s.last key

/-- A process can open the file now. -/
def Opens : Prop := ∃ opened, CredentialStore.openAt decode s.file = .ok opened

/-- A process that saves has, for every other key, what the last update of that key
left. One that does not save has nothing to remove. -/
def Current : SharedAction → Prop
  | .opens => True
  | .call p c => ∀ records, s.processes[p]? = some records →
    if c.update.saves records then ∀ key, key ≠ c.update.key → records[key]? = s.last key
    else s.last c.update.key = none

/-- The file is one that a process saved. -/
structure Written : Prop where
  keyed : ∀ records ∈ s.processes, records.WellKeyed
  stored : s.file = none ∨ ∃ records : CredentialRecords, records.WellKeyed ∧
    s.file = some (encode records.toFile) ∧ records.toFile ∈ s.saved

/-- The file holds what the last updates left. -/
structure Intact : Prop where
  keyed : ∀ records ∈ s.processes, records.WellKeyed
  stored : (s.file = none ∧ ∀ key, s.last key = none) ∨
    ∃ records : CredentialRecords, records.WellKeyed ∧ s.file = some (encode records.toFile) ∧
      records.toFile ∈ s.saved ∧ ∀ key, records[key]? = s.last key

end

variable {encode : CredentialFile → List UInt8} {decode : List UInt8 → Option CredentialFile}
  {s t : SharedFile} {action : SharedAction} {actions : List SharedAction}

theorem intact_fresh : Intact encode fresh where
  keyed := by simp [fresh]
  stored := .inl ⟨rfl, fun _ => rfl⟩

theorem Intact.reads (intact : Intact encode s) (inverse : ∀ file ∈ s.saved, decode (encode file) = some file) :
    s.Reads decode := by
  intro opened opens key
  obtain ⟨none, empty⟩ | ⟨records, keyed, there, saved, last⟩ := intact.stored
  · rw [none] at opens
    cases opens
    rw [empty]
    simp
  · rw [there] at opens
    by_cases small : (encode records.toFile).length ≤ maxCredentialFileBytes
    · rw [CredentialStore.openAt_saved keyed (inverse _ saved) small] at opens
      cases opens
      exact last key
    · rw [CredentialStore.openAt, if_pos (by omega)] at opens
      cases opens

theorem step_opens {store : CredentialStore} (opens : CredentialStore.openAt decode s.file = .ok store) :
    s.step encode decode .opens = some { s with processes := s.processes ++ [store.records] } := by
  rw [step, opens]

theorem step_called {p : ℕ} {c : CredentialStore.Call} {records : CredentialRecords} {after : CredentialStore}
    (found : s.processes[p]? = some records)
    (called : CredentialStore.call encode ⟨records, s.file⟩ c = some after) :
    s.step encode decode (.call p c) = some {
      file := after.file
      processes := s.processes.set p after.records
      last := Function.update s.last c.update.key c.update.value
      saved := s.saved ++ [after.records.toFile] } := by
  simp only [step, found, called, bind, Option.bind_some]

/-- What a call does to the shared file. -/
theorem step_call {p : ℕ} {c : CredentialStore.Call} (taken : s.step encode decode (.call p c) = some t) :
    ∃ records after, s.processes[p]? = some records ∧
      CredentialStore.call encode ⟨records, s.file⟩ c = some after ∧
      t = {
        file := after.file
        processes := s.processes.set p after.records
        last := Function.update s.last c.update.key c.update.value
        saved := s.saved ++ [after.records.toFile] } := by
  obtain ⟨records, found, taken⟩ := Option.bind_eq_some_iff.1 taken
  obtain ⟨after, called, same⟩ := Option.bind_eq_some_iff.1 taken
  exact ⟨records, after, found, called, (Option.some.inj same).symm⟩

/-- What a call leaves in the memory of its process is well keyed, and is in the file if the call saves. -/
theorem call_keyed {records : CredentialRecords} {after : CredentialStore} {c : CredentialStore.Call}
    (keyed : records.WellKeyed) (called : CredentialStore.call encode ⟨records, s.file⟩ c = some after) :
    after.records.WellKeyed ∧ (after.file = s.file ∨ after.file = some (encode after.records.toFile)) := by
  obtain ⟨own, rfl | saved⟩ := CredentialStore.call_saved (by exact keyed) called
  · exact ⟨own, .inl rfl⟩
  · exact ⟨own, .inr saved⟩

/-- The processes stay well keyed, whether the calls are current or not. -/
theorem keyed_step (keyed : ∀ records ∈ s.processes, records.WellKeyed)
    (taken : s.step encode decode action = some t) : ∀ records ∈ t.processes, records.WellKeyed := by
  intro other mem
  cases action with
  | opens =>
    simp only [step] at taken
    split at taken
    · next store opened =>
      cases taken
      rcases List.mem_append.1 mem with old | new
      · exact keyed other old
      · obtain rfl := List.mem_singleton.1 new
        exact (CredentialStore.openAt_wellKeyed opened).1
    · cases taken
  | call p c =>
    obtain ⟨records, after, found, called, rfl⟩ := step_call taken
    rcases List.mem_or_eq_of_mem_set mem with old | rfl
    · exact keyed other old
    · exact (call_keyed (keyed records (List.mem_of_getElem? found)) called).1

theorem saved_step (taken : s.step encode decode action = some t) : s.saved ⊆ t.saved := by
  cases action with
  | opens =>
    simp only [step] at taken
    split at taken <;> cases taken
    exact List.Subset.refl _
  | call p c =>
    obtain ⟨records, after, -, -, rfl⟩ := step_call taken
    exact List.subset_append_left _ _

theorem Written.step (written : Written encode s) (taken : s.step encode decode action = some t) :
    Written encode t := by
  refine ⟨keyed_step written.keyed taken, ?_⟩
  cases action with
  | opens =>
    simp only [SharedFile.step] at taken
    split at taken
    · cases taken
      exact written.stored
    · cases taken
  | call p c =>
    obtain ⟨records, after, found, called, rfl⟩ := step_call taken
    obtain ⟨own, same | saved⟩ := call_keyed (written.keyed records (List.mem_of_getElem? found)) called
    · obtain unsaved | ⟨stored, keyed, there, mem⟩ := written.stored
      · exact .inl (same.trans unsaved)
      · exact .inr ⟨stored, keyed, same.trans there, List.mem_append_left _ mem⟩
    · exact .inr ⟨after.records, own, saved, List.mem_append_right _ (List.mem_singleton_self _)⟩

theorem Written.opens (written : Written encode s) (inverse : ∀ file ∈ s.saved, decode (encode file) = some file)
    (small : ∀ file ∈ s.saved, (encode file).length ≤ maxCredentialFileBytes) : s.Opens decode := by
  obtain unsaved | ⟨records, keyed, there, saved⟩ := written.stored
  · exact ⟨⟨∅, none⟩, by rw [unsaved, CredentialStore.openAt]⟩
  · exact ⟨_, by rw [there]; exact CredentialStore.openAt_saved keyed (inverse _ saved) (small _ saved)⟩

/-- A current call leaves the file intact. -/
theorem Intact.step (intact : Intact encode s)
    (current : s.Current action) (taken : s.step encode decode action = some t) : Intact encode t := by
  refine ⟨keyed_step intact.keyed taken, ?_⟩
  cases action with
  | opens =>
    simp only [SharedFile.step] at taken
    split at taken
    · cases taken
      exact intact.stored
    · cases taken
  | call p c =>
    obtain ⟨records, after, found, called, rfl⟩ := step_call taken
    have keyed := intact.keyed records (List.mem_of_getElem? found)
    have saves := CredentialStore.call_cases called
    have current := current records found
    split at saves
    · next writes =>
      obtain ⟨rfl, keeps⟩ := saves
      rw [if_pos writes] at current
      refine .inr ⟨c.update.records records, keeps keyed, rfl,
        List.mem_append_right _ (List.mem_singleton_self _), fun key => ?_⟩
      change _ = Function.update s.last c.update.key c.update.value key
      rw [CredentialUpdate.getElem?_records, Function.update_apply, Function.update_apply]
      split
      · rfl
      · next other => exact current key other
    · next idle =>
      subst saves
      rw [if_neg idle] at current
      -- the key is not in the file either
      have absent : c.update.value = none := by
        cases update : c.update with
        | set => exact absurd (by rw [update]; rfl) idle
        | remove => rfl
      have same : Function.update s.last c.update.key c.update.value = s.last := by
        rw [absent, ← current, Function.update_eq_self]
      simp only [same]
      refine intact.stored.imp_right ?_
      rintro ⟨stored, own, there, saved, last⟩
      exact ⟨stored, own, there, List.mem_append_left _ saved, last⟩

/-- A call that is not current does not. -/
theorem Intact.stale (intact : Intact encode s) (taken : s.step encode decode action = some t)
    (inverse : ∀ file ∈ t.saved, decode (encode file) = some file)
    (small : ∀ file ∈ t.saved, (encode file).length ≤ maxCredentialFileBytes) (reads : t.Reads decode) :
    s.Current action := by
  cases action with
  | opens => trivial
  | call p c =>
    obtain ⟨own, after, found, called, rfl⟩ := step_call taken
    intro records found'
    obtain rfl := Option.some.inj (found.symm.trans found')
    have saves := CredentialStore.call_cases called
    split at saves
    · next writes =>
      obtain ⟨rfl, keeps⟩ := saves
      rw [if_pos writes]
      intro key other
      have mem : (c.update.records own).toFile ∈ s.saved ++ [(c.update.records own).toFile] :=
        List.mem_append_right _ (List.mem_singleton_self _)
      have read : (c.update.records own)[key]? = Function.update s.last c.update.key c.update.value key :=
        reads _ (CredentialStore.openAt_saved (keeps (intact.keyed own (List.mem_of_getElem? found)))
          (inverse _ mem) (small _ mem)) key
      rwa [CredentialUpdate.getElem?_records, Function.update_of_ne other, Function.update_of_ne other] at read
    · next idle =>
      subst saves
      rw [if_neg idle]
      have absent : c.update.value = none := by
        cases update : c.update with
        | set => exact absurd (by rw [update]; rfl) idle
        | remove => rfl
      obtain ⟨-, empty⟩ | ⟨stored, keyed, there, saved, last⟩ := intact.stored
      · exact empty _
      · have mem : stored.toFile ∈ s.saved ++ [own.toFile] := List.mem_append_left _ saved
        have opens := CredentialStore.openAt_saved keyed (inverse _ mem) (small _ mem)
        rw [← there] at opens
        have read : stored[c.update.key]? = Function.update s.last c.update.key c.update.value c.update.key :=
          reads _ opens c.update.key
        rw [← last, read, Function.update_self, absent]

theorem saved_run {ok : SharedFile → SharedAction → Prop}
    (run : Run (SharedFile.step encode decode) ok s actions t) : s.saved ⊆ t.saved :=
  run.preserves (I := fun u => s.saved ⊆ u.saved)
    (fun _ _ _ seen _ taken => List.Subset.trans seen (saved_step taken)) (List.Subset.refl _)

/-- In a run whose calls are current, every state reads what the last updates left. -/
theorem reads_of_current (intact : Intact encode s) (run : Run (SharedFile.step encode decode) Current s actions t)
    (inverse : ∀ file ∈ t.saved, decode (encode file) = some file) :
    Run (SharedFile.step encode decode) (fun u _ => u.Reads decode) s actions t ∧ t.Reads decode := by
  induction run with
  | nil => exact ⟨.nil _, intact.reads inverse⟩
  | cons current taken rest ih =>
    obtain ⟨run, reads⟩ := ih (intact.step current taken) inverse
    have seen := List.Subset.trans (saved_step taken) (saved_run rest)
    exact ⟨.cons (intact.reads fun file mem => inverse file (seen mem)) taken run, reads⟩

/-- Every state of a run opens while the files that are saved fit the reader. -/
theorem opens_of_small (written : Written encode s) (run : Run (SharedFile.step encode decode) anyAction s actions t)
    (inverse : ∀ file ∈ t.saved, decode (encode file) = some file)
    (small : ∀ file ∈ t.saved, (encode file).length ≤ maxCredentialFileBytes) :
    Run (SharedFile.step encode decode) (fun u _ => u.Opens decode) s actions t ∧ t.Opens decode := by
  induction run with
  | nil => exact ⟨.nil _, written.opens inverse small⟩
  | cons _ taken rest ih =>
    obtain ⟨run, opens⟩ := ih (written.step taken) inverse small
    have seen := List.Subset.trans (saved_step taken) (saved_run rest)
    have here := written.opens (fun file mem => inverse file (seen mem)) fun file mem => small file (seen mem)
    exact ⟨.cons here taken run, opens⟩

theorem reads_start (run : Run (SharedFile.step encode decode) (fun u _ => u.Reads decode) s actions t)
    (reads : t.Reads decode) : s.Reads decode := by
  cases run with
  | nil => exact reads
  | cons here => exact here

theorem current_of_reads (intact : Intact encode s)
    (run : Run (SharedFile.step encode decode) (fun u _ => u.Reads decode) s actions t) (reads : t.Reads decode)
    (inverse : ∀ file ∈ t.saved, decode (encode file) = some file)
    (small : ∀ file ∈ t.saved, (encode file).length ≤ maxCredentialFileBytes) :
    Run (SharedFile.step encode decode) Current s actions t := by
  induction run with
  | nil => exact .nil _
  | cons _ taken rest ih =>
    have seen := saved_run rest
    have current := intact.stale taken (fun file mem => inverse file (seen mem))
      (fun file mem => small file (seen mem)) (reads_start rest reads)
    exact .cons current taken (ih (intact.step current taken) reads inverse small)

end SharedFile

/-- **No update is lost exactly when every call is current**: a process that opens the
file in any state of the run reads what the last update of each key left. It can open the file
while what is saved fits the reader. -/
theorem no_update_lost_iff {encode : CredentialFile → List UInt8} {decode : List UInt8 → Option CredentialFile}
    {actions : List SharedAction} {s : SharedFile}
    (inverse : ∀ file ∈ s.saved, decode (encode file) = some file) :
    (Run (SharedFile.step encode decode) SharedFile.Current .fresh actions s →
      Run (SharedFile.step encode decode) (fun t _ => t.Reads decode) .fresh actions s ∧ s.Reads decode) ∧
    ((∀ file ∈ s.saved, (encode file).length ≤ maxCredentialFileBytes) →
      Run (SharedFile.step encode decode) (fun t _ => t.Reads decode) .fresh actions s → s.Reads decode →
      Run (SharedFile.step encode decode) SharedFile.Current .fresh actions s) ∧
    ((∀ file ∈ s.saved, (encode file).length ≤ maxCredentialFileBytes) →
      Run (SharedFile.step encode decode) anyAction .fresh actions s →
      Run (SharedFile.step encode decode) (fun t _ => t.Opens decode) .fresh actions s ∧ s.Opens decode) := by
  refine ⟨fun current => ?_, fun small states reads => ?_, fun small run => ?_⟩
  · exact SharedFile.reads_of_current SharedFile.intact_fresh current inverse
  · exact SharedFile.current_of_reads SharedFile.intact_fresh states reads inverse small
  · exact SharedFile.opens_of_small ⟨by simp [SharedFile.fresh], .inl rfl⟩ run inverse small

/-- A credential for another group. -/
def awayKey : GroupKey := ⟨⟨1⟩, ⟨3⟩⟩

def rememberAway : CredentialUpdate := .set awayKey.gatewayId awayKey.groupId "lc_member_1" none

/-- The file of a process that has the other credential only. -/
def awayRecords : CredentialRecords := rememberAway.records ∅

/-- The file of a process that has seen the first credential. -/
def bothRecords : CredentialRecords := rememberAway.records homeRecords

def readsBoth : List UInt8 → Option CredentialFile := readsEither homeRecords.toFile bothRecords.toFile

/-- A process remembers a credential; another one that is opened then remembers a second one. -/
theorem no_update_lost_first : ∃ s : SharedFile,
    Run (SharedFile.step prettyFile readsBoth) anyAction .fresh
      [.opens, .call 0 ⟨fun _ => false, rememberHome⟩, .opens, .call 1 ⟨fun _ => false, rememberAway⟩] s ∧
      s.Reads readsBoth ∧ s.Opens readsBoth ∧ s.last homeKey ≠ none ∧ s.last awayKey ≠ none := by
  let opened : SharedFile := { SharedFile.fresh with processes := [∅] }
  let first : SharedFile := {
    file := some (prettyFile homeRecords.toFile)
    processes := [homeRecords]
    last := Function.update (fun _ => none) homeKey rememberHome.value
    saved := [homeRecords.toFile] }
  let second : SharedFile := { first with processes := [homeRecords, homeRecords] }
  let s : SharedFile := {
    file := some (prettyFile bothRecords.toFile)
    processes := [homeRecords, bothRecords]
    last := Function.update first.last awayKey rememberAway.value
    saved := [homeRecords.toFile, bothRecords.toFile] }
  have different : homeRecords.toFile.toJson ≠ bothRecords.toFile.toJson := by decide +kernel
  have inverse : ∀ file ∈ s.saved, readsBoth (prettyFile file) = some file :=
    fun file mem => readsEither_prettyFile different mem
  have sizes : ∀ file ∈ [homeRecords.toFile, bothRecords.toFile],
      Json.size file.toJson ≤ maxCredentialFileBytes := by
    decide +kernel
  have small : ∀ file ∈ s.saved, (prettyFile file).length ≤ maxCredentialFileBytes := by
    intro file mem
    rw [prettyFile, length_utf8Encode]
    exact sizes file mem
  have called : CredentialStore.call prettyFile ⟨∅, none⟩ ⟨fun _ => false, rememberHome⟩ =
      some ⟨homeRecords, some (prettyFile homeRecords.toFile)⟩ := rfl
  have calledAgain : CredentialStore.call prettyFile ⟨homeRecords, some (prettyFile homeRecords.toFile)⟩
      ⟨fun _ => false, rememberAway⟩ = some ⟨bothRecords, some (prettyFile bothRecords.toFile)⟩ := rfl
  have keyed : homeRecords.WellKeyed :=
    (CredentialStore.call_saved (fun key record there => by simp at there) called).1
  have opens := CredentialStore.openAt_saved keyed (inverse homeRecords.toFile (by simp [s]))
    (small homeRecords.toFile (by simp [s]))
  have remembers := @SharedFile.step_called prettyFile readsBoth opened 0 _ _ _ rfl called
  have reopens := @SharedFile.step_opens prettyFile readsBoth first _ opens
  have remembersAgain := @SharedFile.step_called prettyFile readsBoth second 1 _ _ _ rfl calledAgain
  have run : Run (SharedFile.step prettyFile readsBoth) SharedFile.Current .fresh
      [.opens, .call 0 ⟨fun _ => false, rememberHome⟩, .opens, .call 1 ⟨fun _ => false, rememberAway⟩] s := by
    refine .cons (t := opened) trivial rfl (.cons (t := first) ?_ remembers
      (.cons (t := second) trivial reopens (.cons ?_ remembersAgain (.nil _))))
    · intro records found key _
      cases found
      simp [opened, SharedFile.fresh]
    · -- the second process has read the first one's credential
      intro records found key _
      cases found
      exact (CredentialUpdate.getElem?_records rememberHome ∅ key).trans (by simp; rfl)
  have any : Run (SharedFile.step prettyFile readsBoth) anyAction .fresh _ s := run.mono fun _ _ _ => trivial
  obtain ⟨reads, -, opens⟩ := no_update_lost_iff inverse
  exact ⟨s, any, (reads run).2, (opens small any).2, Option.some_ne_none _, Option.some_ne_none _⟩

/-- Two processes are open, each remembers a credential, and the first one is gone. -/
theorem update_lost : ∃ s : SharedFile,
    Run (SharedFile.step prettyFile (readsBack awayRecords.toFile)) anyAction .fresh
      [.opens, .opens, .call 0 ⟨fun _ => false, rememberHome⟩, .call 1 ⟨fun _ => false, rememberAway⟩] s ∧
      s.last homeKey = rememberHome.value ∧ ∃ opened,
        CredentialStore.openAt (readsBack awayRecords.toFile) s.file = .ok opened ∧
          opened.records[homeKey]? = none ∧ ¬ s.Reads (readsBack awayRecords.toFile) := by
  let s : SharedFile := {
    file := some (prettyFile awayRecords.toFile)
    processes := [homeRecords, awayRecords]
    last := Function.update (Function.update (fun _ => none) rememberHome.key rememberHome.value)
      rememberAway.key rememberAway.value
    saved := [homeRecords.toFile, awayRecords.toFile] }
  have last : s.last homeKey = rememberHome.value := rfl
  have called : CredentialStore.call prettyFile ⟨∅, none⟩ ⟨fun _ => false, rememberAway⟩ =
      some ⟨awayRecords, some (prettyFile awayRecords.toFile)⟩ := rfl
  have keyed : awayRecords.WellKeyed :=
    (CredentialStore.call_saved (fun key record there => by simp at there) called).1
  have opens := CredentialStore.openAt_saved keyed (readsBack_prettyFile awayRecords.toFile) (by decide +kernel)
  have gone : awayRecords[homeKey]? = none := by decide +kernel
  refine ⟨s, .cons trivial rfl (.cons trivial rfl (.cons trivial rfl (.cons trivial rfl (.nil _)))), last,
    _, opens, gone, fun reads => ?_⟩
  have read := reads _ opens homeKey
  rw [gone, last] at read
  cases read

end LanChat
