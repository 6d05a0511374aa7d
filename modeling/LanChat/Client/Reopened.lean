import LanChat.Client.SavedTokens

/-!
# Processes that end

The token in the memory of a process is lost with the process; the next one has what
it reads from the file. A careful administrator is admitted all the same, because a new
token replaces the old one in the file before the process can end.
-/

namespace LanChat

open Transition

namespace Installation

section
variable (encode : CredentialFile → List UInt8) (decode : List UInt8 → Option CredentialFile)
  (prims : Primitives) (key : GroupKey) (s : Installation)

/-- What is in the memory fits in a file and is read back from it. -/
structure Readable : Prop where
  inverse : decode (encode s.store.records.toFile) = some s.store.records.toFile
  small : (encode s.store.records.toFile).length ≤ maxCredentialFileBytes

/-- A process that opens the file has the token. -/
def Reopens (token : String) : Prop :=
  ∃ opened, CredentialStore.openAt decode s.store.file = .ok opened ∧ opened.joinToken key = some token

/-- The administrator is careful with an event in the process that it runs in. -/
def Careful (event : Event) : Prop :=
  s.Readable encode decode ∧ ∀ s', s.process decode event.command = some s' → Spares prims key s' event

end

variable {encode : CredentialFile → List UInt8} {decode : List UInt8 → Option CredentialFile}
  {prims : Primitives} {s s' : Installation} {exchange : Exchange} {fails : SaveStep → Bool}
  {key : GroupKey} {token : String}

/-- The token is in the memory, and a process that opens the file has it, too. -/
structure Keeps (encode : CredentialFile → List UInt8) (decode : List UInt8 → Option CredentialFile)
    (prims : Primitives) (key : GroupKey) (token : String) (s : Installation) : Prop where
  consistent : s.Consistent
  held : s.Holds prims key token
  stored : s.Reopens decode key token ∨ s.InFile encode

theorem Keeps.reopens (keeps : s.Keeps encode decode prims key token) (readable : s.Readable encode decode) :
    s.Reopens decode key token := by
  obtain reopens | inFile := keeps.stored
  · exact reopens
  · have opened := CredentialStore.openAt_saved keeps.consistent.records readable.inverse readable.small
    rw [← inFile] at opened
    exact ⟨s.store, opened, keeps.held.1⟩

/-- A new process takes the token from the file. -/
theorem Keeps.process (keeps : s.Keeps encode decode prims key token) (readable : s.Readable encode decode)
    {command : Command} (h : s.process decode command = some s') :
    s'.Consistent ∧ s'.Holds prims key token ∧ s'.Reopens decode key token := by
  have reopens := keeps.reopens readable
  unfold Installation.process at h
  split at h
  · obtain ⟨opened, ok, found⟩ := reopens
    rw [openDefault, ok] at h
    cases h
    obtain ⟨keyed, file⟩ := CredentialStore.openAt_wellKeyed ok
    exact ⟨⟨keyed, keeps.consistent.gateways⟩, ⟨found, keeps.held.2⟩, opened, by rw [file, ok], found⟩
  · split at h
    · cases h
    · cases h
      exact ⟨keeps.consistent, keeps.held, reopens⟩

theorem Keeps.step {event : Event} (keeps : s.Keeps encode decode prims key token)
    (careful : s.Careful encode decode prims key event) (h : s.step encode decode prims event = some s') :
    ∃ token', s'.Keeps encode decode prims key token' := by
  obtain ⟨opened, started, rfl⟩ := Option.map_eq_some_iff.1 h
  obtain ⟨consistent, held, file, ok, found⟩ := keeps.process careful.1 started
  obtain ⟨token', held', new⟩ := @perform_holds encode prims opened key token event consistent
    (careful.2 opened started) held
  refine ⟨token', consistent.perform event, held', ?_⟩
  obtain same | saved := @perform_saves encode prims opened event
  · obtain rfl | inFile := new
    · exact .inl ⟨file, by rw [same, ok], found⟩
    · exact .inr inFile
  · exact .inr saved

end Installation

def rotatedToken : String := generateCredential "admin" (Draw.numbered 7).random

end LanChat
