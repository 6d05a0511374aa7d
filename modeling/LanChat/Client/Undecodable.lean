import LanChat.Client.ChatApp
import LanChat.Client.Sanitize

/-!
# Frames that hold no message

The task of a connection ends at a frame it cannot decode, and the decoder's
complaint becomes the reason that the view and `send_message` show. Decoded
messages pass the sanitizer; this text does not, and the decoder repeats
strings of the frame in it.
-/

namespace LanChat

/-- A part of a decoding error: words of the decoder, or a string of the frame as it stands there. -/
inductive ErrorPart where
  | words (text : String)
  | repeated (text : String)
deriving DecidableEq, Repr

def ErrorPart.text : ErrorPart → String
  | words text => text
  | repeated text => text

def errorText : List ErrorPart → String
  | [] => ""
  | part :: parts => part.text ++ errorText parts

/-- The names of the variants of `ServerMessage`. -/
def serverMessageTypes : List String :=
  ["gateway_welcome", "join_pending", "welcome", "chat", "room_created", "room_joined", "room_left",
    "history_page", "join_requests", "group_members", "group_token_rotated", "room_members",
    "private_message", "private_closed", "member_joined", "member_left", "error", "pong"]

/-- The names between backticks, with commas between them. -/
def oneOf : List String → String
  | [] => ""
  | [name] => "`" ++ (name ++ "`")
  | name :: names => "`" ++ (name ++ ("`, " ++ oneOf names))

def unknownVariant (type : String) : List ErrorPart :=
  [.words "unknown variant `", .repeated type, .words ("`, expected one of " ++ oneOf serverMessageTypes)]

/-- `serde_json::from_slice` for a `ServerMessage`. `typeOf` is the `type` of a frame that is
an object with such a string first in it. -/
structure MessageDecoder where
  decode : List UInt8 → Except (List ErrorPart) ServerMessage
  typeOf : List UInt8 → Option String
  words_printable : ∀ frame parts text, decode frame = .error parts → .words text ∈ parts → Printable text
  unknown_type : ∀ frame type, typeOf frame = some type → type ∉ serverMessageTypes →
    ∃ position, decode frame = .error (unknownVariant type ++ [.words position])

namespace MessageDecoder

variable (decoder : MessageDecoder)

/-- The reading branch of `finish_connection`: a message for the view, or why the task ends. -/
def handleFrame (frame : List UInt8) : Except String ServerMessage :=
  match decoder.decode frame with
  | .error parts =>
    .error ("connection closed: incoming encrypted frame contains invalid JSON: " ++ errorText parts)
  | .ok message => match sanitizeServerMessage message with
    | .error error => .error ("server sent unsafe data: " ++ error)
    | .ok message => .ok message

/-- The events the view receives for the frames of the gateway. -/
def events : List (List UInt8) → List ClientEvent
  | [] => []
  | frame :: frames => match decoder.handleFrame frame with
    | .ok message => .server message :: events frames
    | .error reason => [.disconnected reason]

end MessageDecoder

/-- `send_message` after its message is sent, over the events until the channel closes. -/
def awaitEcho (messageId : Uuid) : List ClientEvent → Except String ChatRecord
  | [] => .error "connection closed before the server acknowledged the message"
  | .server (.chat message) :: events =>
    if message.messageId = messageId then .ok message else awaitEcho messageId events
  | .server (.error code message) :: _ => .error s!"server rejected the message ({code}): {message}"
  | .disconnected reason :: _ => .error reason
  | .server _ :: events => awaitEcho messageId events

/-- The events `send_message` goes past. -/
def passes (messageId : Uuid) : ClientEvent → Bool
  | .server (.chat message) => message.messageId ≠ messageId
  | .server (.error _ _) => false
  | .disconnected _ => false
  | .server _ => true

/-! ## Printable texts -/

theorem printable_append {a b : String} : Printable (a ++ b) ↔ Printable a ∧ Printable b := by
  simp only [Printable, String.toList_append, List.forall_mem_append]

theorem oneOf_printable {names : List String} (printable : ∀ name ∈ names, Printable name) :
    Printable (oneOf names) := by
  have quote : Printable "`" ∧ Printable "`, " := by decide
  induction names with
  | nil => simp [oneOf, Printable]
  | cons name names ih =>
    rw [List.forall_mem_cons] at printable
    cases names with
    | nil =>
      simp only [oneOf, printable_append]
      exact ⟨quote.1, printable.1, quote.1⟩
    | cons next names =>
      simp only [oneOf, printable_append]
      exact ⟨quote.1, printable.1, quote.2, ih printable.2⟩

theorem serverMessageTypes_printable : ∀ name ∈ serverMessageTypes, Printable name := by decide +kernel

theorem errorText_printable {parts : List ErrorPart} :
    Printable (errorText parts) ↔ ∀ part ∈ parts, Printable part.text := by
  induction parts with
  | nil => simp [errorText, Printable]
  | cons part parts ih => rw [errorText, printable_append, ih, List.forall_mem_cons]

section
variable {decoder : MessageDecoder} {frame : List UInt8} {frames : List (List UInt8)}
  {parts : List ErrorPart} {reason : String} {messageId : Uuid} {before : List ClientEvent}

/-- The words of the decoder are harmless, so what it repeats decides. -/
theorem MessageDecoder.errorText_printable_iff (undecodable : decoder.decode frame = .error parts) :
    Printable (errorText parts) ↔ ∀ text, .repeated text ∈ parts → Printable text := by
  rw [errorText_printable]
  constructor
  · intro printable text mem
    exact printable _ mem
  · intro repeated part mem
    cases part with
    | words text => exact decoder.words_printable frame parts text undecodable mem
    | repeated text => exact repeated text mem

theorem MessageDecoder.unknown_type_printable {type : String} (tagged : decoder.typeOf frame = some type)
    (unknown : type ∉ serverMessageTypes) (undecodable : decoder.decode frame = .error parts) :
    (∀ text, .repeated text ∈ parts → Printable text) ↔ Printable type := by
  obtain ⟨position, error⟩ := decoder.unknown_type frame type tagged unknown
  rw [undecodable] at error
  cases error
  simp [unknownVariant]

/-- A frame that does not decode ends the events. -/
theorem MessageDecoder.events_undecodable (undecodable : decoder.decode frame = .error parts) :
    decoder.events (frame :: frames) = [.disconnected
      ("connection closed: incoming encrypted frame contains invalid JSON: " ++ errorText parts)] := by
  simp only [events, handleFrame, undecodable]

/-- Accepted frames become events one by one, and the first that is not accepted ends them. -/
theorem MessageDecoder.events_append (accepted : ∀ f ∈ frames, (decoder.handleFrame f).isOk)
    (later : List (List UInt8)) :
    decoder.events (frames ++ later) = decoder.events frames ++ decoder.events later := by
  induction frames with
  | nil => rfl
  | cons f frames ih =>
    rw [List.forall_mem_cons] at accepted
    have rest := ih accepted.2
    cases handled : decoder.handleFrame f with
    | error reason => simp [handled, Except.isOk, Except.toBool] at accepted
    | ok message => simp only [List.cons_append, events, handled, rest]

theorem awaitEcho_disconnected (passed : ∀ event ∈ before, passes messageId event) :
    awaitEcho messageId (before ++ [.disconnected reason]) = .error reason := by
  induction before with
  | nil => rfl
  | cons event before ih =>
    rw [List.forall_mem_cons] at passed
    have rest := ih passed.2
    have first := passed.1
    match event with
    | .disconnected _ => cases first
    | .server message =>
      cases message with
      | error code text => cases first
      | chat record =>
        simp only [passes, ne_eq, decide_eq_true_eq] at first
        simp only [List.cons_append, awaitEcho, if_neg first, rest]
      | _ => simp only [List.cons_append, awaitEcho, rest]

end

/-- **What an undecodable frame shows.** It ends the events with a reason, which is also the
error of a `send_message` that still waits. That text is free of terminal controls exactly
when each string of the frame that the decoder repeats is: for a frame of unknown type, when
its type is. -/
theorem undecodable_frame_text (decoder : MessageDecoder) (messageId : Uuid)
    {frames later : List (List UInt8)} {frame : List UInt8} {parts : List ErrorPart}
    (accepted : ∀ f ∈ frames, (decoder.handleFrame f).isOk)
    (undecodable : decoder.decode frame = .error parts) :
    ∃ reason, decoder.events (frames ++ frame :: later) =
        decoder.events frames ++ [.disconnected reason] ∧
      ((∀ event ∈ decoder.events frames, passes messageId event) →
        awaitEcho messageId (decoder.events (frames ++ frame :: later)) = .error reason) ∧
      (Printable reason ↔ ∀ text, .repeated text ∈ parts → Printable text) ∧
      ∀ type, decoder.typeOf frame = some type → type ∉ serverMessageTypes →
        (Printable reason ↔ Printable type) := by
  have shown := decoder.events_append accepted (frame :: later)
  rw [MessageDecoder.events_undecodable undecodable] at shown
  have introduction : Printable "connection closed: incoming encrypted frame contains invalid JSON: " := by decide +kernel
  have repeated : Printable
      ("connection closed: incoming encrypted frame contains invalid JSON: " ++ errorText parts) ↔
        ∀ text, .repeated text ∈ parts → Printable text := by
    rw [printable_append, and_iff_right introduction]
    exact MessageDecoder.errorText_printable_iff undecodable
  refine ⟨_, shown, fun passed => ?_, repeated, fun type tagged unknown => ?_⟩
  · rw [shown]
    exact awaitEcho_disconnected passed
  · rw [repeated]
    exact MessageDecoder.unknown_type_printable tagged unknown undecodable

/-! ## A decoder to evaluate with -/

def hexValue (byte : UInt8) : Option ℕ :=
  if 48 ≤ byte && byte ≤ 57 then some (byte.toNat - 48)
  else if 97 ≤ byte && byte ≤ 102 then some (byte.toNat - 87)
  else none

/-- The rest of a frame that holds a type and nothing else, from inside its string. The
escapes are those of the first 256 characters. -/
def scanType : List UInt8 → Option (List Char)
  | [34, 125] => some []
  | 92 :: 117 :: 48 :: 48 :: high :: low :: rest => do
    let high ← hexValue high
    let low ← hexValue low
    let chars ← scanType rest
    return Char.ofNat (high * 16 + low) :: chars
  | byte :: rest =>
    if 32 ≤ byte && byte < 127 && byte ≠ 34 && byte ≠ 92 then
      (scanType rest).map (Char.ofNat byte.toNat :: ·)
    else none
  | [] => none

def asciiFrame (text : String) : List UInt8 := text.toList.map fun ch => UInt8.ofNat ch.toNat

/-- The type of a frame that is an object with a type alone. -/
def scanTypeFrame (frame : List UInt8) : Option String :=
  if (asciiFrame "\x7b\"type\":\"").isPrefixOf frame then (scanType (frame.drop 9)).map String.ofList
  else none

def decodeTypes (frame : List UInt8) : Except (List ErrorPart) ServerMessage :=
  match scanTypeFrame frame with
  | none => .error [.words "expected value at line 1 column 1"]
  | some type =>
    if type = "pong" then .ok .pong
    else if type ∈ serverMessageTypes then .error [.words "missing field"]
    else .error (unknownVariant type ++ [.words " at line 1 column 19"])

theorem decodeTypes_words (frame : List UInt8) (parts : List ErrorPart) (text : String)
    (error : decodeTypes frame = .error parts) (mem : .words text ∈ parts) : Printable text := by
  have short : ∀ words ∈ ["expected value at line 1 column 1", "missing field", "unknown variant `",
      "`, expected one of ", " at line 1 column 19"], Printable words := by decide +kernel
  have known : ∀ words ∈ ["expected value at line 1 column 1", "missing field", "unknown variant `",
      "`, expected one of " ++ oneOf serverMessageTypes, " at line 1 column 19"], Printable words := by
    have long := printable_append.2
      ⟨short "`, expected one of " (by simp), oneOf_printable serverMessageTypes_printable⟩
    simp only [List.forall_mem_cons, List.not_mem_nil, false_implies, implies_true, and_true] at short ⊢
    exact ⟨short.1, short.2.1, short.2.2.1, long, short.2.2.2.2⟩
  apply known
  unfold decodeTypes at error
  split at error
  · cases error
    simp_all
  · split_ifs at error
    all_goals
      cases error
      simp_all [unknownVariant]

theorem decodeTypes_unknown (frame : List UInt8) (type : String) (tagged : scanTypeFrame frame = some type)
    (unknown : type ∉ serverMessageTypes) :
    ∃ position, decodeTypes frame = .error (unknownVariant type ++ [.words position]) := by
  have other : type ≠ "pong" := by
    rintro rfl
    exact unknown (by decide)
  exact ⟨" at line 1 column 19", by simp only [decodeTypes, tagged, if_neg other, if_neg unknown]⟩

/-- The decoder on frames with nothing but a type. -/
def MessageDecoder.typesOnly : MessageDecoder where
  decode := decodeTypes
  typeOf := scanTypeFrame
  words_printable := decodeTypes_words
  unknown_type := decodeTypes_unknown

def pongFrame : List UInt8 := asciiFrame "\x7b\"type\":\"pong\"\x7d"

/-- A gateway clears the screen of a client. -/
def clearScreenFrame : List UInt8 := asciiFrame "\x7b\"type\":\"\\u001b[2J\"\x7d"

def clearScreenError : List ErrorPart :=
  unknownVariant "\x1b[2J" ++ [.words " at line 1 column 19"]

theorem undecodable_frame_text_pong :
    ∃ reason, MessageDecoder.typesOnly.events ([pongFrame] ++ [clearScreenFrame]) =
        MessageDecoder.typesOnly.events [pongFrame] ++ [.disconnected reason] ∧
      ((∀ event ∈ MessageDecoder.typesOnly.events [pongFrame], passes ⟨1⟩ event) →
        awaitEcho ⟨1⟩ (MessageDecoder.typesOnly.events ([pongFrame] ++ [clearScreenFrame])) =
          .error reason) ∧
      (Printable reason ↔ ∀ text, .repeated text ∈ clearScreenError → Printable text) ∧
      ∀ type, MessageDecoder.typesOnly.typeOf clearScreenFrame = some type → type ∉ serverMessageTypes →
        (Printable reason ↔ Printable type) :=
  undecodable_frame_text .typesOnly ⟨1⟩ (by decide +kernel) (by decide +kernel)

/-- The escape of the type stands in the reason and in the error. -/
theorem undecodable_frame_clears_screen :
    ∃ reason, MessageDecoder.typesOnly.events [clearScreenFrame] = [.disconnected reason] ∧
      awaitEcho ⟨1⟩ (MessageDecoder.typesOnly.events [clearScreenFrame]) = .error reason ∧
      ¬ Printable reason := by
  have undecodable : MessageDecoder.typesOnly.decode clearScreenFrame = .error clearScreenError := by
    decide +kernel
  have escape : ¬ Printable "\x1b[2J" := by decide
  have shown := @MessageDecoder.events_undecodable _ _ [] _ undecodable
  refine ⟨_, shown, by rw [shown]; rfl, fun printable => escape ?_⟩
  exact (MessageDecoder.errorText_printable_iff undecodable).1 (printable_append.1 printable).2 _
    (by simp [clearScreenError, unknownVariant])

end LanChat
