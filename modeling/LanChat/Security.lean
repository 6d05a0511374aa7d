import LanChat.Protocol
import Mathlib.Data.List.DropRight

/-!
# Sanitizing names and texts

The functions of `security.rs`. Rust's `char::is_control` is the Unicode
category Cc and `str::trim` removes the White_Space property at both ends.
-/

namespace LanChat

def maxNicknameChars : ℕ := 32
def maxGroupNameChars : ℕ := 64
def maxStatusChars : ℕ := 256
def maxMessageBytes : ℕ := 4096
def maxMessageLines : ℕ := 40
def maxGroupCredentialBytes : ℕ := 128

/-- The Unicode White_Space property. -/
def isWhitespace (ch : Char) : Bool :=
  let n := ch.toNat
  (9 ≤ n && n ≤ 13) || n == 0x20 || n == 0x85 || n == 0xA0 || n == 0x1680 ||
    (0x2000 ≤ n && n ≤ 0x200A) || n == 0x2028 || n == 0x2029 || n == 0x202F || n == 0x205F ||
    n == 0x3000

/-- The Unicode category Cc. -/
def isControl (ch : Char) : Bool := ch.toNat < 0x20 || (0x7F ≤ ch.toNat && ch.toNat ≤ 0x9F)

def isForbiddenTerminalChar (ch : Char) : Bool :=
  ch.toNat == 0x1b || ch.toNat == 0x7f ||
    (isControl ch && ch != '\n' && ch != '\r' && ch != '\t') ||
    (0x80 ≤ ch.toNat && ch.toNat ≤ 0x9f)

/-- `str::trim`, on the characters of a string. -/
def trim (chars : List Char) : List Char :=
  (chars.dropWhile isWhitespace).rdropWhile isWhitespace

def isAsciiAlphanumeric (ch : Char) : Bool :=
  ('0' ≤ ch && ch ≤ '9') || ('a' ≤ ch && ch ≤ 'z') || ('A' ≤ ch && ch ≤ 'Z')

def isAsciiHexdigit (ch : Char) : Bool :=
  ('0' ≤ ch && ch ≤ '9') || ('a' ≤ ch && ch ≤ 'f') || ('A' ≤ ch && ch ≤ 'F')

/-- Room identifiers and error codes. -/
def isSafeIdentifier (value : String) : Bool :=
  !value.toList.isEmpty && value.utf8ByteSize ≤ 64 &&
    value.toList.all fun ch => isAsciiAlphanumeric ch || ch == '-' || ch == '_' || ch == '.'

/-- Six groups of four hexadecimal digits. The positions are byte offsets;
a string that passes has only one-byte characters. -/
def isValidFingerprint (value : String) : Bool :=
  value.utf8ByteSize == 29 && go 0 value.toList
where
  go (index : ℕ) : List Char → Bool
    | [] => true
    | ch :: chars =>
      (if index ∈ [4, 9, 14, 19, 24] then ch == ':' else isAsciiHexdigit ch) &&
        go (index + ch.utf8Size) chars

def isValidGroupCredential (value : String) : Bool :=
  !value.toList.isEmpty && value.utf8ByteSize ≤ maxGroupCredentialBytes &&
    value.toList.all fun ch => isAsciiAlphanumeric ch || ch == '_'

def sanitizeGroupCredential (raw : String) : Except String String :=
  let credential := String.ofList (trim raw.toList)
  if isValidGroupCredential credential then .ok credential
  else .error "group credential has an invalid format"

/-- Line breaks and tabs of a name become spaces. -/
def flattenChar (ch : Char) : Char :=
  if ch == '\n' || ch == '\r' || ch == '\t' then ' ' else ch

def sanitizeSingleLine (raw field : String) (maxChars : ℕ) : Except String String :=
  let sanitized :=
    ((trim raw.toList).filter fun ch => !isForbiddenTerminalChar ch).map flattenChar
  if sanitized.isEmpty then .error s!"{field} cannot be empty"
  else if maxChars < sanitized.length then
    .error s!"{field} is longer than {maxChars} characters"
  else .ok (String.ofList sanitized)

def sanitizeNickname (raw : String) : Except String String :=
  sanitizeSingleLine raw "nickname" maxNicknameChars

def sanitizeGroupName (raw : String) : Except String String :=
  sanitizeSingleLine raw "group name" maxGroupNameChars

def sanitizeRoomName (raw : String) : Except String String :=
  sanitizeSingleLine raw "room name" maxNicknameChars

def sanitizeStatusText (raw : String) : Except String String :=
  sanitizeSingleLine raw "status text" maxStatusChars

/-- The loop of `sanitize_chat_text`: the characters kept, counting lines;
`none` when there are too many lines. -/
def keepChatChars (lines : ℕ) : List Char → Option (List Char)
  | [] => some []
  | ch :: chars =>
    if ch = '\n' then
      if maxMessageLines < lines + 1 then none
      else (keepChatChars (lines + 1) chars).map (ch :: ·)
    else if ch = '\t' then (keepChatChars lines chars).map (ch :: ·)
    else if ch = '\r' then keepChatChars lines chars
    else if isForbiddenTerminalChar ch then keepChatChars lines chars
    else (keepChatChars lines chars).map (ch :: ·)

def sanitizeChatText (raw : String) : Except String String :=
  if maxMessageBytes < raw.utf8ByteSize then
    .error s!"message is larger than {maxMessageBytes} bytes"
  else match keepChatChars 1 raw.toList with
    | none => .error s!"message has more than {maxMessageLines} lines"
    | some kept =>
      let sanitized := trim kept
      if sanitized.isEmpty then .error "message cannot be empty"
      else .ok (String.ofList sanitized)

/-- Pasted text is cut to a number of characters, not of bytes. -/
def sanitizePasteForInput (raw : String) : String :=
  String.ofList (((raw.toList.filter fun ch => !isForbiddenTerminalChar ch).map flattenChar).take
    maxMessageBytes)

end LanChat
