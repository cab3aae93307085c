/-!
# Text as bytes in UTF-8

Bytes are read one character at a time. A sequence that is not UTF-8 is a fault that tells where the
sequence starts, how many of its bytes were looked at, and what is wrong with it. Reading stops at
the first fault, or puts a replacement character in the place of each.
-/

namespace JavadocAudit.Text

/-- Why bytes are not UTF-8. -/
inductive Utf8Fault.Reason where
  /-- No character starts with this byte. -/
  | badStart
  /-- A byte that had to continue a character does not. -/
  | badContinuation
  /-- The bytes end inside a character. -/
  | truncated
  deriving DecidableEq, Repr

/-- The first sequence of bytes that is not UTF-8. -/
structure Utf8Fault where
  /-- The first byte of the sequence. -/
  byte : UInt8
  /-- Its offset. -/
  start : Nat
  /-- How many bytes belong to the fault. -/
  length : Nat
  reason : Utf8Fault.Reason
  deriving DecidableEq, Repr

namespace Utf8Fault

def Reason.text : Reason → String
  | .badStart => "invalid start byte"
  | .badContinuation => "invalid continuation byte"
  | .truncated => "unexpected end of data"

/-- Two hexadecimal digits. -/
def hexByte (b : UInt8) : String :=
  String.ofList [Nat.digitChar (b.toNat / 16), Nat.digitChar (b.toNat % 16)]

def message (fault : Utf8Fault) : String :=
  let place :=
    if fault.length = 1 then s!"byte 0x{hexByte fault.byte} in position {fault.start}"
    else s!"bytes in position {fault.start}-{fault.start + fault.length - 1}"
  "'utf-8' codec can't decode " ++ place ++ ": " ++ fault.reason.text

end Utf8Fault

def isContinuation (b : UInt8) : Bool := 0x80 ≤ b && b ≤ 0xBF

/-- A second byte that is allowed after a first one: neither an overlong form, nor a surrogate, nor
a number above the last code point. -/
def isSecond (first second : UInt8) : Bool :=
  isContinuation second &&
    (if first = 0xE0 then 0xA0 ≤ second
     else if first = 0xED then second < 0xA0
     else if first = 0xF0 then 0x90 ≤ second
     else if first = 0xF4 then second < 0x90
     else true)

/-- The six bits that a continuation byte carries. -/
def payload (b : UInt8) : Nat := b.toNat % 64

/-- The characters of UTF-8 bytes that start at `offset`, one by one. Each sequence that is not
UTF-8 gives a fault in place of a character, and reading goes on behind it. -/
def readUtf8 (offset : Nat) : List UInt8 → List (Except Utf8Fault Char)
  | [] => []
  | a :: rest =>
    if a < 0x80 then .ok (Char.ofNat a.toNat) :: readUtf8 (offset + 1) rest
    else if a < 0xC2 || 0xF4 < a then
      .error ⟨a, offset, 1, .badStart⟩ :: readUtf8 (offset + 1) rest
    else
      match rest with
      | [] => [.error ⟨a, offset, 1, .truncated⟩]
      | b :: rest =>
        if !isSecond a b then
          .error ⟨a, offset, 1, .badContinuation⟩ :: readUtf8 (offset + 1) (b :: rest)
        else if a < 0xE0 then
          .ok (Char.ofNat (a.toNat % 32 * 64 + payload b)) :: readUtf8 (offset + 2) rest
        else
          match rest with
          | [] => [.error ⟨a, offset, 2, .truncated⟩]
          | c :: rest =>
            if !isContinuation c then
              .error ⟨a, offset, 2, .badContinuation⟩ :: readUtf8 (offset + 2) (c :: rest)
            else if a < 0xF0 then
              .ok (Char.ofNat ((a.toNat % 16 * 64 + payload b) * 64 + payload c))
                :: readUtf8 (offset + 3) rest
            else
              match rest with
              | [] => [.error ⟨a, offset, 3, .truncated⟩]
              | d :: rest =>
                if !isContinuation d then
                  .error ⟨a, offset, 3, .badContinuation⟩ :: readUtf8 (offset + 3) (d :: rest)
                else
                  .ok (Char.ofNat
                      (((a.toNat % 8 * 64 + payload b) * 64 + payload c) * 64 + payload d))
                    :: readUtf8 (offset + 4) rest

def allOrFault : List (Except Utf8Fault Char) → Except Utf8Fault (List Char)
  | [] => .ok []
  | .ok c :: rest => (allOrFault rest).map (c :: ·)
  | .error fault :: _ => .error fault

def decodeUtf8 (bytes : List UInt8) : Except Utf8Fault (List Char) := allOrFault (readUtf8 0 bytes)

/-- The characters of UTF-8 bytes, with a replacement character for each fault. -/
def decodeUtf8Leniently (bytes : List UInt8) : List Char :=
  (readUtf8 0 bytes).map fun read =>
    match read with
    | .ok c => c
    | .error _ => '\ufffd'

def encodeUtf8 (text : List Char) : List UInt8 := text.flatMap String.utf8EncodeChar

end JavadocAudit.Text
