/-!
# Bytes as text

Text is stored in UTF-8. `encode` writes it and `decode` reads it back, or
gives the first `Fault`: where the text stops being UTF-8, over which bytes,
and why. `decodeLossy` reads any bytes, with one replacement character for each
fault.

A fault covers the longest run of bytes that begins a character and cannot go
on as one, so the byte that breaks a character off is read again.
-/

namespace ServerFleet.Text.Utf8

/-- The bytes of a character. -/
def encodeChar (c : Char) : List UInt8 :=
  let n := c.toNat
  if n < 0x80 then [n.toUInt8]
  else if n < 0x800 then [(0xc0 + n / 64).toUInt8, (0x80 + n % 64).toUInt8]
  else if n < 0x10000 then
    [(0xe0 + n / 4096).toUInt8, (0x80 + n / 64 % 64).toUInt8, (0x80 + n % 64).toUInt8]
  else [(0xf0 + n / 262144).toUInt8, (0x80 + n / 4096 % 64).toUInt8,
    (0x80 + n / 64 % 64).toUInt8, (0x80 + n % 64).toUInt8]

/-- The bytes of a text. -/
def encode (s : String) : List UInt8 := s.toList.flatMap encodeChar

/-- Why bytes are no text. -/
inductive Reason where
  /-- No character begins with this byte. -/
  | invalidStart
  /-- A character is broken off by a byte that does not continue it. -/
  | invalidContinuation
  /-- The bytes end within a character. -/
  | endOfData
  deriving DecidableEq

/-- The first bytes, from `start` on and `length` many, that are no text. -/
structure Fault where
  start : Nat
  length : Nat
  /-- The byte at `start`. -/
  byte : UInt8
  reason : Reason
  deriving DecidableEq

/-- What the bytes at the head of a list are. -/
inductive Head where
  | char (c : Char)
  | fault (length : Nat) (reason : Reason)

/-- The range that the second byte of a character must lie in, by the first,
and how many bytes follow the first. `none` if no character begins so. -/
def lead (b : Nat) : Option (Nat × Nat × Nat) :=
  if b < 0xc2 then none
  else if b < 0xe0 then some (1, 0x80, 0xbf)
  else if b = 0xe0 then some (2, 0xa0, 0xbf)
  else if b = 0xed then some (2, 0x80, 0x9f)
  else if b < 0xf0 then some (2, 0x80, 0xbf)
  else if b = 0xf0 then some (3, 0x90, 0xbf)
  else if b < 0xf4 then some (3, 0x80, 0xbf)
  else if b = 0xf4 then some (3, 0x80, 0x8f)
  else none

/-- Reads `more` further bytes, the first of them between `low` and `high`, of
a character whose bytes so far, `seen` many, have the value `acc`. -/
def continueChar (acc seen low high : Nat) : Nat → List UInt8 → Head × List UInt8
  | 0, bs => (.char (Char.ofNat acc), bs)
  | _ + 1, [] => (.fault seen .endOfData, [])
  | more + 1, b :: bs =>
    if low ≤ b.toNat && b.toNat ≤ high then
      continueChar (acc * 64 + b.toNat % 64) (seen + 1) 0x80 0xbf more bs
    else (.fault seen .invalidContinuation, b :: bs)

/-- The value that the first byte of a character contributes. -/
def leadBits (b more : Nat) : Nat :=
  if more = 1 then b % 32 else if more = 2 then b % 16 else b % 8

/-- What begins at the byte `b`, and the bytes after it. -/
def readHead (b : UInt8) (bs : List UInt8) : Head × List UInt8 :=
  if b.toNat < 0x80 then (.char (Char.ofNat b.toNat), bs)
  else match lead b.toNat with
    | none => (.fault 1 .invalidStart, bs)
    | some (more, low, high) => continueChar (leadBits b.toNat more) 1 low high more bs

theorem length_continueChar_le (acc seen low high more : Nat) (bs : List UInt8) :
    (continueChar acc seen low high more bs).2.length ≤ bs.length := by
  fun_induction continueChar acc seen low high more bs <;> grind

theorem length_readHead_le (b : UInt8) (bs : List UInt8) :
    (readHead b bs).2.length ≤ bs.length := by
  unfold readHead
  split
  · exact Nat.le_refl _
  · split
    · exact Nat.le_refl _
    · exact length_continueChar_le ..

/-- Reads the bytes that follow the first `pos` as characters. -/
def decodeFrom (pos : Nat) (bs : List UInt8) : Except Fault (List Char) :=
  match bs with
  | [] => .ok []
  | b :: bs =>
    match _ : readHead b bs with
    | (.fault length reason, _) => .error ⟨pos, length, b, reason⟩
    | (.char c, rest) => (decodeFrom (pos + c.utf8Size) rest).map (c :: ·)
termination_by bs.length
decreasing_by
  have := length_readHead_le b bs
  grind

/-- Reads bytes as text. -/
def decode (bs : List UInt8) : Except Fault String :=
  (decodeFrom 0 bs).map String.ofList

/-- Reads bytes as characters, with U+FFFD for every fault. -/
def decodeLossyChars (bs : List UInt8) : List Char :=
  match bs with
  | [] => []
  | b :: bs =>
    match _ : readHead b bs with
    | (.fault _ _, rest) => '\ufffd' :: decodeLossyChars rest
    | (.char c, rest) => c :: decodeLossyChars rest
termination_by bs.length
decreasing_by
  all_goals
    have := length_readHead_le b bs
    grind

/-- Reads bytes as text, with U+FFFD for every fault. -/
def decodeLossy (bs : List UInt8) : String := String.ofList (decodeLossyChars bs)

def Reason.text : Reason → String
  | .invalidStart => "invalid start byte"
  | .invalidContinuation => "invalid continuation byte"
  | .endOfData => "unexpected end of data"

/-- How a fault is reported. -/
def Fault.message (f : Fault) : String :=
  let digits := String.ofList [Nat.digitChar (f.byte.toNat / 16), Nat.digitChar (f.byte.toNat % 16)]
  let place :=
    if f.length = 1 then "byte 0x" ++ digits ++ " in position " ++ toString f.start
    else "bytes in position " ++ toString f.start ++ "-" ++ toString (f.start + f.length - 1)
  "'utf-8' codec can't decode " ++ place ++ ": " ++ f.reason.text

end ServerFleet.Text.Utf8
