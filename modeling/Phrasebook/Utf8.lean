import Phrasebook.Text.Quoted

/-!
UTF-8. Decoding is strict and names the first fault with its place; encoding fails on surrogates
alone.
-/

namespace Phrasebook

/-- The content of a file. -/
abbrev Bytes := List UInt8

namespace Utf8

inductive Reason where
  | invalidStart
  | invalidContinuation
  | unexpectedEnd
deriving DecidableEq

def Reason.text : Reason → Text
  | .invalidStart => "invalid start byte"
  | .invalidContinuation => "invalid continuation byte"
  | .unexpectedEnd => "unexpected end of data"

/-- Where decoding stops: at `count` bytes from `position` on, the first of them being `first`. -/
structure DecodeError where
  position : Nat
  count : Nat
  first : UInt8
  reason : Reason
deriving DecidableEq

def DecodeError.message (e : DecodeError) : Text :=
  let place :=
    if e.count = 1 then
      "byte 0x" ++ Text.hex 2 e.first.toNat ++ " in position " ++ Text.ofNat e.position
    else
      "bytes in position " ++ Text.ofNat e.position ++ "-" ++
        Text.ofNat (e.position + e.count - 1)
  "'utf-8' codec can't decode " ++ place ++ ": " ++ e.reason.text

/-- What the first byte of a sequence announces: how many bytes follow, the bounds of the first of
them, and the bits it carries itself. -/
structure Lead where
  tails : Nat
  low : UInt8
  high : UInt8
  bits : Nat

/-- The announcement of a byte, if it can begin a sequence. -/
def Lead.ofByte? (b : UInt8) : Option Lead :=
  if b < 0x80 then some ⟨0, 0x80, 0xBF, b.toNat⟩
  else if b < 0xC2 then none
  else if b < 0xE0 then some ⟨1, 0x80, 0xBF, b.toNat - 0xC0⟩
  else if b = 0xE0 then some ⟨2, 0xA0, 0xBF, 0⟩
  else if b = 0xED then some ⟨2, 0x80, 0x9F, 0xD⟩
  else if b < 0xF0 then some ⟨2, 0x80, 0xBF, b.toNat - 0xE0⟩
  else if b = 0xF0 then some ⟨3, 0x90, 0xBF, 0⟩
  else if b < 0xF4 then some ⟨3, 0x80, 0xBF, b.toNat - 0xF0⟩
  else if b = 0xF4 then some ⟨3, 0x80, 0x8F, 4⟩
  else none

inductive Step where
  | char (c : Char) (length : Nat)
  | fault (reason : Reason) (count : Nat)

/-- Reads the bytes that are owed after a lead, the next one between `low` and `high`; `seen`
bytes are read. -/
def readTails : (owed : Nat) → (low high : UInt8) → (bits seen : Nat) → Bytes → Step
  | 0, _, _, bits, seen, _ => .char (Char.ofNat bits) seen
  | _ + 1, _, _, _, seen, [] => .fault .unexpectedEnd seen
  | owed + 1, low, high, bits, seen, b :: bs =>
    if low ≤ b ∧ b ≤ high then
      readTails owed 0x80 0xBF (bits * 64 + (b.toNat - 0x80)) (seen + 1) bs
    else .fault .invalidContinuation seen

def readOne (b : UInt8) (bs : Bytes) : Step :=
  match Lead.ofByte? b with
  | none => .fault .invalidStart 1
  | some l => readTails l.tails l.low l.high l.bits 1 bs

/-- Decodes from a position on; `skip` bytes belong to the character read last, and `done` holds
the characters read, the latest first. -/
def decodeFrom (position skip : Nat) (done : List Char) : Bytes → Except DecodeError (List Char)
  | [] => .ok done.reverse
  | b :: bs =>
    match skip with
    | skip + 1 => decodeFrom (position + 1) skip done bs
    | 0 =>
      match readOne b bs with
      | .char c length => decodeFrom (position + 1) (length - 1) (c :: done) bs
      | .fault reason count => .error ⟨position, count, b, reason⟩

def decode (bs : Bytes) : Except DecodeError (List Char) :=
  decodeFrom 0 0 [] bs

def encodeChars (cs : List Char) : Bytes :=
  cs.flatMap String.utf8EncodeChar

/-- A run of `count` surrogates, `first` at `position`, that cannot be encoded. -/
structure EncodeError where
  position : Nat
  count : Nat
  first : CodePoint
deriving DecidableEq

def EncodeError.message (e : EncodeError) : Text :=
  let place :=
    if e.count = 1 then
      "character '" ++ e.first.numbered ++ "' in position " ++ Text.ofNat e.position
    else
      "characters in position " ++ Text.ofNat e.position ++ "-" ++
        Text.ofNat (e.position + e.count - 1)
  "'utf-8' codec can't encode " ++ place ++ ": surrogates not allowed"

/-- The run that begins with the first of the refused code points, which are surrogates. -/
def EncodeError.ofFirst (refused : CodePoint → Bool) (t : Text) : EncodeError :=
  let good := t.takeWhile (!refused ·)
  let bad := (t.drop good.length).takeWhile (·.isSurrogate)
  ⟨good.length, bad.length, bad.headD default⟩

def encode (t : Text) : Except EncodeError Bytes :=
  match t.toChars? with
  | some cs => .ok (encodeChars cs)
  | none => .error (.ofFirst CodePoint.isSurrogate t)

end Utf8

end Phrasebook
