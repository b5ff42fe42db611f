/-! # UTF-8

Writing characters as bytes, and reading bytes as characters with every malformed sequence marked.
The reader is a state machine over single bytes: a lead byte announces how many bytes follow and the
range of the first of them, which rules out overlong forms, surrogates and numbers beyond the last
character. A byte that does not continue a sequence ends it as malformed and is read afresh.
-/

namespace Phrasebook.Text

def encodeUtf8 (text : List Char) : List UInt8 :=
  text.flatMap String.utf8EncodeChar

/-- A sequence that was begun: how many bytes it lacks, the range of the next one, and the bits
    read. -/
structure Pending where
  lacking : Nat
  low : Nat
  high : Nat
  bits : Nat
  deriving Repr, DecidableEq

/-- What a byte means at the start of a sequence. -/
inductive Lead where
  | char (c : Char)
  | begins (pending : Pending)
  | malformed
  deriving Repr, DecidableEq

/-- A byte at the start of a sequence. -/
def leadOf (byte : Nat) : Lead :=
  if byte < 0x80 then .char (Char.ofNat byte)
  else if 0xC2 ≤ byte ∧ byte ≤ 0xDF then .begins ⟨1, 0x80, 0xBF, byte - 0xC0⟩
  else if byte = 0xE0 then .begins ⟨2, 0xA0, 0xBF, 0⟩
  else if byte = 0xED then .begins ⟨2, 0x80, 0x9F, 0xD⟩
  else if 0xE1 ≤ byte ∧ byte ≤ 0xEF then .begins ⟨2, 0x80, 0xBF, byte - 0xE0⟩
  else if byte = 0xF0 then .begins ⟨3, 0x90, 0xBF, 0⟩
  else if byte = 0xF4 then .begins ⟨3, 0x80, 0x8F, 4⟩
  else if 0xF1 ≤ byte ∧ byte ≤ 0xF3 then .begins ⟨3, 0x80, 0xBF, byte - 0xF0⟩
  else .malformed

/-- Read bytes from a state; `none` marks a malformed sequence. -/
def decodeUtf8From : Option Pending → List UInt8 → List (Option Char)
  | none, [] => []
  | some _, [] => [none]
  | none, byte :: rest =>
      match leadOf byte.toNat with
      | .char c => some c :: decodeUtf8From none rest
      | .begins pending => decodeUtf8From (some pending) rest
      | .malformed => none :: decodeUtf8From none rest
  | some pending, byte :: rest =>
      if pending.low ≤ byte.toNat ∧ byte.toNat ≤ pending.high then
        let bits := pending.bits * 64 + (byte.toNat - 0x80)
        if pending.lacking ≤ 1 then some (Char.ofNat bits) :: decodeUtf8From none rest
        else decodeUtf8From (some ⟨pending.lacking - 1, 0x80, 0xBF, bits⟩) rest
      else
        match leadOf byte.toNat with
        | .char c => none :: some c :: decodeUtf8From none rest
        | .begins next => none :: decodeUtf8From (some next) rest
        | .malformed => none :: none :: decodeUtf8From none rest

/-- The characters of a byte sequence; `none` marks a malformed sequence. -/
def decodeUtf8 (bytes : List UInt8) : List (Option Char) :=
  decodeUtf8From none bytes

/-- The text of a byte sequence, if nothing in it is malformed. -/
def decodeUtf8? (bytes : List UInt8) : Option String :=
  let marked := decodeUtf8 bytes
  if marked.all Option.isSome then some (String.ofList (marked.filterMap id)) else none

end Phrasebook.Text
