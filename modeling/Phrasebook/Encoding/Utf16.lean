/-! # UTF-16

Reading bytes as 16-bit units and units as characters. A high surrogate waits for the low one that
completes it; a surrogate without its other half is malformed, and so is what is left over at the
end of the text.
-/

namespace Phrasebook.Encoding

/-- The order of the two bytes of a unit. -/
inductive ByteOrder where
  | little
  | big
  deriving Repr, DecidableEq

/-- The unit that two bytes form. -/
def ByteOrder.unit (order : ByteOrder) (first second : UInt8) : Nat :=
  match order with
  | .little => second.toNat * 256 + first.toNat
  | .big => first.toNat * 256 + second.toNat

/-- Whether a unit is the first half of a surrogate pair. -/
def isHighSurrogate (unit : Nat) : Bool :=
  0xD800 ≤ unit && unit < 0xDC00

/-- Whether a unit is the second half of a surrogate pair. -/
def isLowSurrogate (unit : Nat) : Bool :=
  0xDC00 ≤ unit && unit < 0xE000

/-- The character of a surrogate pair. -/
def ofSurrogates (high low : Nat) : Char :=
  Char.ofNat (0x10000 + (high - 0xD800) * 0x400 + (low - 0xDC00))

/-- Read a unit while no high surrogate waits: what is read, and the high surrogate that waits
    afterwards. -/
def readUnit (unit : Nat) : List (Option Char) × Option Nat :=
  if isHighSurrogate unit then ([], some unit)
  else if isLowSurrogate unit then ([none], none)
  else ([some (Char.ofNat unit)], none)

/-- Read a unit after the high surrogate `high`. -/
def readUnitAfter (high unit : Nat) : List (Option Char) × Option Nat :=
  if isLowSurrogate unit then ([some (ofSurrogates high unit)], none)
  else
    let (marked, waiting) := readUnit unit
    (none :: marked, waiting)

/-- Read bytes while `waiting` waits; `none` marks what is malformed. -/
def decodeUtf16From (order : ByteOrder) : Option Nat → List UInt8 → List (Option Char)
  | none, [] => []
  | some _, [] => [none]
  | _, [_] => [none]
  | waiting, first :: second :: rest =>
      let unit := order.unit first second
      let (marked, next) :=
        match waiting with
        | none => readUnit unit
        | some high => readUnitAfter high unit
      marked ++ decodeUtf16From order next rest

/-- The characters of a byte sequence; `none` marks what is malformed. -/
def decodeUtf16 (order : ByteOrder) (bytes : List UInt8) : List (Option Char) :=
  decodeUtf16From order none bytes

/-- The two bytes of a unit. -/
def ByteOrder.bytes (order : ByteOrder) (unit : Nat) : List UInt8 :=
  let high := UInt8.ofNat (unit / 256)
  let low := UInt8.ofNat unit
  match order with
  | .little => [low, high]
  | .big => [high, low]

/-- The units of a character: its number, or a surrogate pair. -/
def unitsOf (c : Char) : List Nat :=
  if c.toNat < 0x10000 then [c.toNat]
  else [0xD800 + (c.toNat - 0x10000) / 0x400, 0xDC00 + (c.toNat - 0x10000) % 0x400]

/-- The bytes of a text, without a byte order mark. -/
def encodeUtf16 (order : ByteOrder) (text : List Char) : List UInt8 :=
  (text.flatMap unitsOf).flatMap order.bytes

end Phrasebook.Encoding
