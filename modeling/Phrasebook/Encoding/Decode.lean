import Phrasebook.Encoding.Iso2022Jp
import Phrasebook.Encoding.Label
import Phrasebook.Encoding.Utf16
import Phrasebook.Failure
import Phrasebook.Text.Utf8

/-! # Decoding

Every encoding reads bytes as characters, marking what it cannot read; a mark is shown as the
replacement character. A byte order mark at the start decides the encoding, whatever was asked for,
and is not part of the text.
-/

namespace Phrasebook

namespace Encoding

/-- The single byte of a text whose upper half is private. -/
def userDefinedChar (byte : UInt8) : Char :=
  if byte < 0x80 then Char.ofNat byte.toNat else Char.ofNat (0xF780 + (byte.toNat - 0x80))

/-- The character of a byte, if it is ASCII. -/
def asciiChar? (byte : UInt8) : Option Char :=
  if byte < 0x80 then some (Char.ofNat byte.toNat) else none

/-- The characters of a byte sequence; `none` marks what is malformed. -/
def readBytes (encoding : Encoding) (bytes : List UInt8) : List (Option Char) :=
  match encoding with
  | .utf8 => Text.decodeUtf8 bytes
  | .utf16le => decodeUtf16 .little bytes
  | .utf16be => decodeUtf16 .big bytes
  | .page p => bytes.map (CodePage.decodeByte p.upper)
  | .iso2022Jp => Iso2022Jp.read bytes
  | .eastAsian _ => bytes.map asciiChar?
  | .userDefined => bytes.map fun byte => some (userDefinedChar byte)
  | .replacement => if bytes.isEmpty then [] else [none]

/-- The encoding whose byte order mark the bytes start with, and the bytes behind it. -/
def ofMark? : List UInt8 → Option (Encoding × List UInt8)
  | 0xEF :: 0xBB :: 0xBF :: rest => some (.utf8, rest)
  | 0xFF :: 0xFE :: rest => some (.utf16le, rest)
  | 0xFE :: 0xFF :: rest => some (.utf16be, rest)
  | _ => none

/-- The character shown for what could not be read. -/
def replacementChar : Char := '\uFFFD'

end Encoding

/-- Text as it was decoded: by which encoding, and whether anything was malformed. -/
structure Decoded where
  text : String
  encoding : Encoding
  hadErrors : Bool
  deriving Repr, DecidableEq

namespace Encoding

/-- Decode bytes, a byte order mark deciding the encoding. -/
def decode (encoding : Encoding) (bytes : List UInt8) : Decoded :=
  let (used, rest) := (ofMark? bytes).getD (encoding, bytes)
  let marked := used.readBytes rest
  { text := String.ofList (marked.map fun c => c.getD replacementChar)
    encoding := used
    hadErrors := marked.any Option.isNone }

/-- A way to tell the encoding of bytes that do not start with a byte order mark. -/
abbrev Detector := List UInt8 → Encoding

/-- The encoding that the shape of bytes speaks for: the Japanese one if they change alphabets in
    its way, UTF-8 if they are well-formed in that, and the Western European page if not. -/
def ofShape : Detector := fun bytes =>
  if Iso2022Jp.fits bytes then .iso2022Jp
  else if (Text.decodeUtf8 bytes).all Option.isSome then .utf8
  else .page .windows1252

/-- The encoding of bytes that nobody named one for: the one of the byte order mark, otherwise what
    the detector says. -/
def guessBy (detector : Detector) (bytes : List UInt8) : Encoding :=
  match ofMark? bytes with
  | some (encoding, _) => encoding
  | none => detector bytes

/-- The encoding that a label asks for. A blank label asks for none, and the bytes decide. -/
def chooseBy (detector : Detector) (label : Option String) (bytes : List UInt8) :
    Except Failure Encoding :=
  let asked := (label.map Text.trimWhite).filter (· != "")
  match asked with
  | none => .ok (guessBy detector bytes)
  | some given =>
      match resolve? given with
      | some encoding => .ok encoding
      | none => .error (.unknownEncoding given)

end Encoding

/-- Decode bytes as the label asks, or by a detector's guess. -/
def decodeBytesBy (detector : Encoding.Detector) (bytes : List UInt8) (label : Option String) :
    Except Failure Decoded := do
  .ok ((← Encoding.chooseBy detector label bytes).decode bytes)

/-- Decode bytes as the label asks, or by their shape. -/
def decodeBytes (bytes : List UInt8) (label : Option String) : Except Failure Decoded :=
  decodeBytesBy Encoding.ofShape bytes label

end Phrasebook
