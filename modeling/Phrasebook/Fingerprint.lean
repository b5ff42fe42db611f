import Phrasebook.Digest.Sha256
import Phrasebook.Entry
import Phrasebook.Text.Utf8

/-! # Fingerprints

A short text that stands for a whole dictionary, order included. What is hashed is written so that
it can be read back: every name follows its length.
-/

namespace Phrasebook.Fingerprint

/-- A number below 2^64 as eight bytes, the lowest first. -/
def lengthMark (n : Nat) : List UInt8 :=
  let word := UInt64.ofNat n
  ([0, 8, 16, 24, 32, 40, 48, 56] : List UInt64).map fun shift => (word >>> shift).toUInt8

/-- A name as it is hashed: the number of its bytes, then the bytes. -/
def markedName (name : String) : List UInt8 :=
  let bytes := Text.encodeUtf8 name.toList
  lengthMark bytes.length ++ bytes

/-- An entry as it is hashed. -/
def markedEntry (entry : Entry) : List UInt8 :=
  entry.names.flatMap markedName

/-- The bytes that stand for a list of entries. -/
def preimage (entries : List Entry) : List UInt8 :=
  entries.flatMap markedEntry

/-- The fingerprint of a list of entries. -/
def ofEntries (entries : List Entry) : String :=
  Digest.hex (Digest.sha256 (preimage entries))

end Phrasebook.Fingerprint
