import Phrasebook.Encoding.Decode
import Phrasebook.Number.Shortest

/-! # Detecting an encoding

A report on bytes of unknown encoding: the likeliest encoding with its rivals, each with a
confidence. Confidence grows with the length of the text, because short texts fit many encodings. It
is kept in 32 bits and shown with the precision of 64.
-/

namespace Phrasebook

/-- An encoding, by label, and how likely it is. -/
structure Candidate where
  label : String
  confidence : Number.Binary
  deriving Repr, DecidableEq

/-- What was detected, with the candidates in order of likelihood. -/
structure Detection where
  best : String
  confidence : Number.Binary
  candidates : List Candidate
  deriving Repr, DecidableEq

namespace Encoding

/-- So many hundredths, as a confidence. -/
def hundredths (n : Nat) : Number.Binary :=
  .ofRatio Number.single n 100

/-- The confidence that an encoding earns by what it decodes bytes to. -/
def confidence (encoding : Encoding) (bytes : List UInt8) : Number.Binary :=
  let decoded := encoding.decode bytes
  let length := decoded.text.utf8ByteSize
  if decoded.hadErrors then hundredths 35
  else if length < 64 then hundredths 55
  else if length < 512 then hundredths 70
  else if length < 4096 then hundredths 82
  else hundredths 90

/-- The labels that are easily taken for another, with the hundredths that they are less likely. -/
def rivals : Encoding → List (String × Nat)
  | .page .windows1252 => [("iso-8859-15", 5), ("utf-8", 10)]
  | .utf8 => [(signedUtf8, 20)]
  | _ => []

/-- The report on bytes that are taken for an encoding. -/
def reportAs (encoding : Encoding) (bytes : List UInt8) : Detection :=
  let confidence := encoding.confidence bytes
  let rival := fun (label, less) =>
    Candidate.mk label (confidence.sub Number.single (hundredths less))
  { best := encoding.plainName
    confidence := confidence
    candidates := ⟨encoding.plainName, confidence⟩ :: encoding.rivals.map rival }

/-- The report on bytes that start with the byte order mark of UTF-8. -/
def signedReport : Detection where
  best := signedUtf8
  confidence := hundredths 99
  candidates := [⟨signedUtf8, hundredths 99⟩, ⟨utf8.plainName, hundredths 90⟩]

/-- The report on bytes, whose encoding a detector tells if they have no byte order mark. -/
def detectBy (detector : Detector) (bytes : List UInt8) : Detection :=
  match ofMark? bytes with
  | some (.utf8, _) => signedReport
  | _ => (guessBy detector bytes).reportAs bytes

/-- The report on bytes by their shape. -/
def detect (bytes : List UInt8) : Detection :=
  detectBy ofShape bytes

end Encoding

namespace Candidate

def confidenceJson (confidence : Number.Binary) : Json :=
  .number (.binary false (confidence.convert Number.double))

def toJson (candidate : Candidate) : Json :=
  Json.ofFields
    [ ("name", .string candidate.label), ("confidence", confidenceJson candidate.confidence) ]

end Candidate

def Detection.toJson (detection : Detection) : Json :=
  Json.ofFields
    [ ("best", .string detection.best),
      ("confidence", Candidate.confidenceJson detection.confidence),
      ("candidates", .array (detection.candidates.map Candidate.toJson)) ]

end Phrasebook
