import Phrasebook.Main
import Phrasebook.Proofs.Text.Trimming
import Phrasebook.Proofs.Line.Grammar
import Phrasebook.Proofs.Index.Lookup
import Phrasebook.Proofs.Index.Collisions
import Phrasebook.Proofs.Index.LastWrite
import Phrasebook.Proofs.Translation.Rereading
import Phrasebook.Proofs.Translation.Retargeting
import Phrasebook.Proofs.Text.Lines
import Phrasebook.Proofs.Json.Fields
import Phrasebook.Proofs.Document.Linewise
import Phrasebook.Proofs.Document.LineCount
import Phrasebook.Proofs.Document.Endings
import Phrasebook.Proofs.Document.Settled
import Phrasebook.Proofs.Index.Reordering
import Phrasebook.Proofs.Fingerprint.Preimage
import Phrasebook.Proofs.Session.Run
import Phrasebook.Proofs.Session.Rebuilding
import Phrasebook.Proofs.Session.Refusal
import Phrasebook.Proofs.Session.Readers
import Phrasebook.Proofs.Session.Persistence
import Phrasebook.Proofs.Service.Framing
import Phrasebook.Proofs.Dictionary.Files
import Phrasebook.Proofs.Network.Attempts
import Phrasebook.Proofs.Dictionary.FirstSource
import Phrasebook.Proofs.Collision.Report
import Phrasebook.Proofs.Dictionary.Spelling
import Phrasebook.Proofs.Disk.Interruption
import Phrasebook.Proofs.Collision.English
import Phrasebook.Proofs.Index.Currency
import Phrasebook.Proofs.Document.Account
import Phrasebook.Proofs.Json.Extension
import Phrasebook.Proofs.Json.Budget
import Phrasebook.Proofs.Json.Embedding
import Phrasebook.Proofs.Dictionary.Validity
import Phrasebook.Proofs.Session.Supplying
import Phrasebook.Proofs.Translation.NameCase
import Phrasebook.Proofs.Encoding.Precedence
import Phrasebook.Proofs.Encoding.Detection
import Phrasebook.Proofs.Disk.Effects
import Phrasebook.Proofs.Line.Span
