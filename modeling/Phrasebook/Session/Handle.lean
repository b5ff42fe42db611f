import Phrasebook.Encoding.Detect
import Phrasebook.Json.Parser
import Phrasebook.Session
import Phrasebook.Session.Response

/-! # Answering requests

A line is read as a request and answered. Queries are answered from the session and the disk;
changes go through the operations of the session.
-/

namespace Phrasebook

namespace Session

/-- The contents of a file that a request names. -/
def readFile (session : Session) (disk : Disk) (given : String) : Except Failure Disk.Bytes :=
  let path := session.pathOf given
  (disk.read path).mapError (.read path)

def fileAnswer (session : Session) (target : Language) (decoded : Decoded) : Json :=
  Json.ofFields
    [ ("text", .string (translateDocument session.index target decoded.text)),
      ("encoding", .string decoded.encoding.plainName) ]

def answer (session : Session) (disk : Disk) : Query → Noted (Except Failure Json)
  | .ping => { value := .ok (Json.ofFields [("message", .string "macro-core alive")]) }
  | .settings => { value := .ok (Json.ofFields [("settings", session.settings.toJson)]) }
  | .dictionary => { value := .ok session.info.toJson }
  | .collisions =>
      let collisions := Collision.ofEntries session.index.entries
      { value := .ok (Json.ofFields [("collisions", .array (collisions.map Collision.toJson))]) }
  | .target => { value := .ok (Json.ofFields [("lang", .string session.target.code)]) }
  | .line text target =>
      let (line, _) := translateLine session.index (target.getD session.target) text
      { value := .ok (Json.ofFields [("line", .string line)]) }
  | .document text target false =>
      let out := translateDocument session.index (target.getD session.target) text
      { value := .ok (Json.ofFields [("text", .string out)]) }
  | .document text target true =>
      let (out, report) := translateWithReport session.index (target.getD session.target) text
      { value := .ok (Json.ofFields [("text", .string out), ("report", report.toJson)]) }
  | .file path target label =>
      match (session.readFile disk path).bind fun bytes => decodeBytes bytes label with
      | .error failure => { value := .error failure }
      | .ok decoded =>
          { value := .ok (session.fileAnswer (target.getD session.target) decoded)
            notes := decoded.notes }
  | .encoding path =>
      { value := (session.readFile disk path).map fun bytes => (Encoding.detect bytes).toJson }

def apply (session : Session) (world : World) : Change → Effect Json
  | .settings settings =>
      (session.saveSettings world settings).map fun saved =>
        Json.ofFields [("settings", saved.toJson)]
  | .load sources => (session.loadDictionary world sources).map DictionaryInfo.toJson
  | .dictionary entries => (session.setDictionary world entries).map DictionaryInfo.toJson
  | .dedupe input output =>
      (session.dedupeFile world input output).map Dictionary.DedupeReport.toJson
  | .target language =>
      (session.setTarget world language).map fun set =>
        Json.ofFields [("lang", .string set.code)]

end Session

/-- A response, and the session and the world after it. -/
structure Turn where
  response : Response
  session : Session
  world : World

namespace Session

def perform (session : Session) (world : World) (id : Json) : Except Refusal Action → Turn
  | .error refusal => ⟨.answer id (.error refusal), session, world⟩
  | .ok (.query query) =>
      let answered := session.answer world.disk query
      ⟨.answer id (answered.value.mapError .failed), session, world.tell answered.notes⟩
  | .ok (.change change) =>
      let effect := session.apply world change
      ⟨.answer id (effect.result.mapError .failed), effect.session, effect.world⟩

def handle (session : Session) (world : World) (line : String) : Turn :=
  match Json.parse line with
  | .error _ => ⟨.notJson, session, world⟩
  | .ok value =>
      let request := Request.ofJson value
      session.perform (world.tell [⟨.debug, "[protocol] " ++ request.command⟩]) request.id
        request.action

end Session
end Phrasebook
