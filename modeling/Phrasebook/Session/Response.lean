import Phrasebook.Session.Request

/-! # Responses

Every request has one response, a JSON object on one line.
-/

namespace Phrasebook

inductive Response where
  /-- What was sent is not JSON. -/
  | notJson
  /-- The answer to the request with the given identifier. -/
  | answer (id : Json) (result : Except Refusal Json)

namespace Response

def toJson : Response → Json
  | .notJson => Json.ofFields [("status", .string "error"), ("message", .string "invalid json")]
  | .answer id (.ok payload) =>
      Json.ofFields [("id", id), ("status", .string "ok"), ("payload", payload)]
  | .answer id (.error refusal) =>
      Json.ofFields [("id", id), ("status", .string "error"), ("message", .string refusal.message)]

def text (response : Response) : String :=
  response.toJson.compact

end Response
end Phrasebook
