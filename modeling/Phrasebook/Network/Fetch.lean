import Phrasebook.Failure
import Phrasebook.Journal
import Phrasebook.Network

/-! # Fetching a document

A document is asked for until it arrives, the server refuses for good, or the attempts are used up.
The wait before another attempt doubles each time.
-/

namespace Phrasebook

/-- What came of an effort that may have used the network. -/
structure Acquisition (α : Type) where
  result : Except Failure α
  network : Network
  notes : List Note := []

namespace Network

/-- The attempts after the first. -/
def retries : Nat := 2

/-- The first wait, in milliseconds. -/
def firstWait : Nat := 800

/-- The most characters of a body that a message shows. -/
def snippetLength : Nat := 200

/-- The beginning of a body, for a message. -/
def snippet (text : String) : String :=
  let trimmed := (Text.trimWhite text).toList
  if snippetLength < trimmed.length then String.ofList (trimmed.take snippetLength) ++ "..."
  else String.ofList trimmed

/-- Whether a status says that the document is here. -/
def isSuccess (status : Nat) : Bool :=
  200 ≤ status && status < 300

/-- Whether a status says that it may be worth asking again. -/
def isPassing (status : Nat) : Bool :=
  status == 408 || status == 429 || (500 ≤ status && status < 600)

/-- What to make of an exchange. -/
inductive Verdict where
  | arrived (text : String)
  | refused (message : String)
  /-- Worth another attempt; `noted` when the journal is told of it. -/
  | failed (message : String) (noted : Bool)
  deriving Repr, DecidableEq

def Exchange.verdict : Exchange → Verdict
  | .notUrl => .failed "builder error" true
  | .notRequestable url => .failed ("builder error for url (" ++ url.text ++ ")") true
  | .unanswered url => .failed ("error sending request for url (" ++ url.text ++ ")") true
  | .unreadable => .failed "error decoding response body" false
  | .answered status text =>
      let message := "HTTP " ++ toString status ++ ": " ++ snippet text
      if isSuccess status then .arrived text
      else if isPassing status then .failed message true
      else .refused message

/-- Ask for a document, with so many more attempts if they are worth it; `pause` is the next
    wait. -/
def fetchFrom (url : String) : Nat → Nat → Network → Acquisition String
  | retries, pause, network =>
      let (exchange, asked) := network.get url
      match exchange.verdict with
      | .arrived text => { result := .ok text, network := asked }
      | .refused message => { result := .error (.http url message), network := asked }
      | .failed message noted =>
          match retries with
          | 0 => { result := .error (.http url message), network := asked }
          | more + 1 =>
              let notes : List Note :=
                if noted then
                  [⟨.debug, "[dictionary] retrying " ++ url ++ " after " ++ message⟩]
                else []
              let later := fetchFrom url more (2 * pause) (asked.wait pause)
              { later with notes := notes ++ later.notes }

def fetch (network : Network) (url : String) : Acquisition String :=
  fetchFrom url retries firstWait network

end Network
end Phrasebook
