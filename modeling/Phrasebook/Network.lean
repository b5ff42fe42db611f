import Phrasebook.Encoding.Decode
import Phrasebook.Network.ContentType
import Phrasebook.Network.Url

/-! # The network

What servers answer to requests is given as a script: for every URL the replies in order, the last
of which is given again and again. The network also keeps what was asked of it and how long callers
waited between requests.
-/

namespace Phrasebook

namespace Network

inductive Reply where
  /-- The connection ends without an answer. -/
  | closed
  /-- A response; the body that was announced is longer by `missing` bytes than what arrives. -/
  | response (status : Nat) (contentType : String) (body : List UInt8) (missing : Nat)
  deriving Repr, DecidableEq

/-- What became of a request. -/
inductive Exchange where
  /-- The text is no URL, so nothing was asked. -/
  | notUrl
  /-- No request can be made for the URL. -/
  | notRequestable (url : Url)
  /-- There was no answer. -/
  | unanswered (url : Url)
  /-- The body of the answer could not be read to its end. -/
  | unreadable
  | answered (status : Nat) (text : String)
  deriving Repr, DecidableEq

end Network

/-- The network with the replies that are still to come. Without a connection every request goes
    unanswered and none reaches a server. -/
structure Network where
  connected : Bool
  replies : List (String × List Network.Reply) := []
  requests : List String := []
  waits : List Nat := []
  deriving Repr, DecidableEq

namespace Network

/-- The network that nothing can be reached on. -/
def offline : Network :=
  { connected := false }

/-- The text of a body: in the encoding that its content type names, otherwise UTF-8. -/
def bodyText (contentType : String) (body : List UInt8) : String :=
  let encoding := ((charset? contentType).bind Encoding.ofLabel?).getD .utf8
  (encoding.decode body).text

/-- Whether a response with this status has a body. -/
def hasBody (status : Nat) : Bool :=
  status != 204 && status != 304

/-- What a reply to a request comes to. -/
def Reply.exchange (url : Url) : Reply → Exchange
  | .closed => .unanswered url
  | .response status contentType body missing =>
      if !hasBody status then .answered status ""
      else if 0 < missing then .unreadable
      else .answered status (bodyText contentType body)

/-- The next of some replies, and those that remain: the last one stays. -/
def nextReply : List Reply → Reply × List Reply
  | [] => (.closed, [])
  | [reply] => (reply, [reply])
  | reply :: rest => (reply, rest)

/-- The script after the next reply of a URL was given. -/
def advance (url : String) (replies : List (String × List Reply)) : List (String × List Reply) :=
  replies.map fun (other, list) => (other, if other = url then (nextReply list).2 else list)

/-- Ask for the document at a URL. -/
def get (network : Network) (text : String) : Exchange × Network :=
  match Url.ofText? text with
  | none => (.notUrl, network)
  | some url =>
      if !url.isRequestable then (.notRequestable url, network)
      else if !network.connected then (.unanswered url, network)
      else
        let reply := (nextReply ((network.replies.lookup url.request).getD [])).1
        (reply.exchange url,
          { network with
            replies := advance url.request network.replies
            requests := network.requests ++ [url.request] })

def wait (network : Network) (milliseconds : Nat) : Network :=
  { network with waits := network.waits ++ [milliseconds] }

end Network
end Phrasebook
