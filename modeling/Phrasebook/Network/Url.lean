import Phrasebook.Json.Printer
import Phrasebook.Network.Host
import Phrasebook.Text.Lowercase
import Phrasebook.Text.Space

/-! # URLs

The two kinds of URL that dictionaries come from, in their normal form: scheme and host in lower
case, no default port, a path without dot segments, and everything escaped that has to be.
-/

namespace Phrasebook.Network

/-- A scheme that dictionaries may come by. -/
inductive Scheme where
  | http
  | https
  deriving Repr, DecidableEq

namespace Scheme

def name : Scheme → String
  | .http => "http"
  | .https => "https"

/-- The port that a URL of a scheme need not mention. -/
def defaultPort : Scheme → Nat
  | .http => 80
  | .https => 443

/-- What a URL of a scheme starts with. -/
def opening (scheme : Scheme) : String :=
  scheme.name ++ "://"

/-- The scheme of a text that starts like a URL, in any ASCII case, and the text behind it. -/
def ofStart? (text : String) : Option (Scheme × List Char) :=
  [http, https].findSome? fun scheme =>
    let length := scheme.opening.length
    if (Text.lowerAscii text).toList.take length = scheme.opening.toList then
      some (scheme, text.toList.drop length)
    else none

end Scheme

/-- A URL in normal form. The credentials are those that go into the text of the URL, with the sign
    between them and the host. -/
structure Url where
  scheme : Scheme
  credentials : String := ""
  host : String
  port : Option Nat
  path : String
  query : Option String
  fragment : Option String
  deriving Repr, DecidableEq

namespace Url

/-! ## Escapes -/

def escapedByte (byte : UInt8) : List Char :=
  let digit (n : Nat) : Char := (Json.hexDigit n).toUpper
  ['%', digit (byte.toNat / 16), digit byte.toNat]

/-- A text with the given characters, control characters and all beyond ASCII escaped. -/
def escaped (special : List Char) (text : List Char) : List Char :=
  text.flatMap fun c =>
    if c.toNat < 0x20 || 0x7F ≤ c.toNat || special.contains c then
      (Text.encodeUtf8 [c]).flatMap escapedByte
    else [c]

/-- What has to be escaped in a fragment. -/
def fragmentSpecials : List Char := " \"<>\x60".toList

/-- What has to be escaped in a query. -/
def querySpecials : List Char := " \"#<>'".toList

/-- What has to be escaped in a path. -/
def pathSpecials : List Char := " \"#<>?\x60\x7b\x7d".toList

/-- What has to be escaped in credentials. -/
def credentialSpecials : List Char := pathSpecials ++ "/:;=@[\\]^|".toList

/-! ## Paths -/

/-- The number of dots that a segment consists of: one stays on the path, two go up. -/
def dots? (segment : List Char) : Option Nat :=
  let spelled := Text.lowerAscii (String.ofList segment)
  if [".", "%2e"].contains spelled then some 1
  else if ["..", ".%2e", "%2e.", "%2e%2e"].contains spelled then some 2
  else none

/-- Whether a segment looks like the letter of a drive, which dots do not go up from. -/
def isDrive (segment : List Char) : Bool :=
  match segment with
  | [letter, mark] => letter.isAlpha && (mark == ':' || mark == '|')
  | _ => false

/-- The segments left after going up from the last of some, which are given last one first. -/
def goUp (before : List (List Char)) : List (List Char) :=
  if before.head?.any isDrive then before else before.tail

/-- Segments without dots; `before` holds those already passed, the last one first. A path that ends
    in dots ends in a slash. -/
def plainSegments (before : List (List Char)) : List (List Char) → List (List Char)
  | [] => before.reverse
  | segment :: rest =>
      match dots? segment with
      | none => plainSegments (escaped pathSpecials segment :: before) rest
      | some n =>
          let kept := if n = 2 then goUp before else before
          plainSegments (if rest.isEmpty then [] :: kept else kept) rest

/-- The normal form of a path, whose first slash is optional. -/
def normalPath (path : List Char) : String :=
  let inner := match path with
    | '/' :: rest => rest
    | '\\' :: rest => rest
    | rest => rest
  let segments := inner.splitOnP fun c => c == '/' || c == '\\'
  "/" ++ "/".intercalate ((plainSegments [] segments).map String.ofList)

/-! ## Reading -/

/-- The port behind a host, without the one that is understood. -/
def port? (scheme : Scheme) (text : List Char) : Option (Option Nat) :=
  if text.isEmpty then some none
  else do
    let port ← Text.digits? 10 text
    if 65535 < port then none else some (if port = scheme.defaultPort then none else some port)

/-- A host and what follows its colon. A colon in brackets belongs to the host. -/
def splitHost (bracket : Bool) : List Char → List Char × List Char
  | [] => ([], [])
  | c :: rest =>
      if c = ':' ∧ !bracket then ([], rest)
      else
        let (host, port) := splitHost (c = '[' || (bracket && c != ']')) rest
        (c :: host, port)

/-- What stands before the last `@`, if there is one, and what stands behind it. -/
def splitUser (authority : List Char) : List Char × List Char :=
  let host := (authority.reverse.takeWhile (· != '@')).reverse
  (authority.take (authority.length - host.length - 1), host)

/-- The credentials that stay in a URL. Those that are texts, escaped as they may be, are told to
    the server in another way and taken out; a password behind a name that is a text goes with
    it. -/
def credentialsOf (given : List Char) : String :=
  let name := given.takeWhile (· != ':')
  let password := (given.drop name.length).tail
  let isText (part : List Char) : Bool := (Host.unescaped? part).isSome
  let written (part : List Char) : String := String.ofList (escaped credentialSpecials part)
  if isText name && (name != [] || isText password) then ""
  else written name ++ (if password = [] then "" else ":" ++ written password) ++ "@"

/-- A text up to the first of some characters, and the rest from there. -/
def upTo (stops : List Char) (text : List Char) : List Char × List Char :=
  (text.takeWhile fun c => !stops.contains c, text.dropWhile fun c => !stops.contains c)

/-- The part that a mark opens, if the text starts with it. -/
def marked? (mark : Char) : List Char → Option (List Char)
  | c :: rest => if c = mark then some rest else none
  | [] => none

def ofText? (text : String) : Option Url := do
  let cleaned := text.toList.filter fun c => !(c = '\t' || c = '\n' || c = '\r')
  let bare := Text.trimBoth (fun c => c.toNat ≤ 0x20) cleaned
  let (scheme, rest) ← Scheme.ofStart? (String.ofList bare)
  let (authority, rest) := upTo ['/', '\\', '?', '#'] (rest.dropWhile fun c => c = '/' || c = '\\')
  let (path, rest) := upTo ['?', '#'] rest
  let (user, authority) := splitUser authority
  let (host, port) := splitHost false authority
  let (query, rest) := match marked? '?' rest with
    | some inner =>
        let (query, rest) := upTo ['#'] inner
        (some query, rest)
    | none => (none, rest)
  some
    { scheme := scheme
      credentials := credentialsOf user
      host := ← Host.normal? host
      port := ← port? scheme port
      path := normalPath path
      query := query.map fun query => String.ofList (escaped querySpecials query)
      fragment := (marked? '#' rest).map fun fragment =>
        String.ofList (escaped fragmentSpecials fragment) }

/-- The text of a URL behind its host and port. -/
def target (url : Url) : String :=
  let query := match url.query with
    | some query => "?" ++ query
    | none => ""
  url.path ++ query

/-- The host of a URL with its port, if that has to be mentioned. -/
def server (url : Url) : String :=
  match url.port with
  | some port => url.host ++ ":" ++ toString port
  | none => url.host

/-- The text of a URL without credentials and fragment, as a server is asked for it. -/
def request (url : Url) : String :=
  url.scheme.opening ++ url.server ++ url.target

def text (url : Url) : String :=
  let fragment := match url.fragment with
    | some fragment => "#" ++ fragment
    | none => ""
  url.scheme.opening ++ url.credentials ++ url.server ++ url.target ++ fragment

/-- The most bytes of a URL that a request can be made for. -/
def lengthLimit : Nat := 65534

/-- Whether a request can be made for a URL: some characters that names may hold are not known to
    requests, and neither are very long URLs. -/
def isRequestable (url : Url) : Bool :=
  !url.host.toList.any "\"\x60\x7b\x7d".toList.contains && url.text.utf8ByteSize ≤ lengthLimit

end Url
end Phrasebook.Network
