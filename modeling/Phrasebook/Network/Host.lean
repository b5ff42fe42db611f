import Phrasebook.Network.Host.Address
import Phrasebook.Network.Host.Label
import Phrasebook.Text.Utf8

/-! # Hosts

The name of a server as it stands in a normal URL: in lower case and ASCII, with numeric addresses
in their shortest form.
-/

namespace Phrasebook.Network.Host

/-- Resolve percent escapes. -/
def unescape : List UInt8 → List UInt8
  | 0x25 :: a :: b :: rest =>
      match Text.digits? 16 [Char.ofNat a.toNat, Char.ofNat b.toNat] with
      | some byte => UInt8.ofNat byte :: unescape rest
      | none => 0x25 :: unescape (a :: b :: rest)
  | byte :: rest => byte :: unescape rest
  | [] => []

/-- The text that escapes stand for, if it is one. -/
def unescaped? (text : List Char) : Option String :=
  Text.decodeUtf8? (unescape (Text.encodeUtf8 text))

/-- The normal form of a name, which may be a numeric address. -/
def ofLabels? (labels : List (List Char)) : Option String :=
  let counted := if labels.getLast? = some [] then labels.dropLast else labels
  if (counted.getLast?.map isNumeric).getD false then
    (counted.mapM addressPart?).bind address? |>.map dotted
  else
    let name := ".".intercalate (labels.map String.ofList)
    if name = "" then none else some name

/-- The normal form of a host; `none` when it is none. -/
def normal? (given : List Char) : Option String :=
  match given with
  | '[' :: rest =>
      if rest.getLast? = some ']' then (ofBrackets? rest.dropLast).map bracketed else none
  | _ => do
      let name ← unescaped? given
      ofLabels? ((← labels? name.toList).map Label.written)

end Phrasebook.Network.Host
