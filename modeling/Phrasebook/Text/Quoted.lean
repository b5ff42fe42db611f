import Phrasebook.Text.Quoted.Table

/-! # Quoted text

The form in which messages show a text they were given: between double quotes, with a backslash
before what would end or bend the quotation, and with every character that cannot be seen written
by its number.
-/

namespace Phrasebook.Text

/-- A character by its number in lower-case hexadecimal, `\u{…}`. -/
def numbered (c : Char) : List Char :=
  ['\\', 'u', '{'] ++ Nat.toDigits 16 c.toNat ++ ['}']

/-- How one character is written inside a quotation. -/
def quotedChar (c : Char) : List Char :=
  match c with
  | '\x00' => ['\\', '0']
  | '\t' => ['\\', 't']
  | '\n' => ['\\', 'n']
  | '\r' => ['\\', 'r']
  | '"' => ['\\', '"']
  | '\\' => ['\\', '\\']
  | c => if hidden.contains c then numbered c else [c]

def quoted (text : String) : String :=
  String.ofList (['"'] ++ text.toList.flatMap quotedChar ++ ['"'])

end Phrasebook.Text
