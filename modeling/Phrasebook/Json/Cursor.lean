import Phrasebook.Json.Fault

/-! # Scanning JSON text

The position of a reader in a text, and the scanners for what has no inner structure: blanks, the
three words, strings and numbers. Faults are counted in bytes of UTF-8. A fault is reported either
where the reader stands or one byte further, at the character that it refuses.
-/

namespace Phrasebook.Json

/-- A place in a text: the bytes that were read and the characters that were not. -/
structure Cursor where
  index : Nat
  rest : List Char
  deriving Repr, DecidableEq

namespace Cursor

def start (text : List Char) : Cursor :=
  ⟨0, text⟩

/-- The cursor behind the character `c`, before `rest`. -/
def past (cursor : Cursor) (c : Char) (rest : List Char) : Cursor :=
  ⟨cursor.index + c.utf8Size, rest⟩

/-- A fault where the reader stands. -/
def fault (cursor : Cursor) (reason : Reason) : Fault :=
  ⟨reason, cursor.index⟩

/-- A fault at the next character, or at the end of the text. -/
def faultAhead (cursor : Cursor) (reason : Reason) : Fault :=
  ⟨reason, match cursor.rest with
    | [] => cursor.index
    | _ :: _ => cursor.index + 1⟩

end Cursor

/-- The characters that may stand between the parts of a value. -/
def isBlank (c : Char) : Bool :=
  c == ' ' || c == '\n' || c == '\t' || c == '\r'

def Cursor.skipBlanks (cursor : Cursor) : Cursor :=
  let blanks := cursor.rest.takeWhile isBlank
  ⟨cursor.index + blanks.length, cursor.rest.dropWhile isBlank⟩

/-- Read the given characters, the rest of a word whose first letter was read. -/
def word : List Char → Cursor → Except Fault Cursor
  | [], cursor => .ok cursor
  | expected :: more, cursor =>
      match cursor.rest with
      | [] => .error (cursor.fault .endInValue)
      | c :: rest =>
          if c = expected then word more (cursor.past c rest)
          else .error ⟨.expectedWord, cursor.index + 1⟩

/-! ## Strings -/

def hexValue? (c : Char) : Option Nat :=
  if '0' ≤ c ∧ c ≤ '9' then some (c.toNat - '0'.toNat)
  else if 'a' ≤ c ∧ c ≤ 'f' then some (c.toNat - 'a'.toNat + 10)
  else if 'A' ≤ c ∧ c ≤ 'F' then some (c.toNat - 'A'.toNat + 10)
  else none

/-- The number of bytes of a text in UTF-8. -/
def utf8Length : List Char → Nat
  | [] => 0
  | c :: rest => c.utf8Size + utf8Length rest

/-- The four hexadecimal digits of an escape, as a 16-bit unit. Four bytes are taken, whatever they
    hold. -/
def hexUnit (cursor : Cursor) : Except Fault (Nat × Cursor) :=
  let refused : Fault :=
    if utf8Length (cursor.rest.take 4) < 4 then
      ⟨.endInString, cursor.index + utf8Length cursor.rest⟩
    else ⟨.invalidEscape, cursor.index + 4⟩
  match cursor.rest with
  | a :: b :: c :: d :: rest =>
      match hexValue? a, hexValue? b, hexValue? c, hexValue? d with
      | some a, some b, some c, some d =>
          .ok (((a * 16 + b) * 16 + c) * 16 + d, ⟨cursor.index + 4, rest⟩)
      | _, _, _, _ => .error refused
  | _ => .error refused

/-- Expect one more character of an escaped surrogate pair. -/
def pairMark (mark : Char) (cursor : Cursor) : Except Fault Cursor :=
  match cursor.rest with
  | [] => .error (cursor.fault .endInString)
  | c :: rest =>
      if c = mark then .ok (cursor.past c rest) else .error ⟨.endOfHexEscape, cursor.index + 1⟩

/-- The character of a `\u` escape, its two letters already read: one unit, or two that form a
    surrogate pair. -/
def unicodeEscape (cursor : Cursor) : Except Fault (Char × Cursor) := do
  let (high, cursor) ← hexUnit cursor
  if 0xDC00 ≤ high ∧ high ≤ 0xDFFF then
    .error (cursor.fault .loneSurrogate)
  else if high < 0xD800 ∨ 0xDBFF < high then
    .ok (Char.ofNat high, cursor)
  else
    let cursor ← pairMark '\\' cursor
    let cursor ← pairMark 'u' cursor
    let (low, cursor) ← hexUnit cursor
    if low < 0xDC00 ∨ 0xDFFF < low then .error (cursor.fault .loneSurrogate)
    else .ok (Char.ofNat (0x10000 + (high - 0xD800) * 0x400 + (low - 0xDC00)), cursor)

/-- The character that a one-letter escape stands for. -/
def shortEscape? (c : Char) : Option Char :=
  match c with
  | '"' => some '"'
  | '\\' => some '\\'
  | '/' => some '/'
  | 'b' => some '\x08'
  | 'f' => some '\x0c'
  | 'n' => some '\n'
  | 'r' => some '\r'
  | 't' => some '\t'
  | _ => none

/-- The character of an escape, its backslash already read. -/
def escape (cursor : Cursor) : Except Fault (Char × Cursor) :=
  match cursor.rest with
  | [] => .error (cursor.fault .endInString)
  | 'u' :: rest => unicodeEscape (cursor.past 'u' rest)
  | c :: rest =>
      match shortEscape? c with
      | some meant => .ok (meant, cursor.past c rest)
      | none => .error ⟨.invalidEscape, cursor.index + 1⟩

theorem hexUnit_shorter {cursor next : Cursor} {unit : Nat}
    (read : hexUnit cursor = .ok (unit, next)) : next.rest.length < cursor.rest.length := by
  simp only [hexUnit] at read
  split at read
  · next a b c d rest shape =>
    split at read
    · simp only [Except.ok.injEq, Prod.mk.injEq] at read
      simp [← read.2, shape]
      omega
    · cases read
  · cases read

theorem pairMark_shorter {mark : Char} {cursor next : Cursor}
    (read : pairMark mark cursor = .ok next) : next.rest.length < cursor.rest.length := by
  simp only [pairMark] at read
  split at read
  · cases read
  · next c rest shape =>
    split at read
    · simp only [Except.ok.injEq] at read
      simp [← read, Cursor.past, shape]
    · cases read

theorem unicodeEscape_shorter {cursor next : Cursor} {c : Char}
    (read : unicodeEscape cursor = .ok (c, next)) : next.rest.length < cursor.rest.length := by
  simp only [unicodeEscape, bind, Except.bind] at read
  split at read
  · cases read
  · next first firstRead =>
    have firstShorter := hexUnit_shorter firstRead
    split at read
    · cases read
    · split at read
      · simp only [Except.ok.injEq, Prod.mk.injEq] at read
        rw [← read.2]; exact firstShorter
      · split at read
        · cases read
        · next second secondRead =>
          split at read
          · cases read
          · next third thirdRead =>
            split at read
            · cases read
            · next fourth fourthRead =>
              have := pairMark_shorter secondRead
              have := pairMark_shorter thirdRead
              have := hexUnit_shorter fourthRead
              split at read
              · cases read
              · simp only [Except.ok.injEq, Prod.mk.injEq] at read
                rw [← read.2]; omega

/-- An escape takes at least one character. -/
theorem escape_shorter {cursor next : Cursor} {c : Char} (read : escape cursor = .ok (c, next)) :
    next.rest.length < cursor.rest.length := by
  simp only [escape] at read
  split at read
  · cases read
  · next rest shape =>
    have shorter := unicodeEscape_shorter read
    simp only [Cursor.past] at shorter
    simp only [shape, List.length_cons]
    omega
  · next first rest _ shape =>
    split at read
    · simp only [Except.ok.injEq, Prod.mk.injEq] at read
      simp [← read.2, Cursor.past, shape]
    · cases read

/-- The rest of a string whose opening quote was read; `seen` holds its characters so far, the last
    one first. -/
def stringFrom (seen : List Char) (cursor : Cursor) : Except Fault (String × Cursor) :=
  match shape : cursor.rest with
  | [] => .error (cursor.fault .endInString)
  | '"' :: rest => .ok (String.ofList seen.reverse, cursor.past '"' rest)
  | '\\' :: rest =>
      match _read : escape (cursor.past '\\' rest) with
      | .error fault => .error fault
      | .ok (c, next) => stringFrom (c :: seen) next
  | c :: rest =>
      if c.toNat < 0x20 then .error ⟨.controlCharacter, cursor.index + 1⟩
      else stringFrom (c :: seen) (cursor.past c rest)
termination_by cursor.rest.length
decreasing_by
  · have shorter := escape_shorter _read
    simp only [Cursor.past] at shorter
    simp only [shape, List.length_cons]
    omega
  · simp [Cursor.past, shape]

/-- A string, its opening quote already read. -/
def stringBody (cursor : Cursor) : Except Fault (String × Cursor) :=
  stringFrom [] cursor

/-! ## Numbers -/

def digitValue (c : Char) : Nat :=
  c.toNat - '0'.toNat

/-- The digits at the cursor, and the cursor behind them. -/
def digitRun (cursor : Cursor) : List Char × Cursor :=
  let digits := cursor.rest.takeWhile Char.isDigit
  (digits, ⟨cursor.index + digits.length, cursor.rest.dropWhile Char.isDigit⟩)

/-- Append digits to a significand as long as it fits 64 bits. The second part counts the digits
    that were left out, which is all of them from the first that does not fit. -/
def appendDigits (significand : Nat) : List Char → Nat × Nat
  | [] => (significand, 0)
  | digit :: more =>
      let longer := significand * 10 + digitValue digit
      if longer < Nat.pow 2 64 then appendDigits longer more else (significand, more.length + 1)

/-- A power of ten in the 64-bit format. -/
def powerOfTen (exponent : Nat) : Number.Binary :=
  Number.Binary.ofRatio Number.double (Nat.pow 10 exponent) 1

/-- `significand * 10 ^ exponent` in the 64-bit format: the significand is rounded, then multiplied
    or divided by a rounded power of ten, in steps of at most 308. Too large a number is none at
    all; a small one may become zero. The first argument bounds the number of steps. -/
def scale? : Nat → Number.Binary → Int → Option Number.Binary
  | 0, x, _ => some x
  | steps + 1, x, exponent =>
      if exponent.natAbs ≤ 308 then
        if 0 ≤ exponent then x.mul? Number.double (powerOfTen exponent.toNat)
        else x.div? Number.double (powerOfTen (-exponent).toNat)
      else if x.mantissa = 0 then some x
      else if 0 ≤ exponent then none
      else (x.div? Number.double (powerOfTen 308)).bind fun y => scale? steps y (exponent + 308)

/-- The number with the given parts, ending at the cursor. -/
def ofParts (negative : Bool) (significand : Nat) (exponent : Int) (cursor : Cursor) :
    Except Fault (Json.Number × Cursor) :=
  let steps := exponent.natAbs / 308 + 1
  match scale? steps (Number.Binary.ofRatio Number.double significand 1) exponent with
  | some magnitude => .ok (.binary negative magnitude, cursor)
  | none => .error (cursor.fault .numberOutOfRange)

/-- The largest exponent that is counted. -/
def exponentLimit : Nat := Nat.pow 2 31 - 1

/-- The digits of an exponent up to the limit: its value, or `none` with the number of digits up to
    the one that passes the limit. -/
def exponentDigits (value taken : Nat) : List Char → Nat ⊕ Nat
  | [] => .inl value
  | digit :: more =>
      let longer := value * 10 + digitValue digit
      if longer ≤ exponentLimit then exponentDigits longer (taken + 1) more else .inr (taken + 1)

/-- A number from the digits of its exponent on, the sign of the exponent already read. `exponent`
    is what the digits before it contribute. -/
def exponentFrom (negative : Bool) (significand : Nat) (exponent : Int) (down : Bool)
    (cursor : Cursor) : Except Fault (Json.Number × Cursor) :=
  match cursor.rest with
  | [] => .error (cursor.fault .endInValue)
  | c :: _ =>
      if !c.isDigit then .error ⟨.invalidNumber, cursor.index + 1⟩
      else
        let (digits, after) := digitRun cursor
        match exponentDigits 0 0 digits with
        | .inl value =>
            ofParts negative significand (if down then exponent - value else exponent + value) after
        | .inr taken =>
            if significand ≠ 0 ∧ !down then .error ⟨.numberOutOfRange, cursor.index + taken⟩
            else .ok (.binary negative (Number.Binary.ofRatio Number.double 0 1), after)

/-- A number from its exponent on, the letter already read. -/
def exponentPart (negative : Bool) (significand : Nat) (exponent : Int) (cursor : Cursor) :
    Except Fault (Json.Number × Cursor) :=
  match cursor.rest with
  | '+' :: rest => exponentFrom negative significand exponent false (cursor.past '+' rest)
  | '-' :: rest => exponentFrom negative significand exponent true (cursor.past '-' rest)
  | _ => exponentFrom negative significand exponent false cursor

def isExponentMark (c : Char) : Bool :=
  c == 'e' || c == 'E'

/-- A number from its point on, the point already read. -/
def fractionPart (negative : Bool) (significand : Nat) (exponent : Int) (cursor : Cursor) :
    Except Fault (Json.Number × Cursor) :=
  let (digits, after) := digitRun cursor
  if digits.isEmpty then
    .error (cursor.faultAhead (if cursor.rest.isEmpty then .endInValue else .invalidNumber))
  else
    let (significand, dropped) := appendDigits significand digits
    let exponent := exponent - ((digits.length - dropped : Nat) : Int)
    match after.rest with
    | [] => ofParts negative significand exponent after
    | c :: rest =>
        if isExponentMark c then exponentPart negative significand exponent (after.past c rest)
        else ofParts negative significand exponent after

/-- A whole number of 64 bits, signed below zero and unsigned above; beyond that, and for a negative
    zero, the binary number nearest to it. -/
def wholeNumber (negative : Bool) (significand : Nat) : Json.Number :=
  if !negative then .integer significand
  else if 0 < significand ∧ significand ≤ Nat.pow 2 63 then .integer (-(significand : Int))
  else .binary true (Number.Binary.ofRatio Number.double significand 1)

/-- A number behind its integer digits; `dropped` counts those that the significand left out. -/
def afterInteger (negative : Bool) (significand dropped : Nat) (cursor : Cursor) :
    Except Fault (Json.Number × Cursor) :=
  let whole :=
    if dropped = 0 then .ok (wholeNumber negative significand, cursor)
    else ofParts negative significand dropped cursor
  match cursor.rest with
  | [] => whole
  | c :: rest =>
      if c == '.' then fractionPart negative significand dropped (cursor.past c rest)
      else if isExponentMark c then exponentPart negative significand dropped (cursor.past c rest)
      else whole

/-- A number whose sign was read. -/
def unsignedNumber (negative : Bool) (cursor : Cursor) : Except Fault (Json.Number × Cursor) :=
  match cursor.rest with
  | [] => .error (cursor.fault .endInValue)
  | c :: rest =>
      if c == '0' then
        let after := cursor.past c rest
        if (rest.head?.map Char.isDigit).getD false then .error (after.faultAhead .invalidNumber)
        else afterInteger negative 0 0 after
      else if c.isDigit then
        let (digits, after) := digitRun cursor
        let (significand, dropped) := appendDigits 0 digits
        afterInteger negative significand dropped after
      else .error ⟨.invalidNumber, cursor.index + 1⟩

end Phrasebook.Json
