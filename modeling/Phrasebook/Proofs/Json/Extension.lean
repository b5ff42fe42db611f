import Phrasebook.Proofs.Json.Reading

/-! # Texts that go on

A reader does not look behind the value that it reads, so it makes of a text what it makes of the
text with more behind it. There are two exceptions. Where the text ends within the value, what is
behind it may complete the value. And only what follows a number tells where it ends, so what
follows must not go on with a number.
-/

namespace Phrasebook.Json

/-- The text has ended where more was needed. -/
def Reason.isUnfinished : Reason → Bool
  | .endInValue | .endInString | .endInList | .endInObject => true
  | _ => false

/-- The characters that a number goes on with. -/
def continuesNumber (c : Char) : Bool :=
  c.isDigit || c == '.' || isExponentMark c

/-- What becomes of a result when the text goes on: a value that was read is read again, and what
    was refused is refused again, unless for want of more text. -/
inductive Extends {α : Type} (same : α → α → Prop) : Except Fault α → Except Fault α → Prop
  | read {one other : α} (alike : same one other) : Extends same (.ok one) (.ok other)
  | refused {fault faultToo : Fault} : Extends same (.error fault) (.error faultToo)
  | unfinished {fault : Fault} {result : Except Fault α}
      (wanting : fault.reason.isUnfinished = true) : Extends same (.error fault) result

/-- The other cursor stands at the same text with `more` behind it. -/
def Goes (more : List Char) (one other : Cursor) : Prop :=
  other.rest = one.rest ++ more

/-- The same value, with the same text behind it but for `more`. -/
def GoesBehind {α : Type} (more : List Char) (one other : α × Cursor) : Prop :=
  one.1 = other.1 ∧ Goes more one.2 other.2

section

variable {α β : Type} {same : α → α → Prop} {sameToo : β → β → Prop}
  {one other : Except Fault α}

theorem Extends.bind {f g : α → Except Fault β} (extended : Extends same one other)
    (later : ∀ x y, same x y → Extends sameToo (f x) (g y)) :
    Extends sameToo (one >>= f) (other >>= g) := by
  cases extended with
  | read alike => exact later _ _ alike
  | refused => exact .refused
  | unfinished wanting => exact .unfinished wanting

theorem Extends.map {f g : α → β} (extended : Extends same one other)
    (later : ∀ x y, same x y → sameToo (f x) (g y)) :
    Extends sameToo (one.map f) (other.map g) := by
  cases extended with
  | read alike => exact .read (later _ _ alike)
  | refused => exact .refused
  | unfinished wanting => exact .unfinished wanting

theorem Extends.of_ok {one : α} {other : Except Fault α} (extended : Extends same (.ok one) other) :
    ∃ oneToo, other = .ok oneToo ∧ same one oneToo := by
  cases extended with
  | read alike => exact ⟨_, rfl, alike⟩

theorem Extends.of_error {fault : Fault} {other : Except Fault α}
    (extended : Extends same (.error fault) other) (finished : fault.reason.isUnfinished = false) :
    ∃ faultToo, other = .error faultToo := by
  cases extended with
  | refused => exact ⟨_, rfl⟩
  | unfinished wanting => cases wanting.symm.trans finished

end

variable {more : List Char}

/-! ## Blanks and words -/

/-- Behind the blanks the text has ended, or the next character is the same. -/
theorem skipBlanks_goes (more : List Char) (index indexToo : Nat) (rest : List Char) :
    (∃ here, (⟨index, rest⟩ : Cursor).skipBlanks = ⟨here, []⟩) ∨
      ∃ here there c behind, (⟨index, rest⟩ : Cursor).skipBlanks = ⟨here, c :: behind⟩ ∧
        (⟨indexToo, rest ++ more⟩ : Cursor).skipBlanks = ⟨there, c :: (behind ++ more)⟩ := by
  obtain ⟨blanks, behind, rfl, blank, stops⟩ := Text.exists_run isBlank rest
  rw [List.append_assoc, skipBlanks_append blank, skipBlanks_append blank]
  cases behind with
  | nil => exact .inl ⟨_, rfl⟩
  | cons c behind =>
      have visible := Text.startsOutside_cons.mp stops
      exact .inr ⟨_, _, c, behind, skipBlanks_cons visible _ _, skipBlanks_cons visible _ _⟩

theorem extends_word (letters : List Char) (index indexToo : Nat) (rest : List Char) :
    Extends (Goes more) (word letters ⟨index, rest⟩) (word letters ⟨indexToo, rest ++ more⟩) := by
  induction letters generalizing index indexToo rest with
  | nil => exact .read rfl
  | cons expected letters ih =>
      cases rest with
      | nil => exact .unfinished rfl
      | cons c rest =>
          simp only [word, List.cons_append]
          split
          · exact ih _ _ rest
          · exact .refused

/-! ## Strings -/

theorem utf8Size_of_hexValue? {c : Char} (digit : (hexValue? c).isSome) : c.utf8Size = 1 := by
  have ascii : c ≤ '\x7f' := by
    unfold hexValue? at digit
    split at digit
    · next range => exact Char.le_trans range.2 (by decide)
    · split at digit
      · next range => exact Char.le_trans range.2 (by decide)
      · split at digit
        · next range => exact Char.le_trans range.2 (by decide)
        · cases digit
  exact Char.utf8Size_eq_one_iff.mpr ascii

theorem utf8Length_eq_length {text : List Char} (digits : ∀ c ∈ text, (hexValue? c).isSome) :
    utf8Length text = text.length := by
  induction text with
  | nil => rfl
  | cons c rest ih =>
      obtain ⟨here, others⟩ := List.forall_mem_cons.mp digits
      rw [utf8Length, utf8Size_of_hexValue? here, ih others, List.length_cons, Nat.add_comm]

theorem digits_of_hexUnit {index : Nat} {text : List Char} {result : Nat × Cursor}
    (read : hexUnit ⟨index, text⟩ = .ok result) : ∀ c ∈ text.take 4, (hexValue? c).isSome := by
  unfold hexUnit at read
  dsimp only at read
  split at read
  · split at read
    · next first second third fourth => simp [first, second, third, fourth]
    · cases read
  · cases read

/-- Fewer than four characters that have four bytes are refused as they are, and are not all digits,
    so they are refused with others behind them too. -/
theorem extends_hexUnit_of_short (index indexToo : Nat) {rest : List Char}
    (short : rest.length < 4) :
    Extends (GoesBehind more) (hexUnit ⟨index, rest⟩) (hexUnit ⟨indexToo, rest ++ more⟩) := by
  have whole : rest.take 4 = rest := List.take_of_length_le (Nat.le_of_lt short)
  have refused : hexUnit ⟨index, rest⟩ = .error
      (if utf8Length rest < 4 then ⟨.endInString, index + utf8Length rest⟩
        else ⟨.invalidEscape, index + 4⟩) := by
    unfold hexUnit
    dsimp only
    split
    · simp only [List.length_cons] at short
      omega
    · rw [whole]
  rw [refused]
  by_cases few : utf8Length rest < 4
  · rw [if_pos few]
    exact .unfinished rfl
  · rw [if_neg few]
    cases read : hexUnit ⟨indexToo, rest ++ more⟩ with
    | error fault => exact .refused
    | ok result =>
        have digits := digits_of_hexUnit read
        rw [List.take_append, whole] at digits
        have size := utf8Length_eq_length fun c member =>
          digits c (List.mem_append_left _ member)
        omega

theorem extends_hexUnit (index indexToo : Nat) (rest : List Char) :
    Extends (GoesBehind more) (hexUnit ⟨index, rest⟩) (hexUnit ⟨indexToo, rest ++ more⟩) := by
  match rest with
  | a :: b :: c :: d :: rest =>
      simp only [hexUnit, List.cons_append]
      split
      · exact .read ⟨rfl, rfl⟩
      · exact .refused
  | [] | [_] | [_, _] | [_, _, _] => exact extends_hexUnit_of_short index indexToo (by simp)

theorem extends_pairMark (mark : Char) (index indexToo : Nat) (rest : List Char) :
    Extends (Goes more) (pairMark mark ⟨index, rest⟩) (pairMark mark ⟨indexToo, rest ++ more⟩) := by
  cases rest with
  | nil => exact .unfinished rfl
  | cons c rest =>
      simp only [pairMark, List.cons_append]
      split
      · exact .read rfl
      · exact .refused

theorem extends_unicodeEscape (index indexToo : Nat) (rest : List Char) :
    Extends (GoesBehind more) (unicodeEscape ⟨index, rest⟩)
      (unicodeEscape ⟨indexToo, rest ++ more⟩) := by
  unfold unicodeEscape
  apply (extends_hexUnit index indexToo rest).bind
  rintro ⟨high, index, rest⟩ ⟨_, indexToo, _⟩ ⟨rfl, rfl⟩
  dsimp only
  split
  · exact .refused
  · split
    · exact .read ⟨rfl, rfl⟩
    · apply (extends_pairMark '\\' index indexToo rest).bind
      rintro ⟨index, rest⟩ ⟨indexToo, _⟩ rfl
      apply (extends_pairMark 'u' index indexToo rest).bind
      rintro ⟨index, rest⟩ ⟨indexToo, _⟩ rfl
      apply (extends_hexUnit index indexToo rest).bind
      rintro ⟨low, index, rest⟩ ⟨_, indexToo, _⟩ ⟨rfl, rfl⟩
      dsimp only
      split
      · exact .refused
      · exact .read ⟨rfl, rfl⟩

theorem extends_escape (index indexToo : Nat) (rest : List Char) :
    Extends (GoesBehind more) (escape ⟨index, rest⟩) (escape ⟨indexToo, rest ++ more⟩) := by
  cases rest with
  | nil => exact .unfinished rfl
  | cons c rest =>
      by_cases unicode : c = 'u'
      · subst unicode
        exact extends_unicodeEscape _ _ rest
      · simp only [escape, List.cons_append]
        cases shortEscape? c with
        | some meant => exact .read ⟨rfl, rfl⟩
        | none => exact .refused

theorem extends_stringFrom (seen : List Char) (index indexToo : Nat) (rest : List Char) :
    Extends (GoesBehind more) (stringFrom seen ⟨index, rest⟩)
      (stringFrom seen ⟨indexToo, rest ++ more⟩) := by
  -- An escape takes several characters, so the induction is on the length of what is left.
  induction size : rest.length using Nat.strongRecOn generalizing seen index indexToo rest with
  | ind length ih =>
  cases rest with
  | nil =>
      have ended : stringFrom seen ⟨index, []⟩ = .error ⟨.endInString, index⟩ := by
        rw [stringFrom]
        rfl
      rw [ended]
      exact .unfinished rfl
  | cons c rest =>
      rw [List.length_cons] at size
      rw [List.cons_append]
      by_cases quote : c = '"'
      · subst quote
        rw [stringFrom_quote, stringFrom_quote]
        exact .read ⟨rfl, rfl⟩
      · by_cases backslash : c = '\\'
        · subst backslash
          have escaped : Extends (GoesBehind more) (escape ⟨index + 1, rest⟩)
              (escape ⟨indexToo + 1, rest ++ more⟩) :=
            extends_escape _ _ rest
          generalize here : escape ⟨index + 1, rest⟩ = result at escaped
          generalize there : escape ⟨indexToo + 1, rest ++ more⟩ = resultToo at escaped
          cases escaped with
          | @read meant other alike =>
              obtain ⟨c, after, behind⟩ := meant
              obtain ⟨_, afterToo, _⟩ := other
              obtain ⟨rfl, rfl⟩ := alike
              have shorter := escape_shorter here
              rw [stringFrom_escape here, stringFrom_escape there]
              exact ih behind.length (by dsimp only at shorter; omega) _ _ _ behind rfl
          | refused =>
              rw [stringFrom_refused here, stringFrom_refused there]
              exact .refused
          | unfinished wanting =>
              rw [stringFrom_refused here]
              exact .unfinished wanting
        · rw [stringFrom_cons quote backslash, stringFrom_cons quote backslash]
          split
          · exact .refused
          · exact ih rest.length (by omega) _ _ _ rest rfl

theorem extends_stringBody (index indexToo : Nat) (rest : List Char) :
    Extends (GoesBehind more) (stringBody ⟨index, rest⟩) (stringBody ⟨indexToo, rest ++ more⟩) :=
  extends_stringFrom [] index indexToo rest

/-! ## Numbers -/

theorem continuesNumber_eq_false_iff {c : Char} :
    continuesNumber c = false ↔
      c.isDigit = false ∧ (c == '.') = false ∧ isExponentMark c = false := by
  simp only [continuesNumber, Bool.or_eq_false_iff, and_assoc]

theorem extends_ofParts (negative : Bool) (significand : Nat) (exponent : Int)
    (index indexToo : Nat) (rest : List Char) :
    Extends (GoesBehind more) (ofParts negative significand exponent ⟨index, rest⟩)
      (ofParts negative significand exponent ⟨indexToo, rest ++ more⟩) := by
  simp only [ofParts]
  split
  · exact .read ⟨rfl, rfl⟩
  · exact .refused

section Numbers

variable (ends : Text.StartsOutside continuesNumber more)
include ends

theorem startsOutside_isDigit : Text.StartsOutside Char.isDigit more :=
  fun c first => (continuesNumber_eq_false_iff.mp (ends c first)).1

theorem digitRun_goes (index indexToo : Nat) (rest : List Char) :
    GoesBehind more (digitRun ⟨index, rest⟩) (digitRun ⟨indexToo, rest ++ more⟩) := by
  have outside := startsOutside_isDigit ends
  exact ⟨(Text.takeWhile_append rest outside).symm, Text.dropWhile_append rest outside⟩

theorem extends_exponentFrom (negative : Bool) (significand : Nat) (exponent : Int) (down : Bool)
    (index indexToo : Nat) (rest : List Char) :
    Extends (GoesBehind more) (exponentFrom negative significand exponent down ⟨index, rest⟩)
      (exponentFrom negative significand exponent down ⟨indexToo, rest ++ more⟩) := by
  have run := digitRun_goes ends index indexToo rest
  unfold exponentFrom
  generalize digitRun ⟨index, rest⟩ = digits at run ⊢
  generalize digitRun ⟨indexToo, rest ++ more⟩ = digitsToo at run ⊢
  obtain ⟨digits, after, behind⟩ := digits
  obtain ⟨_, afterToo, _⟩ := digitsToo
  obtain ⟨rfl, rfl⟩ := run
  cases rest with
  | nil => exact .unfinished rfl
  | cons c rest =>
      dsimp only [List.cons_append]
      split
      · exact .refused
      · split
        · exact extends_ofParts _ _ _ _ _ _
        · split
          · exact .refused
          · exact .read ⟨rfl, rfl⟩

theorem extends_exponentPart (negative : Bool) (significand : Nat) (exponent : Int)
    (index indexToo : Nat) (rest : List Char) :
    Extends (GoesBehind more) (exponentPart negative significand exponent ⟨index, rest⟩)
      (exponentPart negative significand exponent ⟨indexToo, rest ++ more⟩) := by
  cases rest with
  | nil => exact .unfinished rfl
  | cons c rest =>
      rw [List.cons_append]
      by_cases plus : c = '+'
      · subst plus
        exact extends_exponentFrom ends _ _ _ _ _ _ rest
      · by_cases minus : c = '-'
        · subst minus
          exact extends_exponentFrom ends _ _ _ _ _ _ rest
        · have unsigned (start : Nat) (behind : List Char) :
              exponentPart negative significand exponent ⟨start, c :: behind⟩ =
                exponentFrom negative significand exponent false ⟨start, c :: behind⟩ := by
            unfold exponentPart
            split
            case h_1 shape => exact absurd (List.cons.inj shape).1 plus
            case h_2 shape => exact absurd (List.cons.inj shape).1 minus
            case h_3 => rfl
          rw [unsigned, unsigned]
          exact extends_exponentFrom ends _ _ _ _ _ _ (c :: rest)

theorem extends_fractionPart (negative : Bool) (significand : Nat) (exponent : Int)
    (index indexToo : Nat) (rest : List Char) :
    Extends (GoesBehind more) (fractionPart negative significand exponent ⟨index, rest⟩)
      (fractionPart negative significand exponent ⟨indexToo, rest ++ more⟩) := by
  cases rest with
  | nil => exact .unfinished rfl
  | cons first rest =>
      have run := digitRun_goes ends index indexToo (first :: rest)
      unfold fractionPart
      generalize digitRun ⟨index, first :: rest⟩ = digits at run ⊢
      generalize digitRun ⟨indexToo, first :: rest ++ more⟩ = digitsToo at run ⊢
      obtain ⟨digits, after, behind⟩ := digits
      obtain ⟨_, afterToo, _⟩ := digitsToo
      obtain ⟨rfl, rfl⟩ := run
      dsimp only
      split
      · exact .refused
      · cases behind with
        | cons c behind =>
            dsimp only [List.cons_append]
            split
            · exact extends_exponentPart ends _ _ _ _ _ behind
            · exact extends_ofParts _ _ _ _ _ (c :: behind)
        | nil =>
            have ended (significand : Nat) (exponent : Int) : Extends (GoesBehind more)
                (ofParts negative significand exponent ⟨after, []⟩)
                (ofParts negative significand exponent ⟨afterToo, more⟩) :=
              extends_ofParts _ _ _ _ _ []
            cases more with
            | nil => exact ended _ _
            | cons c others =>
                obtain ⟨-, -, mark⟩ :=
                  continuesNumber_eq_false_iff.mp (Text.startsOutside_cons.mp ends)
                dsimp only [List.nil_append]
                rw [if_neg (Bool.eq_false_iff.mp mark)]
                exact ended _ _

theorem extends_afterInteger (negative : Bool) (significand dropped : Nat)
    (index indexToo : Nat) (rest : List Char) :
    Extends (GoesBehind more) (afterInteger negative significand dropped ⟨index, rest⟩)
      (afterInteger negative significand dropped ⟨indexToo, rest ++ more⟩) := by
  have whole : Extends (GoesBehind more)
      (if dropped = 0 then .ok (wholeNumber negative significand, ⟨index, rest⟩)
        else ofParts negative significand dropped ⟨index, rest⟩)
      (if dropped = 0 then .ok (wholeNumber negative significand, ⟨indexToo, rest ++ more⟩)
        else ofParts negative significand dropped ⟨indexToo, rest ++ more⟩) := by
    split
    · exact .read ⟨rfl, rfl⟩
    · exact extends_ofParts _ _ _ _ _ rest
  cases rest with
  | cons c rest =>
      simp only [afterInteger, List.cons_append]
      split
      · exact extends_fractionPart ends _ _ _ _ _ rest
      · split
        · exact extends_exponentPart ends _ _ _ _ _ rest
        · exact whole
  | nil =>
      cases more with
      | nil => exact whole
      | cons c others =>
          obtain ⟨-, point, mark⟩ :=
            continuesNumber_eq_false_iff.mp (Text.startsOutside_cons.mp ends)
          simp only [afterInteger, List.nil_append, point, mark]
          exact whole

theorem leads_digit_append (rest : List Char) :
    ((rest ++ more).head?.map Char.isDigit).getD false =
      (rest.head?.map Char.isDigit).getD false := by
  cases rest with
  | cons c rest => rfl
  | nil =>
      cases more with
      | nil => rfl
      | cons c others => exact Text.startsOutside_cons.mp (startsOutside_isDigit ends)

theorem extends_unsignedNumber (negative : Bool) (index indexToo : Nat) (rest : List Char) :
    Extends (GoesBehind more) (unsignedNumber negative ⟨index, rest⟩)
      (unsignedNumber negative ⟨indexToo, rest ++ more⟩) := by
  cases rest with
  | nil => exact .unfinished rfl
  | cons c rest =>
      have run := digitRun_goes ends index indexToo (c :: rest)
      unfold unsignedNumber
      generalize digitRun ⟨index, c :: rest⟩ = digits at run ⊢
      generalize digitRun ⟨indexToo, c :: rest ++ more⟩ = digitsToo at run ⊢
      obtain ⟨digits, after, behind⟩ := digits
      obtain ⟨_, afterToo, _⟩ := digitsToo
      obtain ⟨rfl, rfl⟩ := run
      dsimp only [List.cons_append]
      split
      · rw [leads_digit_append ends]
        split
        · exact .refused
        · exact extends_afterInteger ends _ _ _ _ _ rest
      · split
        · exact extends_afterInteger ends _ _ _ _ _ behind
        · exact .refused

/-- A character starts a value without inner structure in both texts or in neither. -/
theorem extends_scalar? (c : Char) (index indexToo : Nat) (rest : List Char) :
    Option.Rel (Extends (GoesBehind more)) (scalar? c rest ⟨index, c :: rest⟩)
      (scalar? c (rest ++ more) ⟨indexToo, c :: (rest ++ more)⟩) := by
  unfold scalar?
  split
  · next letters value _ =>
    exact .some ((extends_word letters _ _ rest).map fun _ _ goes => ⟨rfl, goes⟩)
  · split
    · exact .some ((extends_stringBody _ _ rest).map fun _ _ behind =>
        ⟨congrArg Json.string behind.1, behind.2⟩)
    · split
      · exact .some ((extends_unsignedNumber ends true _ _ rest).map fun _ _ behind =>
          ⟨congrArg Json.number behind.1, behind.2⟩)
      · split
        · exact .some ((extends_unsignedNumber ends false _ _ (c :: rest)).map fun _ _ behind =>
            ⟨congrArg Json.number behind.1, behind.2⟩)
        · exact .none

end Numbers

/-! ## What stands between the parts of a value -/

/-- The same end or the same next part, with the same text behind it but for `more`. -/
inductive NextBehind (more : List Char) : Next → Next → Prop
  | done {one other : Cursor} (goes : Goes more one other) :
      NextBehind more (.done one) (.done other)
  | more {one other : Cursor} (goes : Goes more one other) :
      NextBehind more (.more one) (.more other)

theorem extends_colon (index indexToo : Nat) (rest : List Char) :
    Extends (Goes more) (colon ⟨index, rest⟩) (colon ⟨indexToo, rest ++ more⟩) := by
  unfold colon
  rcases skipBlanks_goes more index indexToo rest with
    ⟨here, one⟩ | ⟨here, there, c, behind, one, other⟩
  · rw [one]
    exact .unfinished rfl
  · rw [one, other]
    dsimp only
    split
    · exact .read rfl
    · exact .refused

theorem extends_nextItem (first : Bool) (index indexToo : Nat) (rest : List Char) :
    Extends (NextBehind more) (nextItem first ⟨index, rest⟩)
      (nextItem first ⟨indexToo, rest ++ more⟩) := by
  unfold nextItem
  rcases skipBlanks_goes more index indexToo rest with
    ⟨here, one⟩ | ⟨here, there, c, behind, one, other⟩
  · rw [one]
    exact .unfinished rfl
  · rw [one, other]
    dsimp only [Cursor.past]
    split
    · exact .read (.done rfl)
    · split
      · exact .read (.more rfl)
      · split
        · rcases skipBlanks_goes more (here + c.utf8Size) (there + c.utf8Size) behind with
            ⟨here, one⟩ | ⟨here, there, c, behind, one, other⟩
          · rw [one]
            exact .unfinished rfl
          · rw [one, other]
            dsimp only
            split
            · exact .refused
            · exact .read (.more rfl)
        · exact .refused

theorem extends_nextField (first : Bool) (index indexToo : Nat) (rest : List Char) :
    Extends (NextBehind more) (nextField first ⟨index, rest⟩)
      (nextField first ⟨indexToo, rest ++ more⟩) := by
  unfold nextField
  rcases skipBlanks_goes more index indexToo rest with
    ⟨here, one⟩ | ⟨here, there, c, behind, one, other⟩
  · rw [one]
    exact .unfinished rfl
  · rw [one, other]
    dsimp only [Cursor.past]
    split
    · exact .read (.done rfl)
    · split
      · split
        · exact .read (.more rfl)
        · exact .refused
      · split
        · rcases skipBlanks_goes more (here + c.utf8Size) (there + c.utf8Size) behind with
            ⟨here, one⟩ | ⟨here, there, c, behind, one, other⟩
          · rw [one]
            exact .unfinished rfl
          · rw [one, other]
            dsimp only
            split
            · exact .read (.more rfl)
            · split
              · exact .refused
              · exact .refused
        · exact .refused

/-! ## Values -/

/-- What a number of steps makes of the text, it makes of the text with more behind it. -/
structure ExtendsWithin (more : List Char) (steps : Nat) : Prop where
  value : ∀ depth index indexToo rest, Extends (GoesBehind more)
    (value steps depth ⟨index, rest⟩) (value steps depth ⟨indexToo, rest ++ more⟩)
  items : ∀ depth first index indexToo rest, Extends (GoesBehind more)
    (items steps depth first ⟨index, rest⟩) (items steps depth first ⟨indexToo, rest ++ more⟩)
  fields : ∀ depth first before index indexToo rest, Extends (GoesBehind more)
    (fields steps depth first before ⟨index, rest⟩)
    (fields steps depth first before ⟨indexToo, rest ++ more⟩)

section Values

variable {steps : Nat}

theorem extends_value_succ (ends : Text.StartsOutside continuesNumber more)
    (within : ExtendsWithin more steps) (depth index indexToo : Nat) (rest : List Char) :
    Extends (GoesBehind more) (value (steps + 1) depth ⟨index, rest⟩)
      (value (steps + 1) depth ⟨indexToo, rest ++ more⟩) := by
  unfold value
  rcases skipBlanks_goes more index indexToo rest with
    ⟨here, one⟩ | ⟨here, there, c, behind, one, other⟩
  · rw [one]
    exact .unfinished rfl
  · rw [one, other]
    have scalar := extends_scalar? ends c here there behind
    dsimp only [Cursor.past]
    generalize scalar? c behind ⟨here, c :: behind⟩ = result at scalar ⊢
    generalize scalar? c (behind ++ more) ⟨there, c :: (behind ++ more)⟩ = resultToo at scalar ⊢
    cases scalar with
    | some extended => exact extended
    | none =>
        dsimp only
        split
        · split
          · exact .refused
          · exact (within.items _ _ _ _ behind).map fun _ _ alike =>
              ⟨congrArg Json.array alike.1, alike.2⟩
        · split
          · split
            · exact .refused
            · exact (within.fields _ _ _ _ _ behind).map fun _ _ alike =>
                ⟨congrArg Json.object alike.1, alike.2⟩
          · exact .refused

theorem extends_items_succ (within : ExtendsWithin more steps) (depth : Nat) (first : Bool)
    (index indexToo : Nat) (rest : List Char) :
    Extends (GoesBehind more) (items (steps + 1) depth first ⟨index, rest⟩)
      (items (steps + 1) depth first ⟨indexToo, rest ++ more⟩) := by
  unfold items
  apply (extends_nextItem first index indexToo rest).bind
  rintro _ _ (@⟨⟨index, rest⟩, ⟨indexToo, _⟩, rfl⟩ | @⟨⟨index, rest⟩, ⟨indexToo, _⟩, rfl⟩)
  · exact .read ⟨rfl, rfl⟩
  · apply (within.value depth index indexToo rest).bind
    rintro ⟨item, index, rest⟩ ⟨_, indexToo, _⟩ ⟨rfl, rfl⟩
    apply (within.items depth false index indexToo rest).bind
    rintro ⟨others, index, rest⟩ ⟨_, indexToo, _⟩ ⟨rfl, rfl⟩
    exact .read ⟨rfl, rfl⟩

theorem extends_fields_succ (within : ExtendsWithin more steps) (depth : Nat) (first : Bool)
    (before : List (String × Json)) (index indexToo : Nat) (rest : List Char) :
    Extends (GoesBehind more) (fields (steps + 1) depth first before ⟨index, rest⟩)
      (fields (steps + 1) depth first before ⟨indexToo, rest ++ more⟩) := by
  unfold fields
  apply (extends_nextField first index indexToo rest).bind
  rintro _ _ (@⟨⟨index, rest⟩, ⟨indexToo, _⟩, rfl⟩ | @⟨⟨index, rest⟩, ⟨indexToo, _⟩, rfl⟩)
  · exact .read ⟨rfl, rfl⟩
  · apply (extends_stringBody index indexToo rest).bind
    rintro ⟨name, index, rest⟩ ⟨_, indexToo, _⟩ ⟨rfl, rfl⟩
    apply (extends_colon index indexToo rest).bind
    rintro ⟨index, rest⟩ ⟨indexToo, _⟩ rfl
    apply (within.value depth index indexToo rest).bind
    rintro ⟨item, index, rest⟩ ⟨_, indexToo, _⟩ ⟨rfl, rfl⟩
    exact within.fields depth false (insertField name item before) index indexToo rest

end Values

theorem extendsWithin (ends : Text.StartsOutside continuesNumber more) (steps : Nat) :
    ExtendsWithin more steps := by
  induction steps with
  | zero =>
      exact ⟨fun _ _ _ _ => .refused, fun _ _ _ _ _ => .refused, fun _ _ _ _ _ _ => .refused⟩
  | succ steps ih =>
      exact ⟨extends_value_succ ends ih, extends_items_succ ih, extends_fields_succ ih⟩

end Phrasebook.Json
