import Phrasebook.Proofs.Text.Trimming
import Phrasebook.Text.Lowercase

/-! # What lower case leaves alone

A text in lower case is its own lower case: no character of it is a capital, and sigma, whose form
depends on its neighbours, is written in a form that no neighbour changes. White space has no case
and ends a word just as the end of the text does, so a text may be trimmed before or after it is put
in lower case.
-/

namespace Phrasebook.Text

/-! ## Tables

What the tables say of each other is checked run by run and not character by character. -/

namespace ShiftRun

theorem exists_of_find? {runs : List ShiftRun} {code moved : Nat}
    (found : find? runs code = some moved) :
    ∃ run ∈ runs, run.covers code = true ∧ run.move code = moved := by
  induction runs with
  | nil => cases found
  | cons run rest ih =>
      unfold find? at found
      split at found
      · cases found
      · split at found
        · next covered => exact ⟨run, List.mem_cons_self, covered, Option.some.inj found⟩
        · obtain ⟨other, member, moves⟩ := ih found
          exact ⟨other, List.mem_cons_of_mem _ member, moves⟩

/-- The code points of the run lie an even distance apart. -/
def isEven (run : ShiftRun) : Bool :=
  run.stride % 2 == 0 || run.first == run.last

theorem even_of_covers {run : ShiftRun} {code : Nat} (covered : run.covers code = true)
    (even : run.isEven = true) : (code - run.first) % 2 = 0 := by
  simp only [covers, Bool.and_eq_true, decide_eq_true_eq, beq_iff_eq] at covered
  simp only [isEven, Bool.or_eq_true, beq_iff_eq] at even
  obtain ⟨⟨above, below⟩, spaced⟩ := covered
  rcases even with even | single
  · have divides : 2 ∣ code - run.first :=
      Nat.dvd_trans (Nat.dvd_of_mod_eq_zero even) (Nat.dvd_of_mod_eq_zero spaced)
    exact Nat.mod_eq_zero_of_dvd divides
  · omega

/-- None of the code points that the run moves others to is moved by a list of runs: they lie before
    or behind its runs, or between the code points of a run. -/
def settlesIn (run : ShiftRun) : List ShiftRun → Bool
  | [] => true
  | other :: rest =>
      Nat.blt (run.move run.last) other.first ||
        ((Nat.blt other.last run.target ||
          (run.isEven && other.isEven && (run.target + other.first) % 2 == 1)) &&
        settlesIn run rest)

theorem find?_of_settlesIn {run : ShiftRun} {runs : List ShiftRun} {code : Nat}
    (covered : run.covers code = true) (settles : run.settlesIn runs = true) :
    find? runs (run.move code) = none := by
  have within := covered
  simp only [covers, Bool.and_eq_true, decide_eq_true_eq] at within
  obtain ⟨⟨above, below⟩, -⟩ := within
  induction runs with
  | nil => rfl
  | cons other rest ih =>
      simp only [settlesIn, Bool.or_eq_true, Bool.and_eq_true, Nat.blt_eq, beq_iff_eq] at settles
      unfold find?
      split
      · rfl
      · next reached =>
        rcases settles with before | ⟨apart, others⟩
        · unfold move at before reached
          omega
        · have uncovered : other.covers (run.move code) ≠ true := by
            intro meets
            have inside := meets
            simp only [covers, Bool.and_eq_true, decide_eq_true_eq] at inside
            rcases apart with behind | ⟨⟨even, otherEven⟩, odd⟩
            · unfold move at inside
              omega
            · have one := even_of_covers covered even
              have two := even_of_covers meets otherEven
              unfold move at inside two
              omega
          rw [if_neg uncovered]
          exact ih others

end ShiftRun

namespace CodeSet

/-- A set with the given turns has no code point from `low` to `high`. -/
def spares (low high : Nat) : List Nat → Bool
  | [] => true
  | [start] => Nat.blt high start
  | start :: stop :: rest => Nat.blt high start || (Nat.ble stop low && spares low high rest)

theorem holds_of_spares {low high code : Nat} {turns : List Nat} (above : low ≤ code)
    (below : code ≤ high) (spared : spares low high turns = true) : holds turns code = false := by
  fun_induction spares low high turns with
  | case1 => rfl
  | case2 start =>
      rw [Nat.blt_eq] at spared
      simp only [holds, decide_eq_false_iff_not]
      omega
  | case3 start stop rest ih =>
      simp only [Bool.or_eq_true, Bool.and_eq_true, Nat.blt_eq, Nat.ble_eq] at spared
      unfold holds
      split
      · rfl
      · next reached =>
        rcases spared with before | ⟨behind, others⟩
        · omega
        · rw [if_neg (by omega), ih others]

/-- The code points of a set with the given turns, if it turns off at last. -/
def codes : List Nat → List Nat
  | start :: stop :: rest => List.range' start (stop - start) ++ codes rest
  | _ => []

theorem mem_codes {turns : List Nat} {code : Nat} (closed : turns.length % 2 = 0)
    (inside : holds turns code = true) : code ∈ codes turns := by
  fun_induction holds turns code with
  | case1 => cases inside
  | case2 => cases closed
  | case3 => cases inside
  | case4 code start stop rest after before =>
      refine List.mem_append_left _ (List.mem_range'_1.mpr ⟨Nat.not_lt.mp after, ?_⟩)
      omega
  | case5 code start stop rest after later ih =>
      simp only [List.length_cons] at closed
      exact List.mem_append_right _ (ih (by omega) inside)

end CodeSet

/-! ## Characters -/

/-- Lower case leaves the character alone, wherever it stands. -/
structure IsLower (c : Char) : Prop where
  same : lowerChar c = [c]
  steady : c ≠ 'Σ'

theorem isLower_of_unmoved {c : Char} (unmoved : ShiftRun.find? capitalRuns c.toNat = none)
    (notDotted : c ≠ 'İ') : IsLower c := by
  refine ⟨by rw [lowerChar, if_neg notDotted, unmoved], ?_⟩
  rintro rfl
  revert unmoved
  decide

/-- The run moves capitals to characters that are no capitals and no white space. -/
def isSettled (run : ShiftRun) : Bool :=
  run.settlesIn capitalRuns && run.settlesIn [⟨0x130, 0x130, 1, 0x69⟩] &&
    CodeSet.spares run.target (run.move run.last) whiteSpace.turns &&
    (Nat.blt (run.move run.last) 0xD800 ||
      (Nat.blt 0xDFFF run.target && Nat.blt (run.move run.last) 0x110000))

theorem capitalRuns_settled : capitalRuns.all isSettled = true := by
  decide +kernel

theorem whiteSpace_settled :
    ((CodeSet.codes whiteSpace.turns).all fun code =>
      ShiftRun.find? capitalRuns code == none && code != 'İ'.toNat &&
        !CodeSet.holds cased.turns code && !CodeSet.holds caseIgnorable.turns code) = true := by
  decide +kernel

theorem mem_whiteSpace_codes {c : Char} (white : isWhite c = true) :
    c.toNat ∈ CodeSet.codes whiteSpace.turns :=
  CodeSet.mem_codes rfl white

theorem isLower_of_isWhite {c : Char} (white : isWhite c = true) : IsLower c := by
  have settled := List.all_eq_true.mp whiteSpace_settled _ (mem_whiteSpace_codes white)
  simp only [Bool.and_eq_true, beq_iff_eq, bne_iff_ne] at settled
  exact isLower_of_unmoved settled.1.1.1 fun same => settled.1.1.2 (congrArg Char.toNat same)

theorem not_cased_of_isWhite {c : Char} (white : isWhite c = true) : cased.contains c = false := by
  have settled := List.all_eq_true.mp whiteSpace_settled _ (mem_whiteSpace_codes white)
  simp only [Bool.and_eq_true, Bool.not_eq_true'] at settled
  exact settled.1.2

theorem not_caseIgnorable_of_isWhite {c : Char} (white : isWhite c = true) :
    caseIgnorable.contains c = false := by
  have settled := List.all_eq_true.mp whiteSpace_settled _ (mem_whiteSpace_codes white)
  simp only [Bool.and_eq_true, Bool.not_eq_true'] at settled
  exact settled.2

/-- What a run moves a character to is in lower case and no white space. -/
theorem isLower_of_find? {code moved : Nat} (found : ShiftRun.find? capitalRuns code = some moved) :
    IsLower (Char.ofNat moved) ∧ isWhite (Char.ofNat moved) = false := by
  obtain ⟨run, member, covered, rfl⟩ := ShiftRun.exists_of_find? found
  have settled := List.all_eq_true.mp capitalRuns_settled run member
  simp only [isSettled, Bool.and_eq_true, Bool.or_eq_true, Nat.blt_eq] at settled
  obtain ⟨⟨⟨unmoved, notDotted⟩, notWhite⟩, valid⟩ := settled
  have above : run.target ≤ run.move code := Nat.le_add_right _ _
  have below : run.move code ≤ run.move run.last := by
    simp only [ShiftRun.covers, Bool.and_eq_true, decide_eq_true_eq] at covered
    unfold ShiftRun.move
    omega
  have char : (Char.ofNat (run.move code)).toNat = run.move code := by
    have isValid : (run.move code).isValidChar := by
      unfold Nat.isValidChar
      omega
    rw [Char.ofNat, dif_pos isValid]
    rfl
  refine ⟨isLower_of_unmoved ?_ ?_, ?_⟩
  · rw [char]
    exact ShiftRun.find?_of_settlesIn covered unmoved
  · intro same
    have still := ShiftRun.find?_of_settlesIn covered notDotted
    rw [← char, same] at still
    cases still
  · rw [isWhite, CodeSet.contains, char]
    exact CodeSet.holds_of_spares above below notWhite

theorem isLower_of_mem_lowerChar {c d : Char} (member : d ∈ lowerChar c) : IsLower d := by
  unfold lowerChar at member
  split at member
  · simp only [List.mem_cons, List.not_mem_nil, or_false] at member
    rcases member with rfl | rfl
    · exact isLower_of_unmoved (by decide) (by decide)
    · exact isLower_of_unmoved (by decide) (by decide)
  · next notDotted =>
    split at member
    · next moved found =>
      rw [List.mem_singleton.mp member]
      exact (isLower_of_find? found).1
    · next unmoved =>
      rw [List.mem_singleton.mp member]
      exact isLower_of_unmoved unmoved notDotted

theorem isWhite_of_mem_lowerChar {c d : Char} (notWhite : isWhite c = false)
    (member : d ∈ lowerChar c) : isWhite d = false := by
  unfold lowerChar at member
  split at member
  · simp only [List.mem_cons, List.not_mem_nil, or_false] at member
    rcases member with rfl | rfl <;> decide
  · split at member
    · next moved found =>
      rw [List.mem_singleton.mp member]
      exact (isLower_of_find? found).2
    · rw [List.mem_singleton.mp member]
      exact notWhite

theorem lowerSigma_cases (before after : List Char) :
    lowerSigma before after = 'ς' ∨ lowerSigma before after = 'σ' := by
  unfold lowerSigma
  split
  · exact .inl rfl
  · exact .inr rfl

theorem isLower_lowerSigma (before after : List Char) : IsLower (lowerSigma before after) := by
  rcases lowerSigma_cases before after with final | other
  · rw [final]
    exact isLower_of_unmoved (by decide) (by decide)
  · rw [other]
    exact isLower_of_unmoved (by decide) (by decide)

/-! ## Texts in lower case -/

/-- The lower-case form of a character where it stands. -/
def lowerAt (before : List Char) (c : Char) (after : List Char) : List Char :=
  if c = 'Σ' then [lowerSigma before after] else lowerChar c

theorem lowerFrom_cons (before : List Char) (c : Char) (after : List Char) :
    lowerFrom before (c :: after) = lowerAt before c after ++ lowerFrom (c :: before) after := rfl

theorem lowerAt_ne_nil (before : List Char) (c : Char) (after : List Char) :
    lowerAt before c after ≠ [] := by
  unfold lowerAt
  split
  · exact List.cons_ne_nil _ _
  · exact lowerChar_ne_nil c

theorem isLower_of_mem_lowerAt {before after : List Char} {c d : Char}
    (member : d ∈ lowerAt before c after) : IsLower d := by
  unfold lowerAt at member
  split at member
  · rw [List.mem_singleton.mp member]
    exact isLower_lowerSigma before after
  · exact isLower_of_mem_lowerChar member

theorem isWhite_of_mem_lowerAt {before after : List Char} {c d : Char}
    (notWhite : isWhite c = false) (member : d ∈ lowerAt before c after) : isWhite d = false := by
  unfold lowerAt at member
  split at member
  · rw [List.mem_singleton.mp member]
    rcases lowerSigma_cases before after with final | other
    · rw [final]
      decide
    · rw [other]
      decide
  · exact isWhite_of_mem_lowerChar notWhite member

theorem isLower_of_mem_lowerFrom {before text : List Char} {c : Char}
    (member : c ∈ lowerFrom before text) : IsLower c := by
  induction text generalizing before with
  | nil => cases member
  | cons first rest ih =>
      rw [lowerFrom_cons, List.mem_append] at member
      rcases member with here | later
      · exact isLower_of_mem_lowerAt here
      · exact ih later

theorem lowerFrom_of_isLower {text : List Char} (before : List Char)
    (inLower : ∀ c ∈ text, IsLower c) : lowerFrom before text = text := by
  induction text generalizing before with
  | nil => rfl
  | cons c rest ih =>
      obtain ⟨first, others⟩ := List.forall_mem_cons.mp inLower
      rw [lowerFrom_cons, lowerAt, if_neg first.steady, first.same, ih _ others]
      rfl

theorem lowercase_lowercase (text : String) : lowercase (lowercase text) = lowercase text := by
  have inLower : ∀ c ∈ lower text.toList, IsLower c := fun _ => isLower_of_mem_lowerFrom
  rw [lowercase, lowercase, String.toList_ofList]
  exact congrArg String.ofList (lowerFrom_of_isLower [] inLower)

/-! ## White space around a text -/

variable {text blank blankToo : List Char}

theorem meetsCased_cons (c : Char) (rest : List Char) :
    meetsCased (c :: rest) =
      if caseIgnorable.contains c then meetsCased rest else cased.contains c := by
  unfold meetsCased
  rw [List.dropWhile_cons]
  by_cases ignored : caseIgnorable.contains c = true
  · rw [if_pos ignored, if_pos ignored]
  · rw [if_neg ignored, if_neg ignored]

/-- White space ends a word as the end of the text does. -/
theorem meetsCased_append_white (text : List Char) (white : ∀ c ∈ blank, isWhite c = true) :
    meetsCased (text ++ blank) = meetsCased text := by
  induction text with
  | nil =>
      cases blank with
      | nil => rfl
      | cons c rest =>
          have first := white c List.mem_cons_self
          rw [List.nil_append, meetsCased_cons, not_caseIgnorable_of_isWhite first,
            not_cased_of_isWhite first]
          rfl
  | cons c rest ih => rw [List.cons_append, meetsCased_cons, meetsCased_cons, ih]

theorem lowerFrom_append_white (before text : List Char) (white : ∀ c ∈ blank, isWhite c = true) :
    lowerFrom before (text ++ blank) = lowerFrom before text ++ blank := by
  induction text generalizing before with
  | nil => exact lowerFrom_of_isLower before fun c member => isLower_of_isWhite (white c member)
  | cons c rest ih =>
      have here : lowerAt before c (rest ++ blank) = lowerAt before c rest := by
        simp only [lowerAt, lowerSigma, meetsCased_append_white rest white]
      rw [List.cons_append, lowerFrom_cons, lowerFrom_cons, ih, here, List.append_assoc]

theorem lowerFrom_behind_white (before text : List Char) (white : ∀ c ∈ blank, isWhite c = true) :
    lowerFrom (before ++ blank) text = lowerFrom before text := by
  induction text generalizing before with
  | nil => rfl
  | cons c rest ih =>
      have here : lowerAt (before ++ blank) c rest = lowerAt before c rest := by
        simp only [lowerAt, lowerSigma, meetsCased_append_white before white]
      rw [lowerFrom_cons, lowerFrom_cons, ← List.cons_append, ih, here]

theorem lowerFrom_append_of_isLower (before text : List Char) (inLower : ∀ c ∈ blank, IsLower c) :
    lowerFrom before (blank ++ text) = blank ++ lowerFrom (blank.reverse ++ before) text := by
  induction blank generalizing before with
  | nil => rfl
  | cons c rest ih =>
      obtain ⟨first, others⟩ := List.forall_mem_cons.mp inLower
      rw [List.cons_append, lowerFrom_cons, lowerAt, if_neg first.steady, first.same,
        ih _ others, List.reverse_cons, List.append_assoc]
      rfl

theorem lower_between_white (text : List Char) (white : ∀ c ∈ blank, isWhite c = true)
    (whiteToo : ∀ c ∈ blankToo, isWhite c = true) :
    lower (blank ++ text ++ blankToo) = blank ++ lower text ++ blankToo := by
  have inLower : ∀ c ∈ blank, IsLower c := fun c member => isLower_of_isWhite (white c member)
  have whiteBehind : ∀ c ∈ blank.reverse, isWhite c = true := by
    simpa only [List.mem_reverse] using white
  have behind := lowerFrom_behind_white [] text whiteBehind
  rw [List.nil_append] at behind
  rw [lower, lowerFrom_append_white _ _ whiteToo, lowerFrom_append_of_isLower _ _ inLower,
    List.append_nil, behind]
  rfl

theorem startsOutside_lowerFrom (before : List Char) (starts : StartsOutside isWhite text) :
    StartsOutside isWhite (lowerFrom before text) := by
  cases text with
  | nil => exact starts
  | cons c rest =>
      obtain ⟨d, others, here⟩ := List.exists_cons_of_ne_nil (lowerAt_ne_nil before c rest)
      have member : d ∈ lowerAt before c rest := here ▸ List.mem_cons_self
      rw [lowerFrom_cons, here, List.cons_append]
      exact startsOutside_cons.mpr (isWhite_of_mem_lowerAt (startsOutside_cons.mp starts) member)

theorem endsOutside_lowerFrom (before : List Char) (ends : EndsOutside isWhite text) :
    EndsOutside isWhite (lowerFrom before text) := by
  induction text generalizing before with
  | nil => exact ends
  | cons c rest ih =>
      rw [lowerFrom_cons]
      cases rest with
      | nil =>
          intro d last
          rw [lowerFrom, List.append_nil] at last
          exact isWhite_of_mem_lowerAt (ends c rfl) (List.mem_of_getLast? last)
      | cons next rest =>
          have filled : lowerFrom (c :: before) (next :: rest) ≠ [] := by
            rw [lowerFrom_cons]
            exact List.append_ne_nil_of_left_ne_nil (lowerAt_ne_nil _ _ _) _
          refine (endsOutside_append filled).mpr (ih _ fun d last => ends d ?_)
          rwa [List.getLast?_cons_cons]

theorem trimmed_lower (trimmed : Trimmed isWhite text) : Trimmed isWhite (lower text) :=
  ⟨startsOutside_lowerFrom [] trimmed.starts, endsOutside_lowerFrom [] trimmed.ends⟩

/-- A text falls into its core and the white space around it, before lower-casing and after. -/
theorem exists_lower_trimBoth (text : List Char) :
    ∃ front back, text = front ++ trimBoth isWhite text ++ back ∧
      lower text = front ++ lower (trimBoth isWhite text) ++ back ∧
      trimBoth isWhite (lower text) = lower (trimBoth isWhite text) := by
  obtain ⟨front, back, whole, white, whiteToo⟩ := exists_trimBoth isWhite text
  have lowered : lower text = front ++ lower (trimBoth isWhite text) ++ back := by
    rw [← lower_between_white _ white whiteToo, ← whole]
  refine ⟨front, back, whole, lowered, ?_⟩
  rw [lowered]
  exact trimBoth_between white (trimmed_lower (trimmed_trimBoth isWhite text)) whiteToo

theorem trimWhite_lowercase (text : String) :
    trimWhite (lowercase text) = lowercase (trimWhite text) := by
  obtain ⟨_, _, -, -, same⟩ := exists_lower_trimBoth text.toList
  rw [trimWhite, lowercase, lowercase, trimWhite, String.toList_ofList, String.toList_ofList, same]

/-- Lower case neither brings white space to the ends of a text nor takes it away there. -/
theorem trimWhite_lowercase_eq_iff {text : String} :
    trimWhite (lowercase text) = lowercase text ↔ trimWhite text = text := by
  constructor
  · intro bare
    obtain ⟨front, back, whole, lowered, same⟩ := exists_lower_trimBoth text.toList
    have core := congrArg String.toList bare
    rw [trimWhite, lowercase, String.toList_ofList, String.toList_ofList, same] at core
    have lengths := congrArg List.length (core.trans lowered)
    simp only [List.length_append] at lengths
    have frontless : front = [] := List.eq_nil_of_length_eq_zero (by omega)
    have backless : back = [] := List.eq_nil_of_length_eq_zero (by omega)
    rw [frontless, backless, List.nil_append, List.append_nil] at whole
    rw [trimWhite, ← whole, String.ofList_toList]
  · intro bare
    rw [trimWhite_lowercase, bare]

end Phrasebook.Text
