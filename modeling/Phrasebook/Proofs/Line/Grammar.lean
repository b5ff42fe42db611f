import Mathlib.Data.Set.Subsingleton
import Phrasebook.Line
import Phrasebook.Proofs.Text.Trimming

/-! # The grammar of lines

What a line has to look like to name something, said without regard to how lines are read. The
reader finds a split of the text behind a command exactly when the text has one, and a text has at
most one; from there a whole line is classified.
-/

namespace Phrasebook

open Text

/-! ## Names -/

/-- A name that can be written in quotes. -/
structure IsQuotable (name : List Char) : Prop where
  filled : name ≠ []
  noQuote : '"' ∉ name

/-- A name that can be written without quotes. -/
structure IsBare (name : List Char) : Prop extends IsQuotable name where
  noBracket : '<' ∉ name
  trimmed : Trimmed isSpace name

/-- What may stand behind a bare name: nothing, or a placeholder with space before it. -/
def EndsBareName (tail : List Char) : Prop :=
  tail = [] ∨ ∃ gap after, (∀ c ∈ gap, isSpace c = true) ∧ tail = gap ++ '<' :: after

theorem endsName_eq_false {c : Char} : endsName c = false ↔ c ≠ '<' ∧ c ≠ '"' := by
  simp [endsName]

theorem endsName_of_isSpace {c : Char} (space : isSpace c = true) : endsName c = false := by
  rw [endsName_eq_false]
  constructor
  · rintro rfl
    exact absurd space (by decide)
  · rintro rfl
    exact absurd space (by decide)

theorem not_endsName_mem {name : List Char} :
    (∀ c ∈ name, (!endsName c) = true) ↔ '"' ∉ name ∧ '<' ∉ name := by
  constructor
  · intro plain
    exact ⟨fun member => absurd (plain _ member) (by decide),
      fun member => absurd (plain _ member) (by decide)⟩
  · rintro ⟨noQuote, noBracket⟩ c member
    rw [Bool.not_eq_true', endsName_eq_false]
    exact ⟨fun same => noBracket (same ▸ member), fun same => noQuote (same ▸ member)⟩

/-- A bare name starts with a character that is neither space nor the mark of another form. -/
theorem IsBare.exists_cons {name : List Char} (bare : IsBare name) :
    ∃ c rest, name = c :: rest ∧ isSpace c = false ∧ c ≠ '"' := by
  cases name with
  | nil => exact absurd rfl bare.filled
  | cons c rest =>
      refine ⟨c, rest, rfl, startsOutside_cons.mp bare.trimmed.starts, ?_⟩
      rintro rfl
      exact bare.noQuote List.mem_cons_self

/-! ## Splits -/

/-- The splits that a text behind a command can have. Space behind a bare name is padding at the
    end of the text and part of the tail before a placeholder. -/
inductive Split.Valid : Split → Prop where
  | quoted {lead name tail : List Char} :
      (∀ c ∈ lead, isSpace c = true) → IsQuotable name → Valid ⟨lead, name, true, [], tail⟩
  | bareLast {lead name padding : List Char} :
      (∀ c ∈ lead, isSpace c = true) → IsBare name → (∀ c ∈ padding, isSpace c = true) →
      Valid ⟨lead, name, false, padding, []⟩
  | bareBefore {lead name gap after : List Char} :
      (∀ c ∈ lead, isSpace c = true) → IsBare name → (∀ c ∈ gap, isSpace c = true) →
      Valid ⟨lead, name, false, [], gap ++ '<' :: after⟩

/-! ## Names in quotes -/

theorem quotedName?_closed {lead name tail : List Char} (noQuote : '"' ∉ name) :
    quotedName? lead (name ++ '"' :: tail) =
      if name = [] then none else some ⟨lead, name, true, [], tail⟩ := by
  have inside : ∀ c ∈ name, (c != '"') = true := by
    intro c member
    simpa using fun same : c = '"' => noQuote (same ▸ member)
  have outside : StartsOutside (· != '"') ('"' :: tail) := by simp [startsOutside_cons]
  simp only [quotedName?, takeWhile_run inside outside, dropWhile_run inside outside]
  cases name with
  | nil => rfl
  | cons c rest => rfl

theorem quotedName?_open {lead inside : List Char} (noQuote : '"' ∉ inside) :
    quotedName? lead inside = none := by
  have dropped : inside.dropWhile (· != '"') = [] := by
    rw [List.dropWhile_eq_nil_iff]
    intro c member
    simpa using fun same : c = '"' => noQuote (same ▸ member)
  simp only [quotedName?, dropped]
  split
  · next closed => cases closed
  · rfl

theorem quotedName?_sound {lead inside : List Char} {split : Split}
    (blank : ∀ c ∈ lead, isSpace c = true) (found : quotedName? lead inside = some split) :
    split.Valid ∧ split.whole = lead ++ '"' :: inside := by
  by_cases closes : '"' ∈ inside
  · obtain ⟨name, tail, rfl, noQuote⟩ := List.eq_append_cons_of_mem closes
    rw [quotedName?_closed noQuote] at found
    split at found
    · cases found
    · next filled =>
      obtain rfl := Option.some.inj found
      exact ⟨.quoted blank ⟨filled, noQuote⟩, by simp [Split.whole, Split.token]⟩
  · rw [quotedName?_open closes] at found
    cases found

/-! ## Bare names -/

/-- A run that ends at a mark or with its text is a bare name and the space behind it. -/
theorem exists_isBare {run : List Char} (filled : run ≠ []) (starts : StartsOutside isSpace run)
    (plain : '"' ∉ run ∧ '<' ∉ run) :
    ∃ name gap, run = name ++ gap ∧ IsBare name ∧ ∀ c ∈ gap, isSpace c = true := by
  have parted := trimEnd_append_endRun isSpace run
  have part {c : Char} (member : c ∈ trimEnd isSpace run) : c ∈ run := by
    rw [← parted]
    exact List.mem_append_left _ member
  refine ⟨trimEnd isSpace run, endRun isSpace run, parted.symm, ?_, fun _ => inside_endRun⟩
  refine ⟨⟨?_, fun member => plain.1 (part member)⟩, fun member => plain.2 (part member),
    startsOutside_trimEnd starts, endsOutside_trimEnd isSpace run⟩
  -- The first character of the run is no space, so trimming the end cannot take all of it.
  intro emptied
  obtain ⟨c, rest, rfl⟩ := List.exists_cons_of_ne_nil filled
  have first : c ∈ endRun isSpace (c :: rest) := by
    rw [emptied, List.nil_append] at parted
    rw [parted]
    exact List.mem_cons_self
  exact absurd (inside_endRun first) (by simp [startsOutside_cons.mp starts])

theorem not_endsName_append {name gap : List Char} (bare : IsBare name)
    (space : ∀ c ∈ gap, isSpace c = true) : ∀ c ∈ name ++ gap, (!endsName c) = true := by
  intro c member
  rcases List.mem_append.mp member with member | member
  · exact not_endsName_mem.mpr ⟨bare.noQuote, bare.noBracket⟩ c member
  · rw [endsName_of_isSpace (space c member)]
    rfl

theorem bareName?_run {lead run after : List Char} :
    (∀ c ∈ run, (!endsName c) = true) → StartsOutside (fun c => !endsName c) after →
    bareName? lead (run ++ after) =
      match run, after with
      | [], _ => none
      | _, [] => some ⟨lead, trimEnd isSpace run, false, endRun isSpace run, []⟩
      | _, '<' :: _ => some ⟨lead, trimEnd isSpace run, false, [], endRun isSpace run ++ after⟩
      | _, _ => none := by
  intro inside outside
  unfold bareName?
  rewrite [takeWhile_run inside outside, dropWhile_run inside outside]
  rfl

theorem bareName?_last {lead name padding : List Char} (bare : IsBare name)
    (space : ∀ c ∈ padding, isSpace c = true) :
    bareName? lead (name ++ padding) = some ⟨lead, name, false, padding, []⟩ := by
  have outside : StartsOutside (fun c => !endsName c) [] := by simp [StartsOutside]
  have found : bareName? lead (name ++ padding ++ []) = _ :=
    bareName?_run (not_endsName_append bare space) outside
  rw [List.append_nil, trimEnd_run bare.trimmed.ends space,
    endRun_run bare.trimmed.ends space] at found
  obtain ⟨c, rest, rfl, -, -⟩ := bare.exists_cons
  exact found

theorem bareName?_before {lead name gap after : List Char} (bare : IsBare name)
    (space : ∀ c ∈ gap, isSpace c = true) :
    bareName? lead (name ++ gap ++ '<' :: after) =
      some ⟨lead, name, false, [], gap ++ '<' :: after⟩ := by
  have outside : StartsOutside (fun c => !endsName c) ('<' :: after) := by
    simp [startsOutside_cons, endsName]
  rw [bareName?_run (not_endsName_append bare space) outside, trimEnd_run bare.trimmed.ends space,
    endRun_run bare.trimmed.ends space]
  obtain ⟨c, rest, rfl, -, -⟩ := bare.exists_cons
  rfl

theorem bareName?_sound {lead text : List Char} {split : Split}
    (blank : ∀ c ∈ lead, isSpace c = true) (starts : StartsOutside isSpace text)
    (found : bareName? lead text = some split) :
    split.Valid ∧ split.whole = lead ++ text := by
  obtain ⟨run, after, rfl, inside, outside⟩ := exists_run (fun c => !endsName c) text
  cases run with
  | nil =>
      rw [bareName?_run inside outside] at found
      cases found
  | cons first others =>
      have filled : first :: others ≠ [] := List.cons_ne_nil _ _
      have startsRun : StartsOutside isSpace (first :: others) :=
        startsOutside_cons.mpr (startsOutside_cons.mp starts)
      obtain ⟨name, gap, same, bare, space⟩ :=
        exists_isBare filled startsRun (not_endsName_mem.mp inside)
      rw [same] at found ⊢
      cases after with
      | nil =>
          rw [List.append_nil, bareName?_last bare space] at found
          obtain rfl := Option.some.inj found
          exact ⟨.bareLast blank bare space, by simp [Split.whole, Split.token]⟩
      | cons mark after =>
          have marked : mark = '<' ∨ mark = '"' := by
            simpa [endsName, or_iff_not_imp_left] using startsOutside_cons.mp outside
          rcases marked with rfl | rfl
          · rw [bareName?_before bare space] at found
            obtain rfl := Option.some.inj found
            exact ⟨.bareBefore blank bare space, by simp [Split.whole, Split.token]⟩
          · rw [bareName?_run (not_endsName_append bare space) outside] at found
            obtain ⟨c, rest, rfl, -, -⟩ := bare.exists_cons
            cases found

/-! ## Texts behind a command -/

theorem splitName?_run {lead text : List Char} :
    (∀ c ∈ lead, isSpace c = true) → StartsOutside isSpace text →
    splitName? (lead ++ text) =
      match text with
      | [] => none
      | '"' :: inside => quotedName? lead inside
      | start => bareName? lead start := by
  intro blank starts
  unfold splitName?
  rewrite [takeWhile_run blank starts, dropWhile_run blank starts]
  rfl

theorem splitName?_sound {text : List Char} {split : Split} (found : splitName? text = some split) :
    split.Valid ∧ split.whole = text := by
  obtain ⟨lead, text, rfl, blank, starts⟩ := exists_run isSpace text
  rw [splitName?_run blank starts] at found
  split at found
  · cases found
  · exact quotedName?_sound blank found
  · exact bareName?_sound blank starts found

theorem splitName?_bare {lead name rest : List Char} (blank : ∀ c ∈ lead, isSpace c = true)
    (bare : IsBare name) : splitName? (lead ++ (name ++ rest)) = bareName? lead (name ++ rest) := by
  obtain ⟨c, others, rfl, solid, noQuote⟩ := bare.exists_cons
  rw [List.cons_append, splitName?_run blank (startsOutside_cons.mpr solid)]
  split
  · next empty => cases empty
  · next quote => exact absurd (List.cons.inj quote).1 noQuote
  · rfl

theorem splitName?_complete {split : Split} (valid : split.Valid) :
    splitName? split.whole = some split := by
  cases valid with
  | @quoted lead name tail blank quotable =>
      have starts : StartsOutside isSpace ('"' :: (name ++ '"' :: tail)) :=
        startsOutside_cons.mpr (by decide)
      simp only [Split.whole, Split.token, if_true, List.append_assoc, List.cons_append,
        List.nil_append]
      rw [splitName?_run blank starts]
      simp only [quotedName?_closed quotable.noQuote, quotable.filled, if_false]
  | @bareLast lead name padding blank bare space =>
      simp only [Split.whole, Split.token, Bool.false_eq_true, if_false, List.append_nil]
      rw [splitName?_bare blank bare, bareName?_last bare space]
  | @bareBefore lead name gap after blank bare space =>
      simp only [Split.whole, Split.token, Bool.false_eq_true, if_false, List.append_nil,
        List.append_assoc]
      rw [splitName?_bare blank bare, ← List.append_assoc, bareName?_before bare space]

/-- A split is found exactly when it is one of the text. -/
theorem splitName?_eq_some_iff {text : List Char} {split : Split} :
    splitName? text = some split ↔ split.Valid ∧ split.whole = text := by
  constructor
  · exact splitName?_sound
  · rintro ⟨valid, rfl⟩
    exact splitName?_complete valid

/-! ## Commands -/

/-- A slash and at least one more character, none of them space. -/
def IsCommand (command : List Char) : Prop :=
  ∃ word, command = '/' :: word ∧ word ≠ [] ∧ ∀ c ∈ word, isSpace c = false

/-- The command is the first word of the text. -/
def OpensWith (command text : List Char) : Prop :=
  IsCommand command ∧ ∃ rest, text = command ++ rest ∧ ∀ c ∈ rest.head?, isSpace c = true

theorem isPassThrough_iff {command : String} :
    isPassThrough command = true ↔ lowercase command ∈ passThroughCommands := by
  simp [isPassThrough]

theorem exists_opensWith {text : List Char} :
    (∃ command, OpensWith command text) ↔
      ∃ c rest, text = '/' :: c :: rest ∧ isSpace c = false := by
  constructor
  · rintro ⟨_, ⟨word, rfl, filled, solid⟩, rest, rfl, -⟩
    obtain ⟨c, others, rfl⟩ := List.exists_cons_of_ne_nil filled
    exact ⟨c, others ++ rest, rfl, solid c List.mem_cons_self⟩
  · rintro ⟨c, rest, rfl, solid⟩
    obtain ⟨word, after, rfl, inside, outside⟩ := exists_run (fun c => !isSpace c) rest
    refine ⟨'/' :: c :: word, ⟨c :: word, rfl, List.cons_ne_nil _ _, ?_⟩, after, rfl, ?_⟩
    · intro x member
      rcases List.mem_cons.mp member with rfl | member
      · exact solid
      · simpa using inside x member
    · intro x first
      simpa using outside x first

namespace Line

theorem readTrimmed_of_opensWith {command rest : List Char} (isCommand : IsCommand command)
    (space : ∀ c ∈ rest.head?, isSpace c = true) :
    readTrimmed (command ++ rest) =
      if isPassThrough (String.ofList command) then .passThrough
      else match splitName? rest with
        | some split => .named ⟨command, split⟩
        | none => .noName := by
  obtain ⟨word, rfl, filled, solid⟩ := isCommand
  have inside : ∀ c ∈ word, (!isSpace c) = true := fun c member => by simp [solid c member]
  have outside : StartsOutside (fun c => !isSpace c) rest := fun c first => by
    simp [space c first]
  obtain ⟨c, others, rfl⟩ := List.exists_cons_of_ne_nil filled
  rw [List.cons_append]
  simp only [readTrimmed]
  rewrite [takeWhile_run inside outside, dropWhile_run inside outside]
  rfl

theorem readTrimmed_eq_notCommand_iff {text : List Char} :
    readTrimmed text = .notCommand ↔ ¬ ∃ command, OpensWith command text := by
  constructor
  · rintro plain ⟨command, isCommand, rest, rfl, space⟩
    rw [readTrimmed_of_opensWith isCommand space] at plain
    split at plain
    · cases plain
    · split at plain <;> cases plain
  · intro none
    rw [exists_opensWith] at none
    unfold readTrimmed
    split
    · next rest =>
      cases rest with
      | nil => rfl
      | cons c rest =>
          have space : isSpace c = true := by
            by_contra solid
            exact none ⟨c, rest, rfl, by simpa using solid⟩
          simp [space]
    · rfl

theorem readTrimmed_eq_passThrough_iff {text : List Char} :
    readTrimmed text = .passThrough ↔
      ∃ command, OpensWith command text ∧
        lowercase (String.ofList command) ∈ passThroughCommands := by
  constructor
  · intro passed
    by_cases opens : ∃ command, OpensWith command text
    · obtain ⟨command, isCommand, rest, rfl, space⟩ := opens
      rw [readTrimmed_of_opensWith isCommand space] at passed
      split at passed
      · next known => exact ⟨command, ⟨isCommand, rest, rfl, space⟩, isPassThrough_iff.mp known⟩
      · split at passed <;> cases passed
    · rw [readTrimmed_eq_notCommand_iff.mpr opens] at passed
      cases passed
  · rintro ⟨command, ⟨isCommand, rest, rfl, space⟩, known⟩
    rw [readTrimmed_of_opensWith isCommand space, if_pos (isPassThrough_iff.mpr known)]

end Line

/-! ## Lines that name something -/

/-- The parts of a line that names something: a command, a gap, the name and a tail. -/
structure Reading where
  command : List Char
  gap : List Char
  name : List Char
  isQuoted : Bool
  tail : List Char

namespace Reading

/-- The split of the text behind the command. -/
def split (reading : Reading) : Split :=
  ⟨reading.gap, reading.name, reading.isQuoted, [], reading.tail⟩

/-- The name as it is written. -/
def token (reading : Reading) : List Char :=
  if reading.isQuoted then '"' :: reading.name ++ ['"'] else reading.name

def text (reading : Reading) : List Char :=
  reading.command ++ reading.gap ++ reading.token ++ reading.tail

/-- The grammar of the texts that name something. -/
structure IsOf (reading : Reading) (text : List Char) : Prop where
  command : IsCommand reading.command
  takesName : lowercase (String.ofList reading.command) ∉ passThroughCommands
  gapFilled : reading.gap ≠ []
  gapSpace : ∀ c ∈ reading.gap, isSpace c = true
  name : if reading.isQuoted then IsQuotable reading.name
    else IsBare reading.name ∧ EndsBareName reading.tail
  whole : reading.text = text

theorem IsOf.valid {reading : Reading} {text : List Char} (reads : reading.IsOf text) :
    reading.split.Valid := by
  obtain ⟨command, gap, name, isQuoted, tail⟩ := reading
  have blank := reads.gapSpace
  cases isQuoted with
  | true => exact .quoted blank reads.name
  | false =>
      obtain ⟨bare, rfl | ⟨space, after, inside, rfl⟩⟩ := reads.name
      · exact .bareLast blank bare (by simp)
      · exact .bareBefore blank bare inside

theorem whole_split (reading : Reading) :
    reading.command ++ reading.split.whole = reading.text := by
  simp [split, Split.whole, Split.token, text, token]

end Reading

theorem Line.readTrimmed_of_reading {reading : Reading} {text : List Char}
    (reads : reading.IsOf text) :
    readTrimmed text = .named ⟨reading.command, reading.split⟩ := by
  have space : ∀ c ∈ reading.split.whole.head?, isSpace c = true := by
    obtain ⟨c, others, same⟩ := List.exists_cons_of_ne_nil reads.gapFilled
    have first : reading.split.whole.head? = some c := by
      simp [Reading.split, Split.whole, same]
    rw [first]
    rintro _ ⟨⟩
    exact reads.gapSpace c (same ▸ List.mem_cons_self)
  have named : ¬ isPassThrough (String.ofList reading.command) = true := fun known =>
    reads.takesName (isPassThrough_iff.mp known)
  rw [← reads.whole, ← reading.whole_split, readTrimmed_of_opensWith reads.command space,
    if_neg named, splitName?_complete reads.valid]

/-- A text names something in one way at most. -/
theorem Reading.IsOf.unique {one other : Reading} {text : List Char} (reads : one.IsOf text)
    (readsToo : other.IsOf text) : one = other := by
  have same := (Line.readTrimmed_of_reading reads).symm.trans (Line.readTrimmed_of_reading readsToo)
  obtain ⟨command, gap, name, isQuoted, tail⟩ := one
  obtain ⟨command', gap', name', isQuoted', tail'⟩ := other
  simpa [split] using same

/-- The command ends where the split begins, so some space has to lead. -/
theorem Split.Valid.lead_ne_nil {split : Split} (valid : split.Valid)
    (space : ∀ c ∈ split.whole.head?, isSpace c = true) : split.lead ≠ [] := by
  intro unled
  cases valid with
  | quoted _ _ =>
      cases unled
      exact absurd (space '"' (by simp [Split.whole, Split.token])) (by decide)
  | bareLast _ bare _ | bareBefore _ bare _ =>
      cases unled
      obtain ⟨c, rest, rfl, solid, -⟩ := bare.exists_cons
      rw [space c (by simp [Split.whole, Split.token])] at solid
      cases solid

/-- Padding stands at the end of a text, and a trimmed text has none there. -/
theorem Split.padding_eq_nil {split : Split} {before : List Char} (valid : split.Valid)
    (ends : EndsOutside isSpace (before ++ split.whole)) : split.padding = [] := by
  cases valid with
  | quoted _ _ => rfl
  | bareBefore _ _ _ => rfl
  | @bareLast lead name padding _ _ space =>
      by_contra padded
      have regrouped : before ++ Split.whole ⟨lead, name, false, padding, []⟩ =
          (before ++ lead ++ name) ++ padding := by simp [Split.whole, Split.token]
      rw [regrouped, endsOutside_append padded] at ends
      exact padded (eq_nil_of_endsOutside space ends)

theorem Line.exists_reading {text : List Char} {named : NamedCommand}
    (ends : EndsOutside isSpace text) (read : readTrimmed text = .named named) :
    ∃ reading : Reading, reading.IsOf text ∧ named = ⟨reading.command, reading.split⟩ := by
  by_cases opens : ∃ command, OpensWith command text
  · obtain ⟨command, isCommand, rest, rfl, space⟩ := opens
    rw [readTrimmed_of_opensWith isCommand space] at read
    split at read
    · cases read
    · next takesName =>
      split at read
      · next split found =>
        obtain rfl := Line.named.inj read
        obtain ⟨valid, rfl⟩ := splitName?_sound found
        have unpadded := Split.padding_eq_nil valid ends
        have led := valid.lead_ne_nil space
        obtain ⟨lead, name, isQuoted, padding, tail⟩ := split
        cases unpadded
        refine ⟨⟨command, lead, name, isQuoted, tail⟩, ⟨isCommand, ?_, led, ?_, ?_, ?_⟩, rfl⟩
        · rwa [← isPassThrough_iff]
        · cases valid <;> assumption
        · cases valid with
          | quoted _ quotable => exact quotable
          | bareLast _ bare _ => exact ⟨bare, .inl rfl⟩
          | bareBefore _ bare inside => exact ⟨bare, .inr ⟨_, _, inside, rfl⟩⟩
        · exact (Reading.whole_split _).symm
      · cases read
  · rw [readTrimmed_eq_notCommand_iff.mpr opens] at read
    cases read

theorem Line.read_eq_named_iff {line : List Char} {named : NamedCommand} :
    read line = .named named ↔
      ∃ reading : Reading, reading.IsOf (trimBoth isSpace line) ∧
        named = ⟨reading.command, reading.split⟩ := by
  constructor
  · exact exists_reading (trimmed_trimBoth isSpace line).ends
  · rintro ⟨reading, reads, rfl⟩
    exact readTrimmed_of_reading reads

theorem Line.read_eq_noName_iff {line : List Char} :
    read line = .noName ↔
      (¬ ∃ reading : Reading, reading.IsOf (trimBoth isSpace line)) ∧
      read line ≠ .passThrough ∧ read line ≠ .notCommand := by
  constructor
  · intro unnamed
    have unread : ¬ ∃ reading : Reading, reading.IsOf (trimBoth isSpace line) := by
      rintro ⟨reading, reads⟩
      rw [read_eq_named_iff.mpr ⟨reading, reads, rfl⟩] at unnamed
      cases unnamed
    rw [unnamed]
    exact ⟨unread, Line.noConfusion, Line.noConfusion⟩
  · rintro ⟨unread, notPassed, notPlain⟩
    cases outcome : read line with
    | notCommand => exact absurd outcome notPlain
    | passThrough => exact absurd outcome notPassed
    | noName => rfl
    | named named =>
        obtain ⟨reading, reads, -⟩ := read_eq_named_iff.mp outcome
        exact absurd ⟨reading, reads⟩ unread

/-- Reading a line classifies the text between the space at its ends by the grammar. The parts of a
    named command are those of the grammar, which gives a text one reading at most; lines without a
    reading are told apart by their first word. -/
theorem Line.read_classifies (line : List Char) :
    (∀ command name isQuoted tail,
      (∃ split, read line = .named ⟨command, split⟩ ∧
        split.name = name ∧ split.isQuoted = isQuoted ∧ split.tail = tail) ↔
      ∃ gap, Reading.IsOf ⟨command, gap, name, isQuoted, tail⟩ (trimBoth isSpace line)) ∧
    {reading : Reading | reading.IsOf (trimBoth isSpace line)}.Subsingleton ∧
    (read line = .passThrough ↔
      ∃ command, OpensWith command (trimBoth isSpace line) ∧
        lowercase (String.ofList command) ∈ passThroughCommands) ∧
    (read line = .notCommand ↔
      ¬ ∃ c rest, trimBoth isSpace line = '/' :: c :: rest ∧ isSpace c = false) ∧
    (read line = .noName ↔
      (¬ ∃ reading : Reading, reading.IsOf (trimBoth isSpace line)) ∧
      (¬ ∃ command, OpensWith command (trimBoth isSpace line) ∧
        lowercase (String.ofList command) ∈ passThroughCommands) ∧
      ∃ c rest, trimBoth isSpace line = '/' :: c :: rest ∧ isSpace c = false) := by
  have passes : read line = .passThrough ↔ _ := readTrimmed_eq_passThrough_iff
  have plain : read line = .notCommand ↔ _ := readTrimmed_eq_notCommand_iff
  rw [exists_opensWith] at plain
  have started := not_iff_comm.mp plain.symm
  refine ⟨?named, ?unique, passes, plain, ?noName⟩
  case named =>
    intro command name isQuoted tail
    constructor
    · rintro ⟨split, named, rfl, rfl, rfl⟩
      obtain ⟨reading, reads, same⟩ := read_eq_named_iff.mp named
      obtain ⟨rfl, rfl⟩ := NamedCommand.mk.inj same
      exact ⟨reading.gap, reads⟩
    · rintro ⟨gap, reads⟩
      exact ⟨_, read_eq_named_iff.mpr ⟨_, reads, rfl⟩, rfl, rfl, rfl⟩
  case unique =>
    intro one reads other readsToo
    exact reads.unique readsToo
  case noName =>
    rw [← passes, ← started]
    exact read_eq_noName_iff

end Phrasebook
