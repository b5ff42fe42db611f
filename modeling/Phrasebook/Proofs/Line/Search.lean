import Phrasebook.Line.Span
import Phrasebook.Proofs.Line.Grammar
import Phrasebook.Proofs.Text.Place

/-! # Where the search for a name ends

Every text behind a command is put together as a valid split or in one of four ways without a name.
For each of them the search is followed to its end: it finds the span of the split, or ends for the
reason of that way. So no text is cut where it cannot be, and no bare name comes out empty.
-/

namespace Phrasebook

open Text

/-! ## Matches of quoted names -/

/-- The matches of the pattern `^"([^"]+)"`: at the start of a text a quote, at least one character
    that is not a quote, which are group 1, and another quote. -/
inductive Captures.IsMatch : Captures → List Char → Prop where
  | quoted {captures : Captures} {name tail : List Char} :
      IsQuotable name →
      captures.group? 0 = some ⟨0, byteSize ('"' :: name ++ ['"'])⟩ →
      captures.group? 1 = some ⟨1, 1 + byteSize name⟩ →
      IsMatch captures ('"' :: (name ++ '"' :: tail))

/-- What is relied on of a way to match the pattern: it finds a match where there is one, and what
    it finds is a match. -/
structure FindsQuoted (search : QuoteSearch) : Prop where
  sound {text : List Char} {captures : Captures} :
    search text = some captures → captures.IsMatch text
  complete {text : List Char} {captures : Captures} :
    captures.IsMatch text → (search text).isSome

theorem quotedName?_eq_some_iff {lead inside : List Char} {split : Split} :
    quotedName? lead inside = some split ↔
      ∃ name tail, IsQuotable name ∧ inside = name ++ '"' :: tail ∧
        split = ⟨lead, name, true, [], tail⟩ := by
  constructor
  · intro found
    by_cases closes : '"' ∈ inside
    · obtain ⟨name, tail, rfl, noQuote⟩ := List.eq_append_cons_of_mem closes
      rw [quotedName?_closed noQuote] at found
      split at found
      · cases found
      · next filled => exact ⟨name, tail, ⟨filled, noQuote⟩, rfl, (Option.some.inj found).symm⟩
    · rw [quotedName?_open closes] at found
      cases found
  · intro ⟨name, tail, quotable, whole, same⟩
    rw [whole, same, quotedName?_closed quotable.noQuote, if_neg quotable.filled]

/-- The first quote behind a quotable name closes it. -/
theorem IsQuotable.unique {name other tail rest : List Char} (quotable : IsQuotable name)
    (quotableToo : IsQuotable other) (same : name ++ '"' :: tail = other ++ '"' :: rest) :
    name = other := by
  have found : quotedName? [] (name ++ '"' :: tail) = some ⟨[], name, true, [], tail⟩ :=
    quotedName?_eq_some_iff.mpr ⟨name, tail, quotable, rfl, rfl⟩
  rw [same, quotedName?_eq_some_iff.mpr ⟨other, rest, quotableToo, rfl, rfl⟩] at found
  exact (congrArg Split.name (Option.some.inj found)).symm

theorem findsQuoted_openingQuote : FindsQuoted openingQuote where
  sound := by
    intro text captures found
    unfold openingQuote at found
    split at found
    · obtain ⟨split, closed, rfl⟩ := Option.map_eq_some_iff.mp found
      obtain ⟨name, tail, quotable, rfl, rfl⟩ := quotedName?_eq_some_iff.mp closed
      exact .quoted quotable rfl rfl
    · cases found
  complete := by
    intro text captures isMatch
    cases isMatch with
    | quoted quotable _ _ =>
        rw [openingQuote, quotedName?_closed quotable.noQuote, if_neg quotable.filled]
        rfl

namespace FindsQuoted

variable {search : QuoteSearch}

theorem exists_captures {name : List Char} (finds : FindsQuoted search)
    (quotable : IsQuotable name) (tail : List Char) :
    ∃ captures, search ('"' :: (name ++ '"' :: tail)) = some captures ∧
      captures.group? 0 = some ⟨0, byteSize ('"' :: name ++ ['"'])⟩ ∧
      captures.group? 1 = some ⟨1, 1 + byteSize name⟩ := by
  have isMatch : Captures.IsMatch ⟨[some _, some _]⟩ ('"' :: (name ++ '"' :: tail)) :=
    .quoted quotable rfl rfl
  obtain ⟨captures, found⟩ := Option.isSome_iff_exists.mp (finds.complete isMatch)
  refine ⟨captures, found, ?_⟩
  -- What is found may be a match around another name, but the first quote allows one name only.
  generalize same : '"' :: (name ++ '"' :: tail) = text at found
  cases finds.sound found with
  | quoted quotableToo whole inner =>
      rw [quotable.unique quotableToo (List.cons.inj same).2]
      exact ⟨whole, inner⟩

theorem eq_none {text : List Char} (finds : FindsQuoted search)
    (unmatched : ∀ name tail, IsQuotable name → text ≠ '"' :: (name ++ '"' :: tail)) :
    search text = none := by
  cases found : search text with
  | none => rfl
  | some captures =>
      cases finds.sound found with
      | quoted quotable _ _ => exact absurd rfl (unmatched _ _ quotable)

theorem eq_none_of_ne {c : Char} (finds : FindsQuoted search) (other : c ≠ '"')
    (rest : List Char) : search (c :: rest) = none := by
  apply finds.eq_none
  intro name tail _ same
  exact other (List.cons.inj same).1

end FindsQuoted

/-! ## The steps of the search -/

namespace NameSpan

variable {search : QuoteSearch} {lead run name : List Char}

theorem before_append (text after : List Char) :
    before (byteSize text) (text ++ after) = .ok text := by
  rw [before, cut?_append]
  rfl

theorem behind_append (text after : List Char) :
    behind (byteSize text) (text ++ after) = .ok after := by
  rw [behind, cut?_append]
  rfl

theorem ofCaptures_quoted {captures : Captures}
    (whole : captures.group? 0 = some ⟨0, byteSize ('"' :: name ++ ['"'])⟩)
    (inner : captures.group? 1 = some ⟨1, 1 + byteSize name⟩) (start : Nat) (tail : List Char) :
    ofCaptures start ('"' :: (name ++ '"' :: tail)) captures =
      .ok ⟨String.ofList name, start, start + byteSize ('"' :: name ++ ['"']), true⟩ := by
  have cut : slice? ⟨1, 1 + byteSize name⟩ ('"' :: (name ++ '"' :: tail)) = some name :=
    slice?_between ['"'] name ('"' :: tail)
  rw [ofCaptures, whole, inner]
  simp only [orEnd, cut, bind, Except.bind]
  rfl

theorem findBy_blank (search : QuoteSearch) (blank : ∀ c ∈ lead, isSpace c = true) :
    findBy search lead = .error .blank := by
  have nothing : place? (fun c => !isSpace c) lead = none :=
    place?_of_outside (by simpa using blank)
  rw [findBy, nothing]
  rfl

theorem findBy_lead (blank : ∀ c ∈ lead, isSpace c = true) {c : Char} (solid : isSpace c = false)
    (rest : List Char) :
    findBy search (lead ++ c :: rest) =
      ofStart (byteSize lead) (c :: rest) (search (c :: rest)) := by
  have start : place? (fun c => !isSpace c) (lead ++ c :: rest) = some (byteSize lead) :=
    place?_run (by simpa using blank) (by simpa using solid)
  have cut : behind (byteSize lead) (lead ++ c :: rest) = .ok (c :: rest) := behind_append _ _
  rw [findBy, start]
  show behind (byteSize lead) (lead ++ c :: rest) >>= _ = _
  rw [cut]
  rfl

theorem ofBare_mark {c : Char} (ends : endsName c = true) (start : Nat) (rest : List Char) :
    ofBare start (c :: rest) = .error .opensWithMark := by
  simp only [ofBare, place?, ends, if_true, Option.getD_some]

theorem ofBare_run (filled : run ≠ []) (plain : ∀ c ∈ run, (!endsName c) = true)
    {after : List Char} (stops : StartsOutside (fun c => !endsName c) after) (start : Nat) :
    ofBare start (run ++ after) =
      bareToken (byteSize run) (run ++ after) >>= ofToken start := by
  have outside : ∀ c ∈ run, endsName c = false := by simpa using plain
  have stop : (place? endsName (run ++ after)).getD (byteSize (run ++ after)) = byteSize run := by
    cases after with
    | nil => rw [List.append_nil, place?_of_outside outside, Option.getD_none]
    | cons c after =>
        have ends : endsName c = true := by simpa using startsOutside_cons.mp stops
        rw [place?_run outside ends, Option.getD_some]
  rw [ofBare, stop, if_neg (byteSize_eq_zero_iff.not.mpr filled)]

theorem bareToken_all (run : List Char) : bareToken (byteSize run) run = .ok run := by
  have cut := before_append run []
  rw [List.append_nil] at cut
  rw [bareToken, cut]
  exact if_pos rfl

theorem byteSize_ne_append (run : List Char) (c : Char) (after : List Char) :
    byteSize run ≠ byteSize (run ++ c :: after) := by
  have positive := c.utf8Size_pos
  rw [byteSize_append, byteSize_cons]
  omega

theorem bareToken_before (run after : List Char) :
    bareToken (byteSize run) (run ++ '<' :: after) = .ok (trimEnd isSpace run) := by
  rw [bareToken, before_append, behind_append]
  exact if_neg (byteSize_ne_append run '<' after)

theorem bareToken_stray (run after : List Char) :
    bareToken (byteSize run) (run ++ '"' :: after) = .error .strayQuote := by
  rw [bareToken, before_append, behind_append]
  exact if_neg (byteSize_ne_append run '"' after)

theorem ofToken_bare {padding : List Char} (bare : IsBare name)
    (space : ∀ c ∈ padding, isSpace c = true) (start : Nat) :
    ofToken start (name ++ padding) =
      .ok ⟨String.ofList name, start, start + byteSize (name ++ padding), false⟩ := by
  have trimmed : trimBoth isSpace ([] ++ name ++ padding) = name :=
    trimBoth_between (by simp) bare.trimmed space
  rw [List.nil_append] at trimmed
  simp only [ofToken, trimmed, List.isEmpty_iff, bare.filled, if_false]

theorem ofBare_last {padding : List Char} (bare : IsBare name)
    (space : ∀ c ∈ padding, isSpace c = true) (start : Nat) :
    ofBare start (name ++ padding) =
      .ok ⟨String.ofList name, start, start + byteSize (name ++ padding), false⟩ := by
  have filled : name ++ padding ≠ [] := by simp [bare.filled]
  have stops : StartsOutside (fun c => !endsName c) [] := by simp [StartsOutside]
  have cut := ofBare_run filled (not_endsName_append bare space) stops start
  rw [List.append_nil, bareToken_all] at cut
  rw [cut]
  exact ofToken_bare bare space start

theorem ofBare_before {gap : List Char} (bare : IsBare name)
    (space : ∀ c ∈ gap, isSpace c = true) (start : Nat) (after : List Char) :
    ofBare start (name ++ gap ++ '<' :: after) =
      .ok ⟨String.ofList name, start, start + byteSize name, false⟩ := by
  have filled : name ++ gap ≠ [] := by simp [bare.filled]
  have stops : StartsOutside (fun c => !endsName c) ('<' :: after) :=
    startsOutside_cons.mpr (by decide)
  rw [ofBare_run filled (not_endsName_append bare space) stops, bareToken_before,
    trimEnd_run bare.trimmed.ends space]
  have token : ofToken start (name ++ []) = _ := ofToken_bare bare (by simp) start
  rw [List.append_nil] at token
  exact token

theorem ofBare_stray (filled : run ≠ []) (plain : '"' ∉ run ∧ '<' ∉ run) (start : Nat)
    (after : List Char) : ofBare start (run ++ '"' :: after) = .error .strayQuote := by
  have stops : StartsOutside (fun c => !endsName c) ('"' :: after) :=
    startsOutside_cons.mpr (by decide)
  rw [ofBare_run filled (not_endsName_mem.mpr plain) stops, bareToken_stray]
  rfl

/-! ## Texts that name something -/

theorem findBy_bare (finds : FindsQuoted search) (blank : ∀ c ∈ lead, isSpace c = true)
    (bare : IsBare name) (rest : List Char) :
    findBy search (lead ++ (name ++ rest)) = ofBare (byteSize lead) (name ++ rest) := by
  obtain ⟨c, others, rfl, solid, noQuote⟩ := bare.exists_cons
  rw [List.cons_append, findBy_lead blank solid, finds.eq_none_of_ne noQuote]
  rfl

theorem findBy_whole {split : Split} (finds : FindsQuoted search) (valid : split.Valid) :
    findBy search split.whole = .ok split.span := by
  cases valid with
  | @quoted lead name tail blank quotable =>
      obtain ⟨captures, found, whole, inner⟩ := finds.exists_captures quotable tail
      have text : Split.whole ⟨lead, name, true, [], tail⟩ =
          lead ++ '"' :: (name ++ '"' :: tail) := by simp [Split.whole, Split.token]
      rw [text, findBy_lead blank (by decide), found]
      exact ofCaptures_quoted whole inner (byteSize lead) tail
  | @bareLast lead name padding blank bare space =>
      have text : Split.whole ⟨lead, name, false, padding, []⟩ = lead ++ (name ++ padding) := by
        simp [Split.whole, Split.token]
      rw [text, findBy_bare finds blank bare]
      exact ofBare_last bare space (byteSize lead)
  | @bareBefore lead name gap after blank bare space =>
      have text : Split.whole ⟨lead, name, false, [], gap ++ '<' :: after⟩ =
          lead ++ (name ++ (gap ++ '<' :: after)) := by simp [Split.whole, Split.token]
      rw [text, findBy_bare finds blank bare, ← List.append_assoc,
        ofBare_before bare space (byteSize lead) after]
      simp [Split.span, Split.token, byteSize]

end NameSpan

/-! ## Texts that name nothing -/

/-- The texts behind a command that name nothing, and why: there is only space, or the first
    character that is no space opens a placeholder, or it is a quote that no quotable name and
    closing quote follow, or it starts a bare run up to a stray quote. -/
inductive Nameless : Unnamed → List Char → Prop where
  | blank {text : List Char} : (∀ c ∈ text, isSpace c = true) → Nameless .blank text
  | placeholder {lead after : List Char} :
      (∀ c ∈ lead, isSpace c = true) → Nameless .opensWithMark (lead ++ '<' :: after)
  | unclosed {lead after : List Char} :
      (∀ c ∈ lead, isSpace c = true) →
      (∀ name tail, IsQuotable name → after ≠ name ++ '"' :: tail) →
      Nameless .opensWithMark (lead ++ '"' :: after)
  | strayQuote {lead run after : List Char} :
      (∀ c ∈ lead, isSpace c = true) → run ≠ [] → StartsOutside isSpace run →
      '"' ∉ run ∧ '<' ∉ run → Nameless .strayQuote (lead ++ (run ++ '"' :: after))

theorem NameSpan.findBy_nameless {search : QuoteSearch} {cause : Unnamed} {text : List Char}
    (finds : FindsQuoted search) (nameless : Nameless cause text) :
    findBy search text = .error cause := by
  cases nameless with
  | blank blank => exact findBy_blank search blank
  | @placeholder lead after blank =>
      rw [findBy_lead blank (by decide), finds.eq_none_of_ne (by decide)]
      exact ofBare_mark (c := '<') rfl (byteSize lead) after
  | @unclosed lead after blank unclosed =>
      have unmatched : search ('"' :: after) = none := by
        apply finds.eq_none
        intro name tail quotable same
        exact unclosed name tail quotable (List.cons.inj same).2
      rw [findBy_lead blank (by decide), unmatched]
      exact ofBare_mark (c := '"') rfl (byteSize lead) after
  | @strayQuote lead run after blank filled starts plain =>
      obtain ⟨name, gap, rfl, bare, space⟩ := exists_isBare filled starts plain
      rw [List.append_assoc, findBy_bare finds blank bare, ← List.append_assoc]
      exact ofBare_stray filled plain _ after

/-! ## Every text -/

/-- What stops a run of a bare name is a placeholder or a quote. -/
theorem bracket_or_quote {mark : Char} {after : List Char}
    (stops : StartsOutside (fun c => !endsName c) (mark :: after)) : mark = '<' ∨ mark = '"' := by
  have ends : endsName mark = true := by simpa using startsOutside_cons.mp stops
  simpa [endsName] using ends

/-- The text behind a command is a split put together, or it names nothing. -/
def IsTold (text : List Char) : Prop :=
  (∃ split : Split, split.Valid ∧ split.whole = text) ∨ ∃ cause, Nameless cause text

theorem isTold_of_quote {lead : List Char} (blank : ∀ c ∈ lead, isSpace c = true)
    (after : List Char) : IsTold (lead ++ '"' :: after) := by
  by_cases closed : ∃ name tail, IsQuotable name ∧ after = name ++ '"' :: tail
  · obtain ⟨name, tail, quotable, rfl⟩ := closed
    refine .inl ⟨⟨lead, name, true, [], tail⟩, .quoted blank quotable, ?_⟩
    simp [Split.whole, Split.token]
  · refine .inr ⟨_, .unclosed blank ?_⟩
    intro name tail quotable same
    exact closed ⟨name, tail, quotable, same⟩

theorem isTold_of_run {lead run after : List Char} (blank : ∀ c ∈ lead, isSpace c = true)
    (filled : run ≠ []) (starts : StartsOutside isSpace run) (plain : '"' ∉ run ∧ '<' ∉ run)
    (stops : StartsOutside (fun c => !endsName c) after) : IsTold (lead ++ (run ++ after)) := by
  obtain ⟨name, gap, rfl, bare, space⟩ := exists_isBare filled starts plain
  cases after with
  | nil =>
      refine .inl ⟨⟨lead, name, false, gap, []⟩, .bareLast blank bare space, ?_⟩
      simp [Split.whole, Split.token]
  | cons mark after =>
      cases bracket_or_quote stops with
      | inl bracket =>
          subst bracket
          refine .inl ⟨⟨lead, name, false, [], gap ++ '<' :: after⟩,
            .bareBefore blank bare space, ?_⟩
          simp [Split.whole, Split.token]
      | inr quote =>
          subst quote
          exact .inr ⟨_, .strayQuote blank filled starts plain⟩

theorem isTold (text : List Char) : IsTold text := by
  obtain ⟨lead, rest, rfl, blank, starts⟩ := exists_run isSpace text
  -- A run up to the first mark is what a bare name needs; without one the text opens with the mark.
  obtain ⟨run, after, rfl, inside, stops⟩ := exists_run (fun c => !endsName c) rest
  cases run with
  | cons c run =>
      have startsRun : StartsOutside isSpace (c :: run) :=
        startsOutside_cons.mpr (startsOutside_cons.mp starts)
      exact isTold_of_run blank (List.cons_ne_nil _ _) startsRun (not_endsName_mem.mp inside) stops
  | nil =>
      cases after with
      | nil => exact .inr ⟨_, .blank (by simpa using blank)⟩
      | cons mark after =>
          cases bracket_or_quote stops with
          | inl bracket =>
              subst bracket
              exact .inr ⟨_, .placeholder blank⟩
          | inr quote =>
              subst quote
              exact isTold_of_quote blank after

namespace NameSpan

variable {search : QuoteSearch} {text : List Char}

theorem findBy_cases (finds : FindsQuoted search) (text : List Char) :
    (∃ split : Split, split.Valid ∧ split.whole = text ∧ findBy search text = .ok split.span) ∨
      ∃ cause, Nameless cause text ∧ findBy search text = .error cause := by
  cases isTold text with
  | inl named =>
      obtain ⟨split, valid, rfl⟩ := named
      exact .inl ⟨split, valid, rfl, findBy_whole finds valid⟩
  | inr unnamed =>
      obtain ⟨cause, nameless⟩ := unnamed
      exact .inr ⟨cause, nameless, findBy_nameless finds nameless⟩

theorem findBy_eq_error_iff (finds : FindsQuoted search) {cause : Unnamed} :
    findBy search text = .error cause ↔ Nameless cause text := by
  constructor
  · intro ended
    obtain ⟨split, -, -, found⟩ | ⟨other, nameless, same⟩ := findBy_cases finds text
    · rw [found] at ended
      cases ended
    · rw [same] at ended
      cases ended
      exact nameless
  · intro nameless
    exact findBy_nameless finds nameless

theorem findBy_eq_ok_iff (finds : FindsQuoted search) {span : NameSpan} :
    findBy search text = .ok span ↔ ∃ split, splitName? text = some split ∧ split.span = span := by
  simp only [splitName?_eq_some_iff, and_assoc]
  constructor
  · intro found
    obtain ⟨split, valid, whole, same⟩ | ⟨cause, -, ended⟩ := findBy_cases finds text
    · rw [same] at found
      exact ⟨split, valid, whole, Except.ok.inj found⟩
    · rw [ended] at found
      cases found
  · rintro ⟨split, valid, rfl, rfl⟩
    exact findBy_whole finds valid

theorem toOption_findBy (finds : FindsQuoted search) :
    (findBy search text).toOption = (splitName? text).map Split.span := by
  cases ended : findBy search text with
  | ok span =>
      obtain ⟨split, named, rfl⟩ := (findBy_eq_ok_iff finds).mp ended
      rw [named]
      rfl
  | error cause =>
      cases named : splitName? text with
      | none => rfl
      | some split =>
          rw [(findBy_eq_ok_iff finds).mpr ⟨split, named, rfl⟩] at ended
          cases ended

/-- The search by places and the split of a text tell the same about its name. -/
theorem find?_eq (text : List Char) : find? text = (splitName? text).map Split.span :=
  toOption_findBy findsQuoted_openingQuote

/-- Space in front of a placeholder is not part of what is written for a name. -/
example : find? "\u3000Piège \u2003<t>".toList = some ⟨"Piège", 3, 9, false⟩ := by decide

end NameSpan

end Phrasebook
