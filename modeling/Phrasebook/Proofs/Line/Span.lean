import Phrasebook.Proofs.Line.Search

/-! # Spans in their text

The span that a search finds is read off the text again: cut at its ends, the text falls apart into
space, what was written for the name, and the tail. A span is that of a split, so what it tells is
read off the split.
-/

namespace Phrasebook

open Text

/-- What a span tells of the text in which it was found. -/
structure NameSpan.LiesIn (span : NameSpan) (text : String) : Prop where
  ordered : span.start ≤ span.stop
  inside : span.stop ≤ text.utf8ByteSize
  validStart : (⟨span.start⟩ : String.Pos.Raw).IsValid text
  validStop : (⟨span.stop⟩ : String.Pos.Raw).IsValid text
  lead : ∀ c ∈ (between text 0 span.start).toList, isSpace c = true
  quoted : span.isQuoted = true → IsQuotable span.name.toList ∧
    between text span.start span.stop = "\"" ++ span.name ++ "\""
  bare : span.isQuoted = false → IsBare span.name.toList ∧
    EndsBareName (between text span.stop text.utf8ByteSize).toList ∧
    ∃ padding, between text span.start span.stop = span.name ++ padding ∧
      (∀ c ∈ padding.toList, isSpace c = true) ∧
      (padding ≠ "" → span.stop = text.utf8ByteSize)

theorem Split.Valid.lead_space {split : Split} (valid : split.Valid) :
    ∀ c ∈ split.lead, isSpace c = true := by
  cases valid <;> assumption

namespace Split

theorem between_lead (split : Split) :
    between (String.ofList split.whole) 0 split.span.start = String.ofList split.lead := by
  have cut := between_append [] split.lead (split.token ++ split.tail)
  rw [List.nil_append, ← List.append_assoc] at cut
  exact cut

theorem span_stop (split : Split) : split.span.stop = byteSize (split.lead ++ split.token) :=
  (byteSize_append split.lead split.token).symm

theorem between_token (split : Split) :
    between (String.ofList split.whole) split.span.start split.span.stop =
      String.ofList split.token := by
  rw [span_stop]
  exact between_append split.lead split.token split.tail

theorem between_tail (split : Split) :
    between (String.ofList split.whole) split.span.stop (String.ofList split.whole).utf8ByteSize =
      String.ofList split.tail := by
  have cut := between_append (split.lead ++ split.token) split.tail []
  rw [List.append_nil] at cut
  rw [span_stop]
  exact cut

theorem Valid.quoted_token {split : Split} (valid : split.Valid)
    (isQuoted : split.span.isQuoted = true) :
    IsQuotable split.name ∧ split.token = '"' :: split.name ++ ['"'] := by
  cases valid with
  | quoted _ quotable => exact ⟨quotable, rfl⟩
  | bareLast _ _ _ => cases isQuoted
  | bareBefore _ _ _ => cases isQuoted

theorem Valid.bare_token {split : Split} (valid : split.Valid)
    (isBare : split.span.isQuoted = false) :
    IsBare split.name ∧ EndsBareName split.tail ∧ split.token = split.name ++ split.padding ∧
      (∀ c ∈ split.padding, isSpace c = true) ∧ (split.padding ≠ [] → split.tail = []) := by
  cases valid with
  | quoted _ _ => cases isBare
  | bareLast _ bare space => exact ⟨bare, .inl rfl, rfl, space, fun _ => rfl⟩
  | bareBefore _ bare space =>
      exact ⟨bare, .inr ⟨_, _, space, rfl⟩, rfl, by simp, fun padded => absurd rfl padded⟩

theorem Valid.liesIn {split : Split} (valid : split.Valid) :
    split.span.LiesIn (String.ofList split.whole) where
  ordered := Nat.le_add_right _ _
  inside := by
    show _ ≤ byteSize split.whole
    rw [span_stop, whole, byteSize_append (split.lead ++ split.token)]
    exact Nat.le_add_right _ _
  validStart := by
    rw [whole, List.append_assoc]
    exact isValid_byteSize split.lead (split.token ++ split.tail)
  validStop := by
    rw [span_stop]
    exact isValid_byteSize (split.lead ++ split.token) split.tail
  lead := by
    rw [between_lead, String.toList_ofList]
    exact valid.lead_space
  quoted := by
    intro isQuoted
    obtain ⟨quotable, token⟩ := valid.quoted_token isQuoted
    rw [between_token, token]
    refine ⟨by rwa [span, String.toList_ofList], ?_⟩
    simp [span, String.append_assoc]
  bare := by
    intro isBare
    obtain ⟨bare, ends, token, space, last⟩ := valid.bare_token isBare
    rw [between_token, between_tail, token, String.toList_ofList]
    refine ⟨by rwa [span, String.toList_ofList], ends, String.ofList split.padding, ?_, ?_, ?_⟩
    · simp [span]
    · rwa [String.toList_ofList]
    · intro padded
      rw [span_stop, ← byteSize, whole, last (by simpa using padded), List.append_nil]

end Split

/-- In every text behind a command the search for a name comes to an end: it cuts no text where it
    cannot be cut, and no bare name is empty. The span that it finds lies in the text and is the one
    of the text's split, and it finds none in the texts that name nothing, and only there. -/
theorem NameSpan.findBy_locates {search : QuoteSearch} (finds : FindsQuoted search)
    (text : String) :
    findBy search text.toList ≠ .error .misplaced ∧
    findBy search text.toList ≠ .error .emptyName ∧
    (∀ span, findBy search text.toList = .ok span → span.LiesIn text) ∧
    ((findBy search text.toList).toOption = none ↔ ∃ cause, Nameless cause text.toList) ∧
    (findBy search text.toList).toOption = (splitName? text.toList).map Split.span := by
  refine ⟨?misplaced, ?emptyName, ?lies, ?none, toOption_findBy finds⟩
  case misplaced =>
    intro ended
    cases (findBy_eq_error_iff finds).mp ended
  case emptyName =>
    intro ended
    cases (findBy_eq_error_iff finds).mp ended
  case lies =>
    intro span found
    obtain ⟨split, named, rfl⟩ := (findBy_eq_ok_iff finds).mp found
    obtain ⟨valid, whole⟩ := splitName?_sound named
    rw [← String.ofList_toList (s := text), ← whole]
    exact valid.liesIn
  case none =>
    constructor
    · intro unnamed
      cases ended : findBy search text.toList with
      | ok span =>
          rw [ended] at unnamed
          cases unnamed
      | error cause => exact ⟨cause, (findBy_eq_error_iff finds).mp ended⟩
    · intro ⟨cause, nameless⟩
      rw [findBy_nameless finds nameless]
      rfl

theorem NameSpan.findBy_locates_padded :
    FindsQuoted openingQuote ∧
    findBy openingQuote "\u3000\uFEFFPiège \u2003".toList = .ok ⟨"Piège", 6, 16, false⟩ ∧
    LiesIn ⟨"Piège", 6, 16, false⟩ "\u3000\uFEFFPiège \u2003" := by
  have found : findBy openingQuote "\u3000\uFEFFPiège \u2003".toList =
      .ok ⟨"Piège", 6, 16, false⟩ := by decide
  exact ⟨findsQuoted_openingQuote, found,
    (findBy_locates findsQuoted_openingQuote "\u3000\uFEFFPiège \u2003").2.2.1 _ found⟩

end Phrasebook
