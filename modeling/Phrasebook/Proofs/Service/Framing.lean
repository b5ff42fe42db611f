import Phrasebook.Service
import Phrasebook.Proofs.Json.Printing
import Phrasebook.Proofs.Session.Readers
import Phrasebook.Proofs.Text.Lines
import Phrasebook.Proofs.Text.Trimming
import Phrasebook.Proofs.Text.Utf8

/-! # Line for line

A service writes one line for every line it reads that is text and not blank, in the same order,
and nothing else. What it writes is the response of one session that goes from line to line. A
response is one line whatever it quotes, because no control character stands in it; so whoever
counts lines knows which response belongs to which request.
-/

namespace Phrasebook.Service

variable {service : Service} {world : World}

/-! ## What is read -/

/-- The lines of an input: what newlines end, without a carriage return before the newline, and what
    stands behind the last newline, if anything does. -/
def linesOf (input : List UInt8) : List (List UInt8) :=
  let pieces := input.splitOn 0x0A
  pieces.dropLast.map dropReturn ++ pieces.getLast?.toList.filter fun last => !last.isEmpty

/-- The requests among some lines: the texts that are not blank. -/
def requestsAmong (lines : List (List UInt8)) : List String :=
  (lines.filterMap Text.decodeUtf8?).filter fun line => Text.trimWhite line != ""

/-- Some texts are, in order, the requests among some lines: those that the lines are the UTF-8 of
    and that are not blank. -/
inductive AreRequests : List (List UInt8) → List String → Prop where
  | nil : AreRequests [] []
  | request {text : String} {lines : List (List UInt8)} {texts : List String} :
      Text.trimWhite text ≠ "" → AreRequests lines texts →
      AreRequests (Text.encodeUtf8 text.toList :: lines) (text :: texts)
  | blank {text : String} {lines : List (List UInt8)} {texts : List String} :
      Text.trimWhite text = "" → AreRequests lines texts →
      AreRequests (Text.encodeUtf8 text.toList :: lines) texts
  | unreadable {line : List UInt8} {lines : List (List UInt8)} {texts : List String} :
      (∀ text : String, line ≠ Text.encodeUtf8 text.toList) → AreRequests lines texts →
      AreRequests (line :: lines) texts

theorem areRequests_requestsAmong (lines : List (List UInt8)) :
    AreRequests lines (requestsAmong lines) := by
  induction lines with
  | nil => exact .nil
  | cons line rest ih =>
      cases decoded : Text.decodeUtf8? line with
      | none =>
          have unreadable (text : String) : line ≠ Text.encodeUtf8 text.toList := by
            intro same
            cases decoded.symm.trans (Text.decodeUtf8?_eq_some_iff.mpr same)
          simpa [requestsAmong, decoded] using AreRequests.unreadable unreadable ih
      | some text =>
          obtain rfl := Text.decodeUtf8?_eq_some_iff.mp decoded
          by_cases blank : Text.trimWhite text = ""
          · simpa [requestsAmong, decoded, blank] using AreRequests.blank blank ih
          · simpa [requestsAmong, decoded, blank] using AreRequests.request blank ih

theorem linesFrom_eq (seen input : List UInt8) :
    inputLines.linesFrom seen input =
      let pieces := (input.splitOn 0x0A).modifyHead (seen.reverse ++ ·)
      pieces.dropLast.map dropReturn ++
        pieces.getLast?.toList.filter fun last => !last.isEmpty := by
  induction input generalizing seen with
  | nil => cases seen <;> simp [inputLines.linesFrom]
  | cons byte rest ih =>
      simp only [inputLines.linesFrom, List.splitOn_cons_eq_if_modifyHead, beq_iff_eq]
      by_cases newline : byte = 0x0A
      · obtain ⟨piece, more, pieces⟩ :=
          List.exists_cons_of_ne_nil (List.splitOn_ne_nil 0x0A rest)
        simp [newline, ih, pieces]
      · have heads : ((rest.splitOn 0x0A).modifyHead (List.cons byte)).modifyHead
            (seen.reverse ++ ·) = (rest.splitOn 0x0A).modifyHead ((byte :: seen).reverse ++ ·) := by
          simp [List.modifyHead_modifyHead, Function.comp_def]
        rw [if_neg newline, if_neg newline, heads, ih]

theorem inputLines_eq_linesOf (input : List UInt8) : inputLines input = linesOf input := by
  have whole : (input.splitOn 0x0A).modifyHead ([] ++ ·) = input.splitOn 0x0A := by
    cases input.splitOn 0x0A <;> rfl
  have lines := linesFrom_eq [] input
  rwa [List.reverse_nil, whole] at lines

/-- Only a carriage return before a newline is dropped. -/
example : linesOf (Text.encodeUtf8 "a\r\n\nb\r".toList) = [[0x61], [], [0x62, 0x0D]] := by decide

theorem isBlank_iff (line : String) : Text.isBlank line = true ↔ Text.trimWhite line = "" := by
  rw [Text.isBlank, List.all_eq_true, ← Text.trimBoth_eq_nil_iff, Text.trimWhite,
    String.ofList_eq_empty_iff]

/-! ## What is answered -/

/-- The lines are answered as one session answers the requests among them. -/
theorem responses_foldl (agree : service.world.Agrees world) (lines : List (List UInt8)) :
    (lines.foldl answerLine service).responses =
      service.responses ++
        (Phrasebook.run Session.handle service.session world (requestsAmong lines)).map
          fun turn => turn.response.text := by
  -- Over the lines: one that is no request leaves the session and at most writes to the journal.
  induction lines generalizing service world with
  | nil => simp [requestsAmong, Phrasebook.run]
  | cons line rest ih =>
      rw [List.foldl_cons]
      cases decoded : Text.decodeUtf8? line with
      | none =>
          let told : Service := { service with world := service.world.tell [unreadableNote] }
          have agreeToo : told.world.Agrees world := ⟨agree.disk, agree.network⟩
          simpa [answerLine, decoded, requestsAmong, told] using ih agreeToo
      | some text =>
          by_cases blank : Text.isBlank text = true
          · have trimmed := (isBlank_iff text).mp blank
            simpa [answerLine, decoded, answerText, blank, requestsAmong, trimmed] using ih agree
          · have filled : Text.trimWhite text ≠ "" :=
              fun trimmed => blank ((isBlank_iff text).mpr trimmed)
            have turn := Session.handle_alike service.session agree text
            have agreeToo : (service.answerText text).world.Agrees
                (service.session.handle world text).world := by
              simpa [answerText, blank] using turn.world
            have later := ih agreeToo
            simp only [answerLine, decoded, later]
            simp [answerText, blank, requestsAmong, decoded, filled, Phrasebook.run, turn.response,
              turn.session]

/-- A response to a line. What is not JSON has one of its own; the response to a request is an
    object with the identifier of the request, or null, and with a payload or a message. -/
def Answers (line response : String) : Prop :=
  match Json.parse line with
  | .error _ =>
      response = (Json.object
        [("message", .string "invalid json"), ("status", .string "error")]).compact
  | .ok request =>
      let id := (request.field? "id").getD .null
      (∃ payload, response = (Json.object
        [("id", id), ("payload", payload), ("status", .string "ok")]).compact) ∨
      ∃ message, response = (Json.object
        [("id", id), ("message", .string message), ("status", .string "error")]).compact

theorem perform_response (session : Session) (world : World) (id : Json)
    (action : Except Refusal Action) :
    ∃ result, (session.perform world id action).response = .answer id result := by
  rcases action with refusal | query | change
  · exact ⟨_, rfl⟩
  · exact ⟨_, rfl⟩
  · exact ⟨_, rfl⟩

theorem answers_handle (session : Session) (world : World) (line : String) :
    Answers line (session.handle world line).response.text := by
  unfold Answers Session.handle
  cases Json.parse line with
  | error => rfl
  | ok request =>
      dsimp only
      obtain ⟨result, response⟩ := perform_response session
        (world.tell [⟨.debug, "[protocol] " ++ (Request.ofJson request).command⟩])
        (Request.ofJson request).id (Request.ofJson request).action
      rw [response]
      cases result with
      | ok payload => exact .inl ⟨payload, rfl⟩
      | error refusal => exact .inr ⟨refusal.message, rfl⟩

theorem answers_run (session : Session) (world : World) (lines : List String) :
    List.Forall₂ Answers lines
      ((Phrasebook.run Session.handle session world lines).map fun turn => turn.response.text) := by
  induction lines generalizing session world with
  | nil => exact .nil
  | cons line rest ih => exact .cons (answers_handle session world line) (ih _ _)

/-! ## What is written -/

/-- What a service writes: its responses, each with a newline behind it. -/
def output (service : Service) : String :=
  String.join (service.responses.map (· ++ "\n"))

theorem isShown_response (response : Response) :
    ∀ c ∈ response.text.toList, Json.IsShown c :=
  Json.isShown_compact response.toJson

/-- Where no response has a newline, every response is a line of the output. -/
theorem lines_output (unbroken : ∀ response ∈ service.responses, '\n' ∉ response.toList) :
    Text.lines service.output = service.responses ++ [""] := by
  unfold output
  generalize service.responses = responses at unbroken ⊢
  induction responses with
  | nil => rfl
  | cons response rest ih =>
      obtain ⟨first, later⟩ := List.forall_mem_cons.mp unbroken
      rw [List.map_cons, String.join_cons, Text.lines_append_newline,
        Text.lines_of_unbroken first, ih later]
      rfl

theorem loadDictionary_failed (session : Session) (world : World)
    (sources : Option (List String)) :
    (session.loadDictionary world sources).result.isOk = true ∨
      (session.loadDictionary world sources).session = session := by
  unfold Session.loadDictionary
  dsimp only
  split
  · exact .inr rfl
  · exact .inl rfl

theorem start_alike (world : World) (directory : Disk.Path) :
    let loaded := (Session.start world.disk directory).value.loadDictionary world none
    (start world directory).session = loaded.session ∧
      (start world directory).world.Agrees loaded.world ∧
      (start world directory).responses = [] := by
  intro loaded
  let told := world.tell ((Session.start world.disk directory).notes ++
    [⟨.info, "[core] app dir " ++ directory.text⟩])
  have agree : told.Agrees world := ⟨rfl, rfl⟩
  let opened := (Session.start world.disk directory).value
  have alike : (opened.loadDictionary told none).Agrees (opened.loadDictionary world none) :=
    opened.loadDictionary_agrees agree none
  exact ⟨alike.session, ⟨alike.world.disk, alike.world.network⟩, rfl⟩

/-- A service that is started and reads an input to its end answers, in order, the lines of the
    input that are text and not blank, as one session does that began with the settings of the
    directory and, if there is one, a dictionary from its sources. Its output has a line for each
    response and no others; the responses have no control characters and have the shape that the
    requests ask for. -/
theorem run_answers_line_for_line (environment : Environment) (workingDirectory : String)
    (world : World) (input : List UInt8) :
    let opened := (Session.start world.disk (environment.directory workingDirectory)).value
    let loaded := opened.loadDictionary world none
    let requests := requestsAmong (linesOf input)
    let turns := Phrasebook.run Session.handle loaded.session loaded.world requests
    let service := Service.run environment workingDirectory world input
    AreRequests (linesOf input) requests ∧
      (loaded.result.isOk = true ∨ loaded.session = opened) ∧
      service.responses = turns.map (fun turn => turn.response.text) ∧
      Text.lines service.output = service.responses ++ [""] ∧
      (∀ response ∈ service.responses, ∀ c ∈ response.toList, 0x20 ≤ c.toNat) ∧
      List.Forall₂ Answers requests service.responses := by
  intro opened loaded requests turns service
  obtain ⟨session, alike, silent⟩ := start_alike world (environment.directory workingDirectory)
  have answered : service.responses = turns.map fun turn => turn.response.text := by
    have responses := responses_foldl alike (linesOf input)
    rw [silent, session, List.nil_append] at responses
    simp only [service, Service.run, answerAll, inputLines_eq_linesOf, responses]
    rfl
  have shown : ∀ response ∈ service.responses, ∀ c ∈ response.toList, 0x20 ≤ c.toNat := by
    intro response member
    rw [answered, List.mem_map] at member
    obtain ⟨turn, -, rfl⟩ := member
    exact isShown_response turn.response
  refine ⟨areRequests_requestsAmong _, loadDictionary_failed opened world none, answered,
    lines_output ?_, shown, ?_⟩
  · intro response member newline
    exact absurd (shown response member '\n' newline) (by decide)
  · rw [answered]
    exact answers_run loaded.session loaded.world requests

end Phrasebook.Service
