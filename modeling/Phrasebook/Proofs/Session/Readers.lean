import Phrasebook.Proofs.Disk.Walk
import Phrasebook.Proofs.Session.Changes
import Phrasebook.Proofs.Session.Rebuilding

/-! # Lines that only read

Most commands ask for something and change nothing; nor does a line that is not understood. Such
lines can be left out of a run: what the other lines are answered, and the session, the disk and the
network at the end are the same. The other commands change a part of the session each.
-/

namespace Phrasebook

/-! ## Commands -/

/-- The commands that ask for something. -/
def Request.askingCommands : List String :=
  ["ping", "settings.get", "dictionary.info", "dictionary.collisions", "target.get",
    "translate_line", "translate_document", "translate_file", "encoding.detect", "detect_encoding"]

/-- The command that asks for a change. -/
def Change.command : Change → String
  | .settings _ => "settings.save"
  | .load _ => "dictionary.load"
  | .dictionary _ => "dictionary.set"
  | .dedupe .. => "dictionary.dedupe"
  | .target _ => "target.set"

/-- A line that is not JSON, that has an unknown command, or that has a command which only asks for
    something, whatever its payload. -/
def OnlyReads (line : String) : Prop :=
  ∀ value, Json.parse line = .ok value →
    (Request.ofJson value).action = .error .unknownCommand ∨
      (Request.ofJson value).command ∈ Request.askingCommands

instance (line : String) : Decidable (OnlyReads line) :=
  match parsed : Json.parse line with
  | .error _ => .isTrue fun value read => by simp [parsed] at read
  | .ok value =>
      decidable_of_iff
        ((Request.ofJson value).action = .error .unknownCommand ∨
          (Request.ofJson value).command ∈ Request.askingCommands)
        ⟨fun reads other read => by
          rw [parsed, Except.ok.injEq] at read
          exact read ▸ reads, fun reads => reads value parsed⟩

theorem map_eq_ok_iff {ε α β : Type} {first : Except ε α} {f : α → β} {result : β} :
    first.map f = .ok result ↔ ∃ value, first = .ok value ∧ f value = result := by
  cases first <;> simp [Except.map]

theorem Request.exists_dedupe {payload : Json} {change : Change}
    (asked : Request.dedupeChange payload = .ok change) :
    ∃ input output, change = .dedupe input output := by
  obtain ⟨input, -, asked⟩ := Disk.bind_eq_ok_iff.mp asked
  obtain ⟨output, -, asked⟩ := Disk.bind_eq_ok_iff.mp asked
  cases asked
  exact ⟨input, output, rfl⟩

theorem Request.command_of_map {α : Type} {given : Except Refusal α} {f : α → Change}
    {change : Change} {command : String}
    (always : ∀ value, given = .ok value → (f value).command = command)
    (asked : (given.map fun value => Action.change (f value)) = .ok (.change change)) :
    command = change.command := by
  obtain ⟨value, read, same⟩ := map_eq_ok_iff.mp asked
  rw [← always value read, Action.change.inj same]

/-- What is changed is what the command names. -/
theorem Request.command_of_change {request : Request} {change : Change}
    (asked : request.action = .ok (.change change)) : request.command = change.command := by
  unfold Request.action at asked
  dsimp only at asked
  split at asked
  case h_3 command => exact command.trans (Request.command_of_map (fun _ _ => rfl) asked)
  case h_4 command => exact command.trans (Request.command_of_map (fun _ _ => rfl) asked)
  case h_5 command => exact command.trans (Request.command_of_map (fun _ _ => rfl) asked)
  case h_8 command =>
    refine command.trans (Request.command_of_map (fun deduped read => ?_) asked)
    obtain ⟨input, output, rfl⟩ := Request.exists_dedupe read
    rfl
  case h_10 command => exact command.trans (Request.command_of_map (fun _ _ => rfl) asked)
  all_goals simp [map_eq_ok_iff] at asked

theorem asked?_of_onlyReads {line : String} (reads : OnlyReads line) (change : Change) :
    asked? line ≠ some (.change change) := by
  cases parsed : Json.parse line with
  | error => simp [asked?_of_error parsed]
  | ok value =>
      rw [asked?_of_ok parsed]
      intro asked
      cases action : (Request.ofJson value).action with
      | error refusal => simp [action, Except.toOption] at asked
      | ok given =>
          simp only [action, Except.toOption, Option.some.injEq] at asked
          subst asked
          have command := Request.command_of_change action
          rcases reads value parsed with unknown | asking
          · simp [action] at unknown
          · rw [command] at asking
            cases change <;> simp [Change.command, Request.askingCommands] at asking

namespace Session

variable {session : Session} {world one other : World}

/-- A line that only reads changes nothing but the journal. -/
theorem handle_onlyReads (session : Session) (world : World) {line : String}
    (reads : OnlyReads line) :
    (session.handle world line).session = session ∧
      world.Agrees (session.handle world line).world := by
  have unchanged := asked?_of_onlyReads reads
  cases parsed : Json.parse line with
  | error =>
      simp only [handle, parsed]
      exact ⟨trivial, .refl world⟩
  | ok value =>
      rw [asked?_of_ok parsed] at unchanged
      simp only [handle, parsed]
      generalize (Request.ofJson value).action = action at unchanged ⊢
      rcases action with refusal | query | change
      · exact ⟨rfl, rfl, rfl⟩
      · exact ⟨rfl, rfl, rfl⟩
      · exact absurd rfl (unchanged change)

/-! ## Runs without such lines -/

/-- The items whose marks are set. -/
def whereMarked {α : Type} (items : List α) (marks : List Bool) : List α :=
  ((items.zip marks).filter Prod.snd).map Prod.fst

theorem whereMarked_cons {α : Type} (item : α) (items : List α) (mark : Bool)
    (marks : List Bool) :
    whereMarked (item :: items) (mark :: marks) =
      if mark then item :: whereMarked items marks else whereMarked items marks := by
  cases mark <;> rfl

/-- The world after some turns that began in the given one. -/
def lastWorld (world : World) (turns : List Turn) : World :=
  (turns.getLast?.map Turn.world).getD world

theorem lastWorld_cons (world : World) (turn : Turn) (turns : List Turn) :
    lastWorld world (turn :: turns) = lastWorld turn.world turns := by
  cases turns with
  | nil => rfl
  | cons next rest => simp [lastWorld, List.getLast?_cons]

/-- In worlds alike, a line is answered alike. -/
theorem handle_alike (session : Session) (agree : one.Agrees other) (line : String) :
    (session.handle one line).Agrees (session.handle other line) := by
  have agrees : (session.handleWith replaceDictionary one line).Agrees
      (session.handleWith replaceDictionary other line) :=
    handleWith_agrees agree line fun _ _ _ => rfl
  rwa [handleWith_replaceDictionary] at agrees

/-- In worlds alike, a dictionary is loaded alike. -/
theorem loadDictionary_agrees (session : Session) (agree : one.Agrees other)
    (sources : Option (List String)) :
    (session.loadDictionary one sources).Agrees (session.loadDictionary other sources) := by
  have agrees : (session.loadDictionaryWith replaceDictionary one sources).Agrees
      (session.loadDictionaryWith replaceDictionary other sources) :=
    loadDictionaryWith_agrees agree sources fun _ _ _ => rfl
  exact agrees

/-- Runs with and without some lines that only read. -/
theorem run_whereMarked {marked : List (String × Bool)} (agree : one.Agrees other)
    (dropped : ∀ line ∈ marked, line.2 = false → OnlyReads line.1) :
    let lines := marked.map Prod.fst
    let marks := marked.map Prod.snd
    let turns := run handle session one lines
    let fewer := run handle session other (whereMarked lines marks)
    List.Forall₂ Turn.Agrees (whereMarked turns marks) fewer ∧
      lastSession session turns = lastSession session fewer ∧
      (lastWorld one turns).Agrees (lastWorld other fewer) := by
  -- Over the lines: a dropped line leaves a session and a world that the rest is answered in alike.
  induction marked generalizing session one other with
  | nil => exact ⟨.nil, rfl, agree⟩
  | cons line rest ih =>
      obtain ⟨line, mark⟩ := line
      obtain ⟨dropped, later⟩ := List.forall_mem_cons.mp dropped
      simp only [List.map_cons, whereMarked_cons, run]
      cases mark with
      | true =>
          have step := handle_alike session agree line
          obtain ⟨turns, session', world'⟩ :=
            @ih (session.handle one line).session _ _ step.world later
          simp only [if_true, run, lastSession_cons, lastWorld_cons]
          rw [← step.session]
          exact ⟨.cons step turns, session', world'⟩
      | false =>
          obtain ⟨kept, same⟩ := handle_onlyReads session one (dropped rfl)
          have agreeToo : (session.handle one line).world.Agrees other :=
            ⟨same.disk.symm.trans agree.disk, same.network.symm.trans agree.network⟩
          simp only [Bool.false_eq_true, if_false, lastSession_cons, lastWorld_cons, kept]
          exact ih agreeToo later

/-! ## The parts that commands change -/

/-- The session differs at most in the part that a command may change. -/
def KeepsTo (command : String) (before after : Session) : Prop :=
  match command with
  | "target.set" => ∃ language, after =
      { before with settings := { before.settings with targetLanguage := language } }
  | "settings.save" => ∃ settings, after = { before with settings := settings }
  | "dictionary.set" | "dictionary.load" =>
      ∃ index source, after = { before with index := index, source := source }
  | _ => after = before

theorem keepsTo_refl (command : String) (session : Session) : KeepsTo command session session := by
  unfold KeepsTo
  split
  · exact ⟨session.target, rfl⟩
  · exact ⟨session.settings, rfl⟩
  · exact ⟨session.index, session.source, rfl⟩
  · exact ⟨session.index, session.source, rfl⟩
  · rfl

theorem directory_of_keepsTo {command : String} {before after : Session}
    (keeps : KeepsTo command before after) : after.directory = before.directory := by
  unfold KeepsTo at keeps
  split at keeps
  · obtain ⟨_, rfl⟩ := keeps
    rfl
  · obtain ⟨_, rfl⟩ := keeps
    rfl
  · obtain ⟨_, _, rfl⟩ := keeps
    rfl
  · obtain ⟨_, _, rfl⟩ := keeps
    rfl
  · rw [keeps]

theorem keepsTo_apply (session : Session) (world : World) (change : Change) :
    KeepsTo change.command session (session.apply world change).session := by
  have changed := changed_apply session world change
  generalize session.apply world change = effect at changed ⊢
  cases changed with
  | unsaved settings => exact keepsTo_refl _ session
  | saved settings => exact ⟨settings, rfl⟩
  | target language => exact ⟨language, rfl⟩
  | unloaded sources => exact keepsTo_refl _ session
  | loaded sources index source => exact ⟨index, source, rfl⟩
  | set entries index source => exact ⟨index, source, rfl⟩
  | deduplicated input output => rfl

theorem keepsTo_handle (session : Session) (world : World) {line : String} {value : Json}
    (parsed : Json.parse line = .ok value) :
    KeepsTo (Request.ofJson value).command session (session.handle world line).session := by
  simp only [handle, parsed]
  cases asked : (Request.ofJson value).action with
  | error refusal => exact keepsTo_refl _ session
  | ok action =>
      cases action with
      | query query => exact keepsTo_refl _ session
      | change change =>
          rw [Request.command_of_change asked]
          exact keepsTo_apply session _ change

/-- Lines that only read leave the session, the disk and the network as they were; without any of
    them a run answers its other lines alike and ends alike; and every other line keeps to the part
    of the session that its command changes, which never is the directory. -/
theorem readers_leave_no_trace (session : Session) (world : World) :
    (∀ line, OnlyReads line →
      (session.handle world line).session = session ∧
        world.Agrees (session.handle world line).world) ∧
    (∀ marked : List (String × Bool),
      (∀ line ∈ marked, line.2 = false → OnlyReads line.1) →
      let lines := marked.map Prod.fst
      let marks := marked.map Prod.snd
      let turns := run handle session world lines
      let fewer := run handle session world (whereMarked lines marks)
      List.Forall₂ Turn.Agrees (whereMarked turns marks) fewer ∧
        lastSession session turns = lastSession session fewer ∧
        (lastWorld world turns).Agrees (lastWorld world fewer)) ∧
    ∀ line, (session.handle world line).session.directory = session.directory ∧
      ∀ value, Json.parse line = .ok value →
        KeepsTo (Request.ofJson value).command session (session.handle world line).session := by
  refine ⟨fun line => handle_onlyReads session world,
    fun marked => run_whereMarked (.refl world), fun line => ⟨?_, fun value => ?_⟩⟩
  · cases parsed : Json.parse line with
    | error => simp only [handle, parsed]
    | ok value => exact directory_of_keepsTo (keepsTo_handle session world parsed)
  · exact keepsTo_handle session world

/-- A dictionary is set, a line is translated into a language of its own and what is no request is
    sent in between, and the dictionary is set again. -/
theorem readers_leave_no_trace_moon :
    let session : Session := { directory := ⟨"app"⟩, settings := {} }
    let world : World := { disk := { nodes := [], workingDirectory := [] } }
    let lineRequest := (Json.ofFields
      [ ("cmd", .string "translate_line"),
        ("payload", Json.ofFields
          [("line", .string "/ac Moon"), ("target", .string "de")]) ]).compact
    let lines := [moonRequest, lineRequest, "set moon", moonRequest]
    let marks := [true, false, false, true]
    List.Forall₂ Turn.Agrees (whereMarked (run handle session world lines) marks)
        (run handle session world [moonRequest, moonRequest]) ∧
      lastSession session (run handle session world lines) =
        lastSession session (run handle session world [moonRequest, moonRequest]) := by
  intro session world lineRequest lines marks
  have dropped : ∀ line ∈ lines.zip marks, line.2 = false → OnlyReads line.1 := by
    decide +kernel
  obtain ⟨turns, last, -⟩ :=
    (readers_leave_no_trace session world).2.1 (lines.zip marks) dropped
  exact ⟨turns, last⟩

end Session
end Phrasebook
