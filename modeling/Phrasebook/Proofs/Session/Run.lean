import Phrasebook.Session.Handle

/-! # Runs

Lines are answered one after another, each by the session and in the world that the line before it
left. What is answered depends on the disk and the network; the journal is only written to, so two
worlds that differ in nothing else are alike to a session.
-/

namespace Phrasebook

/-- What a line asks for, if it is understood. -/
def asked? (line : String) : Option Action :=
  (Json.parse line).toOption.bind fun value => (Request.ofJson value).action.toOption

theorem asked?_of_error {line : String} {error : Json.Error}
    (parsed : Json.parse line = .error error) : asked? line = none := by
  rw [asked?, parsed]
  rfl

theorem asked?_of_ok {line : String} {value : Json} (parsed : Json.parse line = .ok value) :
    asked? line = (Request.ofJson value).action.toOption := by
  rw [asked?, parsed]
  rfl

/-- A request to write a dictionary without repetitions. -/
def dedupeRequest (input output : String) : String :=
  (Json.ofFields
    [ ("cmd", .string "dictionary.dedupe"),
      ("payload", Json.ofFields
        [("input", .string input), ("output", .string output)]) ]).compact

/-- The turns of a run, one for each line. -/
def run (step : Session → World → String → Turn) (session : Session) (world : World) :
    List String → List Turn
  | [] => []
  | line :: rest =>
      let turn := step session world line
      turn :: run step turn.session turn.world rest

/-- The session after some turns that began with the given one. -/
def lastSession (session : Session) (turns : List Turn) : Session :=
  (turns.getLast?.map Turn.session).getD session

theorem lastSession_cons (session : Session) (turn : Turn) (turns : List Turn) :
    lastSession session (turn :: turns) = lastSession turn.session turns := by
  cases turns with
  | nil => rfl
  | cons next rest => simp [lastSession, List.getLast?_cons]

/-! ## Worlds alike -/

/-- The same disk and the same network. -/
structure World.Agrees (one other : World) : Prop where
  disk : one.disk = other.disk
  network : one.network = other.network

theorem World.Agrees.refl (world : World) : world.Agrees world := ⟨rfl, rfl⟩

theorem World.Agrees.tell {one other : World} (agree : one.Agrees other)
    (notes notesToo : List Note) : (one.tell notes).Agrees (other.tell notesToo) :=
  ⟨agree.disk, agree.network⟩

/-- The same but for the journal. -/
structure Effect.Agrees {α : Type} (one other : Effect α) : Prop where
  result : one.result = other.result
  session : one.session = other.session
  world : one.world.Agrees other.world

theorem Effect.Agrees.map {α β : Type} {one other : Effect α} (agree : one.Agrees other)
    (f : α → β) : (one.map f).Agrees (other.map f) :=
  ⟨congrArg (Except.map f) agree.result, agree.session, agree.world⟩

structure Turn.Agrees (one other : Turn) : Prop where
  response : one.response = other.response
  session : one.session = other.session
  world : one.world.Agrees other.world

namespace Session

variable {session : Session} {one other : World}

theorem saveSettings_agrees (agree : one.Agrees other) (settings : Settings) :
    (session.saveSettings one settings).Agrees (session.saveSettings other settings) := by
  unfold saveSettings
  rw [agree.disk]
  generalize Settings.save other.disk session.directory settings = saved
  obtain ⟨disk, failure⟩ := saved
  cases failure with
  | none => exact ⟨rfl, rfl, ⟨rfl, agree.network⟩⟩
  | some failure => exact ⟨rfl, rfl, ⟨rfl, agree.network⟩⟩

theorem setTarget_agrees (agree : one.Agrees other) (language : Language) :
    (session.setTarget one language).Agrees (session.setTarget other language) := by
  simp only [setTarget, agree.disk]
  generalize Settings.save other.disk session.directory _ = saved
  exact ⟨rfl, rfl, ⟨rfl, agree.network⟩⟩

theorem dedupeFile_agrees (agree : one.Agrees other) (input output : String) :
    (session.dedupeFile one input output).Agrees (session.dedupeFile other input output) := by
  simp only [dedupeFile, agree.disk]
  generalize Dictionary.dedupeFile other.disk (session.pathOf input) (session.pathOf output) =
    changed
  exact ⟨rfl, rfl, ⟨rfl, agree.network⟩⟩

end Session
end Phrasebook
