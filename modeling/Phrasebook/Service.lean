import Phrasebook.Session.Handle

/-! # The service

A service answers requests that come one on a line. It finds its directory by the environment, loads
a dictionary from the configured sources if it can, and then answers every line that is not blank.
-/

namespace Phrasebook

/-- The environment variables with their values. -/
abbrev Environment := List (String × String)

namespace Environment

/-- The application's directory: the one that is set, otherwise one of a fixed name in the place for
    local data, or in the working directory. -/
def directory (environment : Environment) (workingDirectory : String) : Disk.Path :=
  let own : Disk.Path := ⟨"ArgonautsMacro"⟩
  let home := (environment.lookup "MACRO_CORE_HOME").filter fun home => Text.trimWhite home != ""
  match home, environment.lookup "LOCALAPPDATA" with
  | some home, _ => ⟨home⟩
  | none, some localData => Disk.Path.join ⟨localData⟩ own
  | none, none => Disk.Path.join ⟨workingDirectory⟩ own

def threshold (environment : Environment) : Threshold :=
  ((environment.lookup "MACRO_CORE_LOG").bind Threshold.ofText?).getD (some .info)

end Environment

/-- A running service, with the responses it has sent. -/
structure Service where
  session : Session
  world : World
  responses : List String := []

namespace Service

/-- Start a service in a directory: read the settings and load a dictionary. -/
def start (world : World) (directory : Disk.Path) : Service :=
  let opened := Session.start world.disk directory
  let told := world.tell (opened.notes ++ [⟨.info, "[core] app dir " ++ directory.text⟩])
  let loaded := opened.value.loadDictionary told none
  let notes : List Note :=
    match loaded.result with
    | .ok _ => []
    | .error failure => [⟨.warn, "[core] no dictionary at startup: " ++ failure.message⟩]
  { session := loaded.session, world := loaded.world.tell notes }

/-- Answer a line of text; a blank one gets no response. -/
def answerText (service : Service) (line : String) : Service :=
  if Text.isBlank line then service
  else
    let turn := service.session.handle service.world line
    { session := turn.session, world := turn.world
      responses := service.responses ++ [turn.response.text] }

/-- What the journal is told about a line that is not text. -/
def unreadableNote : Note :=
  ⟨.warn, "[core] unreadable request line: stream did not contain valid UTF-8"⟩

def answerLine (service : Service) (line : List UInt8) : Service :=
  match Text.decodeUtf8? line with
  | some text => service.answerText text
  | none => { service with world := service.world.tell [unreadableNote] }

/-- A line without the carriage return at its end. -/
def dropReturn (line : List UInt8) : List UInt8 :=
  if line.getLast? = some 0x0D then line.dropLast else line

/-- The lines of an input. A newline ends a line, with or without a carriage return before it; what
    follows the last newline is a line if it is not empty. -/
def inputLines (input : List UInt8) : List (List UInt8) :=
  linesFrom [] input
where
  linesFrom (seen : List UInt8) : List UInt8 → List (List UInt8)
    | [] => if seen.isEmpty then [] else [seen.reverse]
    | byte :: rest =>
        if byte = 0x0A then dropReturn seen.reverse :: linesFrom [] rest
        else linesFrom (byte :: seen) rest

def answerAll (service : Service) (input : List UInt8) : Service :=
  (inputLines input).foldl answerLine service

def run (environment : Environment) (workingDirectory : String) (world : World)
    (input : List UInt8) : Service :=
  (start world (environment.directory workingDirectory)).answerAll input

/-- The lines that the journal shows. -/
def shownLines (environment : Environment) (journal : List Note) : List String :=
  (journal.filter environment.threshold.shows).flatMap fun note => Text.lines note.line

end Service
end Phrasebook
