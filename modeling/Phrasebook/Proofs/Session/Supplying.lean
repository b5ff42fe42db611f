import Phrasebook.Proofs.Dictionary.FirstSource
import Phrasebook.Proofs.Dictionary.Validity
import Phrasebook.Proofs.Encoding.Marks
import Phrasebook.Proofs.Session.Refusal
import Phrasebook.Proofs.Session.SetRequest

/-! # A dictionary in a request and in a file

A dictionary is handed over in a request or loaded from a file. The request takes the entries one
after another, the file as a whole list. Whichever way the same text goes, it is accepted or refused
alike, and the sessions differ in the source they name and in nothing else.
-/

namespace Phrasebook

/-- The request was done. -/
def Response.Succeeds (response : Response) : Prop :=
  response.toJson.field? "status" = some (.string "ok")

theorem Response.succeeds_iff (response : Response) :
    response.Succeeds ↔ response.isError = false := by
  rcases response with _ | ⟨id, refusal | payload⟩
  · simp [Succeeds, toJson, isError, Json.field?_ofFields, Json.lookup_cons_ite]
  · simp [Succeeds, toJson, isError, Json.field?_ofFields, Json.lookup_cons_ite]
  · simp [Succeeds, toJson, isError, Json.field?_ofFields, Json.lookup_cons_ite]

namespace Session

/-- The one source to load from is a file that holds a text in UTF-8, with or without a byte order
    mark. -/
structure OnlySource (session : Session) (disk : Disk) (sources : Option (List String))
    (path : Disk.Path) (text : String) : Prop where
  only : ∃ name, sources.getD session.settings.dictionarySources = [name] ∧
    Dictionary.Source.ofText disk session.directory name = .file path
  holds : disk.read path = .ok (Text.encodeUtf8 text.toList) ∨
    disk.read path = .ok (0xEF :: 0xBB :: 0xBF :: Text.encodeUtf8 text.toList)

variable {session : Session} {world : World} {id text : String} {given : Json}
  {sources : Option (List String)} {path : Disk.Path} {entries : List Entry}

/-- A dictionary is used in the same way wherever it came from. -/
theorem replaceDictionary_source (session : Session) (entries : List Entry)
    (source sourceToo : String) :
    (session.replaceDictionary entries sourceToo).value =
      { (session.replaceDictionary entries source).value with source := some sourceToo } := by
  unfold replaceDictionary
  dsimp only
  split <;> rfl

theorem source_replaceDictionary (session : Session) (entries : List Entry) (source : String) :
    (session.replaceDictionary entries source).value.source = some source := by
  unfold replaceDictionary
  dsimp only
  split <;> rfl

variable (session world)

/-! ## In a request -/

section Request

variable (identified : Json.parse id = .ok given) (list : Json.IsArrayText text)
  (shallow : ∀ error, Json.parse (setRequest id text) = .error error → error.reason ≠ .tooDeep)
include identified list shallow

/-- The text of the entries is not JSON, or its items are taken one after another. -/
theorem handle_setRequest :
    (∃ error, Json.parse text = .error error ∧
      (session.handle world (setRequest id text)).response = .notJson) ∨
    ∃ items, Json.parse text = .ok (.array items) ∧
      session.handle world (setRequest id text) =
        session.perform (world.tell [⟨.debug, "[protocol] dictionary.set"⟩]) given
          ((Request.entriesFrom 0 items).map fun entries => .change (.dictionary entries)) := by
  cases parsed : Json.parse text with
  | error error =>
      obtain ⟨finished, ended⟩ := list.closes error parsed
      obtain ⟨errorToo, refused⟩ := parse_setRequest_refused identified parsed finished ended
      exact .inl ⟨error, rfl, by simp only [handle, refused]⟩
  | ok value =>
      obtain ⟨items, rfl⟩ := list.isArray parsed
      refine .inr ⟨items, rfl, ?_⟩
      unfold handle
      rw [parse_setRequest identified parsed shallow]
      rfl

/-- A dictionary that is handed over is used when its text lists entries. -/
theorem set_succeeds_iff :
    (session.handle world (setRequest id text)).response.Succeeds ↔ ListsEntries text := by
  rcases handle_setRequest session world identified list shallow with
    ⟨error, parsed, answered⟩ | ⟨items, parsed, turn⟩
  · rw [answered, Response.succeeds_iff, ListsEntries, parsed]
    exact iff_of_false Bool.noConfusion (by rintro ⟨_, ⟨⟩, -⟩)
  · rw [turn, Response.succeeds_iff, ListsEntries, parsed]
    simp only [Except.ok.injEq, Json.array.injEq, exists_eq_left', ← Entry.exists_mapM_ofJson_iff]
    cases taken : Request.entriesFrom 0 items with
    | error refusal =>
        refine iff_of_false Bool.noConfusion ?_
        rintro ⟨entries, valid⟩
        cases taken.symm.trans (Request.entriesFrom_eq_ok_iff.mpr valid)
    | ok entries => exact iff_of_true rfl ⟨entries, Request.entriesFrom_eq_ok_iff.mp taken⟩

theorem set_accepted {entries : List Entry} {origin : String}
    (loads : Dictionary.ofText origin text = .ok entries) :
    let set := session.handle world (setRequest id text)
    set.response = .answer given (.ok set.session.info.toJson) ∧
      set.session = (session.replaceDictionary entries "inline").value := by
  intro set
  obtain ⟨items, parsed, valid⟩ := Dictionary.ofText_eq_ok_iff.mp loads
  rcases handle_setRequest session world identified list shallow with
    ⟨error, refused, -⟩ | ⟨itemsToo, parsedToo, turn⟩
  · cases refused.symm.trans parsed
  · obtain rfl := Json.array.inj (Except.ok.inj (parsedToo.symm.trans parsed))
    have turn : set = _ := turn
    rw [turn, Request.entriesFrom_eq_ok_iff.mpr valid]
    exact ⟨rfl, rfl⟩

/-- The position that is reported is that of the first item that describes no entry. -/
theorem set_rejects_iff (position : Nat) (reason : Json.Reason) :
    (session.handle world (setRequest id text)).response =
        .answer given (.error (.invalidEntry position reason)) ↔
      ∃ before item after, Json.parse text = .ok (.array (before ++ item :: after)) ∧
        position = before.length ∧ (∀ earlier ∈ before, earlier.DescribesEntry) ∧
        ¬item.DescribesEntry ∧ Entry.ofJson item = .error reason := by
  rcases handle_setRequest session world identified list shallow with
    ⟨error, refused, answered⟩ | ⟨items, parsed, turn⟩
  · rw [answered, refused]
    exact iff_of_false (by nofun) (by rintro ⟨_, _, _, ⟨⟩, -⟩)
  · rw [turn, parsed]
    simp only [Except.ok.injEq, Json.array.injEq]
    rw [← Request.entriesFrom_eq_error_iff]
    cases Request.entriesFrom 0 items with
    | error refusal =>
        change Response.answer given (.error refusal) = _ ↔ _
        rw [Response.answer.injEq, Except.error.injEq, Except.error.injEq]
        exact and_iff_right rfl
    | ok entries => exact iff_of_false (by nofun) (by nofun)

end Request

/-! ## In a file -/

/-- The text of an array starts with a blank or a bracket. -/
theorem unmarked_of_isArrayText (list : Json.IsArrayText text) :
    text.toList.head? ≠ some Encoding.markChar := by
  obtain ⟨blanks, rest, shape, blank⟩ := list.opens
  rw [shape]
  cases blanks with
  | nil => exact fun first => absurd (Option.some.inj first) (by decide)
  | cons c blanks =>
      intro first
      obtain rfl := Option.some.inj first
      exact absurd (blank _ List.mem_cons_self) (by decide)

/-- What comes of the one source is what the text in the file is read as. -/
theorem trial_of_onlySource (list : Json.IsArrayText text)
    (only : session.OnlySource world.disk sources path text) {name : String}
    (file : Dictionary.Source.ofText world.disk session.directory name = .file path) :
    (Dictionary.trial world.disk session.directory world.network name).result =
      Dictionary.ofText path.text text := by
  rw [Dictionary.trial, file]
  change (Dictionary.ofFile world.disk path).value = _
  unfold Dictionary.ofFile
  rcases only.holds with read | read
  · rw [read]
    dsimp only
    rw [Encoding.decode_encodeUtf8 (unmarked_of_isArrayText list), String.ofList_toList]
  · rw [read]
    dsimp only
    rw [Encoding.decode_marked, String.ofList_toList]

theorem loadDictionary_of_ok (list : Json.IsArrayText text)
    (only : session.OnlySource world.disk sources path text)
    (loads : Dictionary.ofText path.text text = .ok entries) :
    (session.loadDictionary world sources).result =
        .ok (session.loadDictionary world sources).session.info ∧
      (session.loadDictionary world sources).session =
        (session.replaceDictionary entries path.text).value := by
  obtain ⟨name, alone, file⟩ := only.only
  have tried := (trial_of_onlySource session world list only file).trans loads
  have acquired := Dictionary.loadFirstAfter_of_ok "no sources configured" [] tried
  rw [file] at acquired
  constructor
  · simp only [loadDictionary, Dictionary.loadFirst, alone, acquired]
  · simp only [loadDictionary, Dictionary.loadFirst, alone, acquired]
    rfl

theorem loadDictionary_of_error {failure : Failure} (list : Json.IsArrayText text)
    (only : session.OnlySource world.disk sources path text)
    (fails : Dictionary.ofText path.text text = .error failure) :
    ∃ failureToo, (session.loadDictionary world sources).result = .error failureToo := by
  obtain ⟨name, alone, file⟩ := only.only
  have tried := (trial_of_onlySource session world list only file).trans fails
  have acquired := Dictionary.loadFirstAfter_of_error "no sources configured" [] tried
  simp only [loadDictionary, Dictionary.loadFirst, alone, acquired]
  exact ⟨_, rfl⟩

/-- A line that asks for a change is answered with what the change comes to. -/
theorem handle_change {line : String} {change : Change}
    (asked : asked? line = some (.change change)) :
    ∃ id notes, session.handle world line =
      session.perform (world.tell notes) id (.ok (.change change)) := by
  cases parsed : Json.parse line with
  | error error => cases (asked?_of_error parsed).symm.trans asked
  | ok value =>
      rw [asked?_of_ok parsed] at asked
      cases action : (Request.ofJson value).action with
      | error refusal =>
          rw [action] at asked
          cases asked
      | ok act =>
          rw [action] at asked
          obtain rfl := Option.some.inj asked
          exact ⟨(Request.ofJson value).id,
            [⟨.debug, "[protocol] " ++ (Request.ofJson value).command⟩],
            by simp only [handle, parsed, action]⟩

theorem load_accepted {line : String} (asked : asked? line = some (.change (.load sources)))
    (list : Json.IsArrayText text) (only : session.OnlySource world.disk sources path text)
    (loads : Dictionary.ofText path.text text = .ok entries) :
    let load := session.handle world line
    (∃ id, load.response = .answer id (.ok load.session.info.toJson)) ∧
      load.session = (session.replaceDictionary entries path.text).value := by
  intro load
  obtain ⟨id, notes, turn⟩ : ∃ id notes, load = _ := handle_change session world asked
  obtain ⟨result, after⟩ := loadDictionary_of_ok session (world.tell notes) list only loads
  rw [turn]
  refine ⟨⟨id, ?_⟩, after⟩
  simp only [perform, apply, Effect.map, result]
  rfl

/-- A dictionary is loaded from a file when its text lists entries. -/
theorem load_succeeds_iff {line : String} (asked : asked? line = some (.change (.load sources)))
    (list : Json.IsArrayText text) (only : session.OnlySource world.disk sources path text) :
    (session.handle world line).response.Succeeds ↔ ListsEntries text := by
  rw [← Dictionary.exists_ofText_iff path.text]
  cases loads : Dictionary.ofText path.text text with
  | ok entries =>
      obtain ⟨⟨id, answered⟩, -⟩ := load_accepted session world asked list only loads
      rw [answered, Response.succeeds_iff]
      exact iff_of_true rfl ⟨entries, rfl⟩
  | error failure =>
      obtain ⟨id, notes, turn⟩ := handle_change session world asked
      obtain ⟨failureToo, result⟩ :=
        loadDictionary_of_error session (world.tell notes) list only loads
      rw [turn, Response.succeeds_iff]
      simp only [perform, apply, Effect.map, result]
      exact iff_of_false Bool.noConfusion (by rintro ⟨_, ⟨⟩⟩)

/-- Whether a request hands over the text of an array or names the one file that holds it, the
    dictionary is accepted or refused alike. It is accepted just when every item of the array
    describes an entry, and then the sessions come to the same dictionary and answer alike but for
    the source. When the request is refused for an item, that is the first that describes no
    entry. -/
theorem set_agrees_with_load (session : Session) (world : World) {id text line : String}
    {given : Json} {sources : Option (List String)} {path : Disk.Path}
    (identified : Json.parse id = .ok given) (list : Json.IsArrayText text)
    (shallow : ∀ error, Json.parse (setRequest id text) = .error error → error.reason ≠ .tooDeep)
    (asked : asked? line = some (.change (.load sources)))
    (only : session.OnlySource world.disk sources path text) :
    let set := session.handle world (setRequest id text)
    let load := session.handle world line
    (set.response.Succeeds ↔ load.response.Succeeds) ∧
    (set.response.Succeeds ↔ ListsEntries text) ∧
    (set.response.Succeeds →
      set.response = .answer given (.ok set.session.info.toJson) ∧
      (∃ idToo, load.response = .answer idToo (.ok load.session.info.toJson)) ∧
      set.session.source = some "inline" ∧
      load.session = { set.session with source := some path.text } ∧
      load.session.info = { set.session.info with source := some path.text }) ∧
    (∀ position reason,
      set.response = .answer given (.error (.invalidEntry position reason)) ↔
        ∃ before item after, Json.parse text = .ok (.array (before ++ item :: after)) ∧
          position = before.length ∧ (∀ earlier ∈ before, earlier.DescribesEntry) ∧
          ¬item.DescribesEntry ∧ Entry.ofJson item = .error reason) := by
  intro set load
  have accepted := set_succeeds_iff session world identified list shallow
  have loaded := load_succeeds_iff session world asked list only
  refine ⟨accepted.trans loaded.symm, accepted, fun done => ?_,
    set_rejects_iff session world identified list shallow⟩
  obtain ⟨entries, loads⟩ := (Dictionary.exists_ofText_iff path.text text).mpr (accepted.mp done)
  obtain ⟨answered, after⟩ := set_accepted session world identified list shallow loads
  obtain ⟨⟨idToo, answeredToo⟩, afterToo⟩ := load_accepted session world asked list only loads
  have source : set.session.source = some "inline" := by
    rw [after]
    exact source_replaceDictionary session entries "inline"
  have apart : load.session = { set.session with source := some path.text } := by
    rw [afterToo, after]
    exact replaceDictionary_source session entries "inline" path.text
  refine ⟨answered, ⟨idToo, answeredToo⟩, source, apart, ?_⟩
  rw [apart]
  rfl

/-- An object that lacks a name and holds another field, an array, and an empty one. -/
theorem set_agrees_with_load_moon :
    let text := " [\x7b\"en\":\"Moon\",\"n\":1\x7d,[\"Stone\",\"Stein\"],[]] "
    let disk : Disk :=
      { nodes := [(["app"], .directory),
          (["app", "words.json"], .file (0xEF :: 0xBB :: 0xBF :: Text.encodeUtf8 text.toList))]
        workingDirectory := [] }
    let session : Session := { directory := ⟨"app"⟩, settings := {} }
    let path : Disk.Path := ⟨"app/words.json"⟩
    let line :=
      "\x7b\"cmd\":\"dictionary.load\",\"payload\":\x7b\"sources\":[\"words.json\"]\x7d\x7d"
    let set := session.handle { disk := disk } (setRequest "7" text)
    let load := session.handle { disk := disk } line
    Dictionary.ofText path.text text =
        .ok [⟨"Moon", "", ""⟩, ⟨"Stone", "Stein", ""⟩, ⟨"", "", ""⟩] ∧
      set.response.Succeeds ∧ load.response.Succeeds ∧
      load.session = { set.session with source := some path.text } := by
  intro text disk session path line set load
  have identified : Json.parse "7" = .ok (.number (.integer 7)) := by rfl
  have loads : Dictionary.ofText path.text text =
      .ok [⟨"Moon", "", ""⟩, ⟨"Stone", "Stein", ""⟩, ⟨"", "", ""⟩] := by
    decide +kernel
  have asked : asked? line = some (.change (.load (some ["words.json"]))) := by decide +kernel
  have list : Json.IsArrayText text := by
    obtain ⟨items, parsed, -⟩ := Dictionary.ofText_eq_ok_iff.mp loads
    exact Json.isArrayText_of_parse parsed
  have shallow (error : Json.Error) (refused : Json.parse (setRequest "7" text) = .error error) :
      error.reason ≠ .tooDeep := by
    have read : (Json.parse (setRequest "7" text)).toOption.isSome = true := by decide +kernel
    rw [refused] at read
    cases read
  have only : session.OnlySource disk (some ["words.json"]) path text :=
    ⟨⟨"words.json", rfl, by decide +kernel⟩, .inr (by decide +kernel)⟩
  obtain ⟨alike, listed, accepted, -⟩ :=
    set_agrees_with_load session { disk := disk } identified list shallow asked only
  have done : set.response.Succeeds :=
    listed.mpr ((Dictionary.exists_ofText_iff _ _).mp ⟨_, loads⟩)
  obtain ⟨-, -, -, apart, -⟩ := accepted done
  exact ⟨loads, done, alike.mp done, apart⟩

end Session
end Phrasebook
