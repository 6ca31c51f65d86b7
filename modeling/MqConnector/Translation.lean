/-
This file models `TranslateStage` and `TranslateFormat` of `internal/pipeline`, and asks what a chain that
begins with a translation to JSON makes of a protobuf payload.

`Detect` knows no protobuf. It takes a payload for JSON, for XML or for bytes by its first bytes, so the
first stage never gets to the branch that decodes with the schema. It passes the payload on, reads it as
XML, or fails.
-/

import MqConnector.Preview

namespace MqConnector

namespace Translation

open DryRun (formatText)

/-! ### The stage -/

/-- `ProtoSchema`: what the protobuf library does with one message type. -/
structure ProtoSchema where
  toJSON : Bytes → Except String Bytes
  fromJSON : Bytes → Except String Bytes

/-- `encoding/json` and `mxj` on maps. -/
structure MapLibrary (Document : Type) where
  newMapXml : Bytes → Except String Document
  xml : Document → Except String Bytes
  unmarshal : Bytes → Except String Document
  marshal : Document → Except String Bytes

section Stage

variable {Document : Type} (library : MapLibrary Document)

def xmlToJSON (message : Bytes) : Except String Bytes := do
  let mv ← (library.newMapXml message).mapError ("translate xml→json: parse: " ++ ·)
  (library.marshal mv).mapError ("translate xml→json: marshal: " ++ ·)

def jsonToXML (message : Bytes) : Except String Bytes := do
  let data ← (library.unmarshal message).mapError ("translate json→xml: parse: " ++ ·)
  (library.xml data).mapError ("translate json→xml: marshal: " ++ ·)

def translateFormat (message : Bytes) (src : Format) (dst : String) : Except String (Bytes × Format) :=
  if dst = "" ∨ dst = "same" ∨ dst = formatText src then .ok (message, src)
  else if src = .xml ∧ dst = "json" then (xmlToJSON library message).map (·, .json)
  else if src = .json ∧ dst = "xml" then (jsonToXML library message).map (·, .xml)
  else .error ("translate " ++ formatText src ++ "→" ++ dst ++ ": unsupported")

def output (translated : Bytes × Format) : StageOutput :=
  { body := translated.1, format := some translated.2, result := none }

/-- `TranslateStage.Execute`. -/
def execute (target : String) (proto : Option ProtoSchema) (message : Bytes) (format : Format) :
    Except String StageOutput :=
  if target = "" ∨ target = "same" ∨ target = formatText format then .ok (output (message, format))
  else if format = .protobuf ∧ target = "json" then
    match proto with
    | none => .error "translate proto→json: no schema configured"
    | some schema => (schema.toJSON message).map fun out => output (out, .json)
  else if format = .json ∧ target = "protobuf" then
    match proto with
    | none => .error "translate json→proto: no schema configured"
    | some schema => (schema.fromJSON message).map fun out => output (out, .protobuf)
  else if target = "protobuf" then
    .error ("translate " ++ formatText format ++ "→protobuf: no schema configured")
  else (translateFormat library message format target).map output

def translateStage {World : Type} (target : String) (proto : Option ProtoSchema) : Stage World where
  name := "translate"
  execute _ message format := execute library target proto message format

end Stage

/-! ### A protobuf source -/

section Source

variable {Document : Type} (library : MapLibrary Document) (schema : ProtoSchema) (payload : Bytes)

/-- What the chain goes on with after translations to these texts. -/
def goesOn (texts : List (Bytes × Format)) (body : Bytes) : StageOutcome where
  body := body
  format := .json
  route := none
  runs := texts.map fun text => { name := "translate", failed := false, body := text.1, format := text.2 }

/-- A chain that begins with the translation to JSON goes on with the JSON of a valid message, and fails at
its first stage for any other payload. -/
structure TranslatesSource : Prop where
  feeds : ∀ out, schema.toJSON payload = .ok out → ∀ {World : Type} (world : World) (rest : List (Stage World)),
    runStages world (translateStage library "json" (some schema) :: rest) payload =
      runStagesFrom world rest (goesOn [(out, .json)] out)
  refuses : ∀ err, schema.toJSON payload = .error err → ∀ {World : Type} (world : World) (rest : List (Stage World)),
    ∃ failure run, runStages world (translateStage library "json" (some schema) :: rest) payload = .error failure ∧
      failure.runs = [run] ∧ run.failed = true

/-- A JSON message that is translated to protobuf and back. -/
def ComesBack : Prop :=
  ∀ message encoded out, detect message = .json → schema.fromJSON message = .ok encoded →
    schema.toJSON encoded = .ok out → ∀ {World : Type} (world : World) (rest : List (Stage World)),
      runStages world (translateStage library "protobuf" (some schema) ::
          translateStage library "json" (some schema) :: rest) message =
        runStagesFrom world rest (goesOn [(encoded, .protobuf), (out, .json)] out)

/-- What the payload is taken for gives the JSON of the message, or fails as the schema does. -/
def GuessedRight : Prop :=
  match detect payload with
  | .json => schema.toJSON payload = .ok payload
  | .xml => (schema.toJSON payload).toOption = (xmlToJSON library payload).toOption
  | _ => (schema.toJSON payload).toOption = none

theorem comesBack : ComesBack library schema := by
  intro message encoded out json accepted decoded World world rest
  rw [runStages, runStagesFrom, json]
  have first : (translateStage library "protobuf" (some schema) : Stage World).execute world message .json =
      .ok (output (encoded, .protobuf)) := by
    simp [translateStage, execute, formatText, accepted, Except.map]
  have second : (translateStage library "json" (some schema) : Stage World).execute world encoded .protobuf =
      .ok (output (out, .json)) := by
    simp [translateStage, execute, formatText, decoded, Except.map]
  rw [first]
  dsimp only [output, Option.getD]
  rw [runStagesFrom]
  dsimp only
  rw [second]
  rfl

/-- The stage writes what it guesses of the payload, which is what the schema says exactly where it
guesses right. -/
theorem execute_json : ∃ guessed : Except String Bytes,
    execute library "json" (some schema) payload (detect payload) = guessed.map (fun out => output (out, .json)) ∧
      (GuessedRight library schema payload ↔ (schema.toJSON payload).toOption = guessed.toOption) := by
  rw [GuessedRight]
  cases found : detect payload with
  | json =>
    refine ⟨.ok payload, rfl, ?_⟩
    cases schema.toJSON payload with
    | error err => simp [Except.toOption]
    | ok out => simp [Except.toOption]
  | xml =>
    refine ⟨xmlToJSON library payload, ?_, Iff.rfl⟩
    simp only [execute, translateFormat, formatText]
    cases xmlToJSON library payload with
    | error err => rfl
    | ok out => rfl
  | protobuf =>
    rw [detect] at found
    split at found
    · cases found
    · split at found
      · cases found
      · cases found
  | bytes => exact ⟨.error "translate bytes→json: unsupported", rfl, Iff.rfl⟩

/-- A protobuf payload is translated exactly if what it is taken for happens to come out as its message does; the
way there and back always works. -/
theorem translatesSource_iff :
    TranslatesSource library schema payload ∧ ComesBack library schema ↔ GuessedRight library schema payload := by
  rw [and_iff_left (comesBack library schema)]
  obtain ⟨guessed, executed, right⟩ := execute_json library schema payload
  have runs {World : Type} (world : World) (rest : List (Stage World)) :
      runStages world (translateStage library "json" (some schema) :: rest) payload =
        match guessed with
        | .ok out => runStagesFrom world rest (goesOn [(out, .json)] out)
        | .error err => .error ⟨"translate: " ++ err, [⟨"translate", true, payload, detect payload, err⟩]⟩ := by
    rw [runStages, runStagesFrom, show (translateStage library "json" (some schema) : Stage World).execute world
      payload (detect payload) = _ from executed]
    cases guessed with
    | error err => rfl
    | ok out => rfl
  rw [right]
  constructor
  · rintro ⟨feeds, refuses⟩
    cases decoded : schema.toJSON payload with
    | error err =>
      obtain ⟨failure, run, failed, -⟩ := refuses err decoded () []
      rw [runs] at failed
      cases guessed with
      | error other => rfl
      | ok other => cases failed
    | ok out =>
      have done := feeds out decoded () []
      rw [runs] at done
      cases guessed with
      | error other => cases done
      | ok other => exact congrArg some (congrArg StageOutcome.body (Except.ok.inj done)).symm
  · intro same
    refine ⟨fun out decoded World world rest => ?_, fun err decoded World world rest => ?_⟩
    · rw [decoded] at same
      rw [runs]
      cases guessed with
      | error other => cases same
      | ok other =>
        obtain rfl := Option.some.inj same
        rfl
    · rw [decoded] at same
      rw [runs]
      cases guessed with
      | error other => exact ⟨_, _, rfl, rfl, rfl⟩
      | ok other => cases same

end Source

/-! ### A message that is taken for bytes -/

/-- Reads the message whose field 1 is 1. -/
def oneSchema : ProtoSchema where
  toJSON body := if body = [0x08, 0x01] then .ok [0x7b, 0x22, 0x69, 0x64, 0x22, 0x3a, 0x31, 0x7d]
    else .error "proto→json: unmarshal proto"
  fromJSON _ := .error "json→proto: unmarshal json"

/-- A nested message is taken for bytes and does not come back. -/
theorem message_taken_for_bytes :
    ¬ ∀ library : MapLibrary Unit, TranslatesSource library oneSchema [0x08, 0x01] ∧ ComesBack library oneSchema := by
  intro translated
  let library : MapLibrary Unit := ⟨fun _ => .ok (), fun _ => .ok [], fun _ => .ok (), fun _ => .ok []⟩
  have done := (translated library).1.feeds _ rfl () []
  have failed : (runStages () [translateStage library "json" (some oneSchema)] [0x08, 0x01]).toOption = none := by
    decide
  rw [done] at failed
  cases failed

end Translation

end MqConnector
