import TouchOverlay.Layout.Json
import TouchOverlay.Surface.Touch

/-!
# Scenarios

A scenario is the size of a surface, its controls from bottom to top, and touches with their times.
It is stored as JSON. `Scenario.validate` accepts a surface of positive size with touches whose
times never decrease, and names the first touch that goes back in time.
-/

namespace TouchOverlay

/-- A surface, its controls, and the touches on it. -/
structure Scenario where
  surface : SurfaceSize
  controls : List ControlConfig := []
  events : List TouchEvent := []
deriving BEq, Inhabited

/-- The content of a file, or why there is none. -/
inductive FileContent
  | bytes (b : ByteArray)
  | missing
  | unreadable

/-- The text of a file, if the file can be read and is well-formed UTF-8. -/
def FileContent.text? : FileContent → Option String
  | bytes b => String.fromUTF8? b
  | _ => none

/-- Why a scenario cannot be used. -/
inductive ScenarioError
  | io
  | parse (e : DecodeError)
  | layout (e : LayoutError)
  | emptySurface
  | outOfOrder (index : Nat) (time previous : Millis)
deriving DecidableEq, Inhabited

/-- The sentence that reports an unusable scenario, where it does not depend on the system. -/
def ScenarioError.message? : ScenarioError → Option String
  | io => none
  | parse .mismatch => none
  | parse (.unknownAction e) => some e.message
  | layout e => some s!"invalid scenario layout: {e.message}"
  | emptySurface => some "scenario surface must have a positive size"
  | outOfOrder index time previous =>
    some s!"event {index} goes back in time ({time} ms after {previous} ms)"

/-! ## Parts -/

def SurfaceSize.ofJson? (j : Json) : Option SurfaceSize := do
  let fs ← j.fields? ["width", "height"]
  let width ← Json.required fs "width" Json.single?
  let height ← Json.required fs "height" Json.single?
  some { width, height }

def SurfaceSize.toJson (s : SurfaceSize) : Json :=
  .obj [("width", .single s.width), ("height", .single s.height)]

namespace TouchPhase

def word : TouchPhase → String
  | down => "down"
  | move => "move"
  | up => "up"
  | cancel => "cancel"

def ofWord? (s : String) : Option TouchPhase := [down, move, up, cancel].find? (·.word = s)

end TouchPhase

namespace TouchEvent

/-- The members of a touch that do not describe its position. -/
def ownNames : List String := ["pointer", "phase", "time_ms"]

def ofJson? : Json → Option TouchEvent
  | .object ms => do
    let isOwn := fun m : Option String × Json => m.1.any (· ∈ ownNames)
    let others := ms.filter (!isOwn ·)
    if !Json.allHoldableMembers ControlConfig.memberDepth others then none
    let own ← (Json.object (ms.filter isOwn)).fields? ownNames
    let spot ← (Json.object others).fields? ["x", "y"]
    let pointer ← Json.required own "pointer" Json.uint32?
    let phase ← Json.required own "phase" fun v => v.word?.bind TouchPhase.ofWord?
    let time ← Json.required own "time_ms" Json.uint64?
    let x ← Json.required spot "x" Json.single?
    let y ← Json.required spot "y" Json.single?
    some { pointer, phase, position := ⟨x, y⟩, time }
  | _ => none

def listOfJson? : Json → Option (List TouchEvent)
  | .array items => items.mapM ofJson?
  | _ => none

def toJson (e : TouchEvent) : Json :=
  .obj [("pointer", .int e.pointer.toNat), ("phase", .str e.phase.word),
    ("x", .single e.position.x), ("y", .single e.position.y), ("time_ms", .int e.time.toNat)]

end TouchEvent

/-! ## The whole -/

namespace Scenario

def names : List String := ["surface", "controls", "events"]

/-- Whether a part of a scenario can be read. -/
def checkPart (k : String) (v : Json) : Except DecodeError Unit :=
  if k = "surface" then (DecodeError.ofOption (SurfaceSize.ofJson? v)).map fun _ => ()
  else if k = "controls" then (ControlConfig.listOfJson {} v).map fun _ => ()
  else (DecodeError.ofOption (TouchEvent.listOfJson? v)).map fun _ => ()

def ofJson (ids : IdSource) (j : Json) : Except DecodeError Scenario := do
  let fs ← j.fields .mismatch names checkPart
  let surface ← DecodeError.ofOption (Json.required fs "surface" SurfaceSize.ofJson?)
  let (controls, _) ← match fs.lookup "controls" with
    | some v => ControlConfig.listOfJson ids v
    | none => .ok ([], ids)
  let events ← DecodeError.ofOption (Json.optional fs "events" [] TouchEvent.listOfJson?)
  .ok { surface, controls, events }

def toJson (s : Scenario) : Json :=
  .obj [("surface", s.surface.toJson), ("controls", .array (s.controls.map ControlConfig.toJson)),
    ("events", .array (s.events.map TouchEvent.toJson))]

/-- The first touch that goes back in time, given the number and time of the one before. -/
def firstDisorder? : Nat → Millis → List TouchEvent → Option ScenarioError
  | _, _, [] => none
  | n, previous, e :: es =>
    if e.time < previous then some (.outOfOrder (n + 1) e.time previous)
    else firstDisorder? (n + 1) e.time es

/-- What is wrong with a scenario. -/
def fault? (s : Scenario) : Option ScenarioError :=
  if 0 < s.surface.width ∧ 0 < s.surface.height then
    match s.events with
    | [] => none
    | e :: es => firstDisorder? 0 e.time es
  else some .emptySurface

def validate (s : Scenario) : Except ScenarioError Scenario :=
  match s.fault? with
  | some e => .error e
  | none => .ok s

/-- Reads and validates a scenario. -/
def ofText (ids : IdSource) (s : String) : Except ScenarioError Scenario := do
  let scenario ← (Json.decode (ofJson ids) s).mapError .parse
  scenario.validate

def toText (s : Scenario) : String := s.toJson.write

/-- Reads and validates a scenario file. -/
def load (ids : IdSource) (file : FileContent) : Except ScenarioError Scenario :=
  match file.text? with
  | some s => ofText ids s
  | none => .error .io

/-- The surface with the scenario's controls, and nothing happened on it yet. -/
def buildSurface (s : Scenario) : Except ScenarioError Surface :=
  match (Surface.empty s.surface).replaceLayout s.controls with
  | .ok r => .ok r.state
  | .error e => .error (.layout e)

end Scenario

end TouchOverlay
