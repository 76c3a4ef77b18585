import TouchOverlay.Control
import TouchOverlay.Json.Decode
import TouchOverlay.Json.Reader
import TouchOverlay.Json.Writer

/-!
# Layouts in JSON

Actions, keys and controls as JSON. An action is written as its integer and read from an integer or
a name. A control is one object; the members that describe its kind stand beside the others, with
`type` saying which kind it is. A control without an identifier gets one from an `IdSource`.
-/

namespace TouchOverlay

/-- Why a JSON value is not what it should be. -/
inductive DecodeError
  | mismatch
  | unknownAction (e : UnknownAction)
deriving DecidableEq, Inhabited

/-- A reading without an action in it, as one with. -/
def DecodeError.ofOption {α : Type} : Option α → Except DecodeError α
  | some a => .ok a
  | none => .error .mismatch

/-- A whole text read as one value. -/
def Json.decode {α : Type} (read : Json → Except DecodeError α) (s : String) :
    Except DecodeError α :=
  let (v, whole) := Json.read s
  match read v with
  | .ok a => if whole then .ok a else .error .mismatch
  | .error e => .error e

/-! ## Actions and keys -/

namespace ActionCode

/-- Reads an action from an integer of 32 bits or a name. -/
def ofJson : Json → Except DecodeError ActionCode
  | .string (some name) => (ActionCode.parse name).mapError .unknownAction
  | j =>
    match j.int? Int32.minValue.toInt Int32.maxValue.toInt with
    | some i => .ok (ofRaw (Int32.ofInt i))
    | none => .error .mismatch

def toJson (a : ActionCode) : Json := .int a.raw.toInt

def listOfText (s : String) : Except DecodeError (List ActionCode) :=
  Json.decode (Json.arrayM .mismatch ofJson) s

def listToText (as : List ActionCode) : String := (Json.array (as.map toJson)).write

end ActionCode

namespace Scancode

/-- Reads a key from its exact name. -/
def ofJson (j : Json) : Except DecodeError Scancode :=
  DecodeError.ofOption (j.word?.bind ofExactName?)

def listOfText (s : String) : Except DecodeError (List Scancode) :=
  Json.decode (Json.arrayM .mismatch ofJson) s

def listToText (ks : List Scancode) : String := (Json.array (ks.map fun k => .str k.name)).write

end Scancode

/-! ## Controls -/

namespace Placement

def ofJson? (j : Json) : Option Placement := do
  let fs ← j.fields? ["x", "y", "width", "height"]
  let x ← Json.required fs "x" Json.single?
  let y ← Json.required fs "y" Json.single?
  let width ← Json.required fs "width" Json.single?
  let height ← Json.required fs "height" Json.single?
  some { x, y, width, height }

def toJson (g : Placement) : Json :=
  .obj [("x", .single g.x), ("y", .single g.y), ("width", .single g.width),
    ("height", .single g.height)]

end Placement

namespace ControlKind

/-- The names of the kinds, in the order in which a number can stand for them. -/
def labels : List String := ["button", "dpad", "touchpad"]

/-- The name of a kind, from the name itself or from its number. -/
def tag? : Json → Option String
  | .string s => s.filter (· ∈ labels)
  | .number n => n.int?.bind fun i => if 0 ≤ i then labels[i.toNat]? else none
  | _ => none

/-- A member that is an action. -/
def checkAction (v : Json) : Except DecodeError Unit := (ActionCode.ofJson v).map fun _ => ()

/-- Reads a member of a button. -/
def checkButton (k : String) (v : Json) : Except DecodeError Unit :=
  if k = "action" then checkAction v else DecodeError.ofOption (v.bool?.map fun _ => ())

/-- An action among the members. -/
def action (fs : List (String × Json)) (name : String) : Except DecodeError ActionCode :=
  match fs.lookup name with
  | some v => ActionCode.ofJson v
  | none => .error .mismatch

/-- Reads the kind of a control from the members that describe it. -/
def ofMembers (ms : List (Option String × Json)) : Except DecodeError ControlKind := do
  let isTag := fun m : Option String × Json => m.1 = some "type"
  let label ← match ms.filter isTag with
    | [(_, v)] => DecodeError.ofOption (tag? v)
    | _ => .error .mismatch
  let ms := ms.filter (!isTag ·)
  if label = "button" then
    let fs ← Json.namedFields .mismatch ["action", "is_toggle"] checkButton [] ms
    let a ← action fs "action"
    let isToggle ← DecodeError.ofOption (Json.optional fs "is_toggle" false Json.bool?)
    .ok (.button a isToggle)
  else if label = "dpad" then
    let names := ["up", "right", "down", "left"]
    let fs ← Json.namedFields .mismatch names (fun _ => checkAction) [] ms
    let up ← action fs "up"
    let right ← action fs "right"
    let down ← action fs "down"
    let left ← action fs "left"
    .ok (.directionPad { up, right, down, left })
  else
    let fs ← Json.namedFields .mismatch ["double_tap_drag"]
      (fun _ v => DecodeError.ofOption (v.bool?.map fun _ => ())) [] ms
    let doubleTapDrag ← DecodeError.ofOption (Json.optional fs "double_tap_drag" true Json.bool?)
    .ok (.touchpad doubleTapDrag)

/-- The members that describe a kind. -/
def members : ControlKind → List (String × Json)
  | button a isToggle =>
    [("type", .str "button"), ("action", a.toJson), ("is_toggle", .bool isToggle)]
  | directionPad as =>
    [("type", .str "dpad"), ("up", as.up.toJson), ("right", as.right.toJson),
      ("down", as.down.toJson), ("left", as.left.toJson)]
  | touchpad doubleTapDrag =>
    [("type", .str "touchpad"), ("double_tap_drag", .bool doubleTapDrag)]

end ControlKind

namespace ControlConfig

/-- The members of a control that do not describe its kind. -/
def ownNames : List String := ["id", "name", "geometry", "pass_through"]

/-- How deep a member that describes the kind may be nested, in a control of a scenario. -/
def memberDepth : Nat := 124

/-- Reads a control; one without an identifier gets the next one of the source. -/
def ofJson (ids : IdSource) : Json → Except DecodeError (ControlConfig × IdSource)
  | .object ms => do
    let isOwn := fun m : Option String × Json => m.1.any (· ∈ ownNames)
    let others := ms.filter (!isOwn ·)
    if !Json.allHoldableMembers memberDepth others then .error .mismatch
    let fs ← Json.namedFields .mismatch ownNames (fun _ _ => .ok ()) [] (ms.filter isOwn)
    let given ← DecodeError.ofOption
      (Json.optional fs "id" none fun v => v.string?.bind fun s => (ControlId.parse? s).map some)
    let name ← DecodeError.ofOption (Json.optional fs "name" "" Json.string?)
    let placement ← DecodeError.ofOption (Json.required fs "geometry" Placement.ofJson?)
    let passThrough ← DecodeError.ofOption (Json.optional fs "pass_through" false Json.bool?)
    let kind ← ControlKind.ofMembers others
    let (id, ids) := match given with
      | some id => (id, ids)
      | none => ids.fresh
    .ok ({ id, name, placement, passThrough, kind }, ids)
  | _ => .error .mismatch

def listOfItems : IdSource → List Json → Except DecodeError (List ControlConfig × IdSource)
  | ids, [] => .ok ([], ids)
  | ids, v :: vs => do
    let (c, ids) ← ofJson ids v
    let (cs, ids) ← listOfItems ids vs
    .ok (c :: cs, ids)

def listOfJson (ids : IdSource) : Json → Except DecodeError (List ControlConfig × IdSource)
  | .array items => listOfItems ids items
  | _ => .error .mismatch

def toJson (c : ControlConfig) : Json :=
  .obj ([("id", .str c.id.text), ("name", .str c.name), ("geometry", c.placement.toJson),
    ("pass_through", .bool c.passThrough)] ++ c.kind.members)

end ControlConfig

end TouchOverlay
