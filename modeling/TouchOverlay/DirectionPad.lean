import TouchOverlay.Services

/-!
# Direction pads

A direction pad is a grid of three by three cells under one contact. A cell at an edge selects one
direction, a corner selects two, the middle selects none. When the contact slides, the directions
that it leaves are released first and the ones it enters are pressed then, each in the order up,
right, down, left; directions that stay selected stay held.
-/

namespace TouchOverlay

inductive Direction
  | up
  | right
  | down
  | left
deriving DecidableEq, Inhabited

namespace Direction

/-- Every direction, in the order of their requests. -/
def all : List Direction := [up, right, down, left]

def name : Direction → String
  | up => "up"
  | right => "right"
  | down => "down"
  | left => "left"

end Direction

/-- One value for each direction. -/
@[ext]
structure Directions (α : Type) where
  up : α
  right : α
  down : α
  left : α
deriving DecidableEq, Inhabited

namespace Directions

variable {α β : Type}

def get (v : Directions α) : Direction → α
  | .up => v.up
  | .right => v.right
  | .down => v.down
  | .left => v.left

/-- The values in the order up, right, down, left. -/
def toList (v : Directions α) : List α := [v.up, v.right, v.down, v.left]

def none : Directions Bool := ⟨false, false, false, false⟩

end Directions

/-- A third of the width or height of a pad. -/
inductive Third
  | first
  | middle
  | last
deriving DecidableEq, Inhabited

/-- The third of an extent that a coordinate lies in, the outer thirds reaching to infinity. A pad
without extent is all middle; a coordinate that is not a number lies in the first third. -/
def Third.ofCoordinate (v extent : Float32) : Third :=
  if extent ≤ 0 then middle
  else
    let cell := v / (extent / 3)
    if 2 ≤ cell then last else if 1 ≤ cell then middle else first

/-- The directions that a local position selects. -/
def Directions.selectedAt (p : Point) (bounds : Rect) : Directions Bool :=
  let column := Third.ofCoordinate p.x bounds.width
  let row := Third.ofCoordinate p.y bounds.height
  { up := row = .first, right := column = .last, down := row = .last, left := column = .first }

/-- A direction pad and its session. -/
structure DirectionPad where
  actions : Directions ActionCode
  pointer? : Option PointerId := none
  held : Directions Bool := .none
deriving DecidableEq, Inhabited

namespace DirectionPad

/-- The request for one direction; one whose action injects nothing asks for nothing. -/
def send (pad : DirectionPad) (down : Bool) (anchor : Point) (dir : Direction) : Option Request :=
  let action := pad.actions.get dir
  if action.isDispatchable then some (.dispatch action down anchor) else none

/-- The directions that are held and not selected. -/
def leaving (pad : DirectionPad) (selected : Directions Bool) : List Direction :=
  Direction.all.filter fun d => pad.held.get d && !selected.get d

/-- The directions that are selected and not held. -/
def entering (pad : DirectionPad) (selected : Directions Bool) : List Direction :=
  Direction.all.filter fun d => selected.get d && !pad.held.get d

/-- The requests that lead from the held directions to the selected ones. -/
def transition (pad : DirectionPad) (selected : Directions Bool) (anchor : Point) : List Request :=
  (pad.leaving selected).filterMap (pad.send false anchor) ++
    (pad.entering selected).filterMap (pad.send true anchor)

/-- A contact begins. A second contact is ignored. -/
def down (site : Site) (p : PointerId) (spot : Point) (pad : DirectionPad) (d : Desk) :
    Reaction DirectionPad :=
  match pad.pointer?, site.take? p d with
  | none, some d' =>
    let selected := Directions.selectedAt spot site.bounds
    { state := { pad with pointer? := some p, held := selected }
      desk := d'
      requests := .pulse :: pad.transition selected site.anchor }
  | _, _ => .ignored pad d

def move (site : Site) (p : PointerId) (spot : Point) (pad : DirectionPad) (d : Desk) :
    Reaction DirectionPad :=
  if pad.pointer? = some p then
    let selected := Directions.selectedAt spot site.bounds
    { state := { pad with held := selected }
      desk := d
      requests := pad.transition selected site.anchor }
  else .ignored pad d

/-- Releases every held direction and lets go of the contact. -/
def release (site : Site) (p : PointerId) (pad : DirectionPad) (d : Desk) :
    Reaction DirectionPad :=
  { state := { pad with pointer? := none, held := .none }
    desk := site.drop p d
    requests := pad.transition .none site.anchor }

def up (site : Site) (p : PointerId) (pad : DirectionPad) (d : Desk) : Reaction DirectionPad :=
  if pad.pointer? = some p then pad.release site p d else .ignored pad d

def detach (site : Site) (pad : DirectionPad) (d : Desk) : Reaction DirectionPad :=
  match pad.pointer? with
  | some p => pad.release site p d
  | none => .ignored pad d

def label (pad : DirectionPad) : String :=
  match Direction.all.filter pad.held.get with
  | [] => "released"
  | held => "+".intercalate (held.map Direction.name)

end DirectionPad

end TouchOverlay
