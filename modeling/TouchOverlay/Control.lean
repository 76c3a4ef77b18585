import TouchOverlay.Button
import TouchOverlay.DirectionPad
import TouchOverlay.Touchpad

/-!
# Controls

A `ControlConfig` describes a control of a layout, and a `Control` is one that is mounted on a
surface: its description, its rectangle, and the session of its kind.
-/

namespace TouchOverlay

/-- What kind of control a layout asks for. -/
inductive ControlKind
  | button (action : ActionCode) (isToggle : Bool)
  | directionPad (actions : Directions ActionCode)
  | touchpad (doubleTapDrag : Bool)
deriving DecidableEq, Inhabited

def ControlKind.label : ControlKind → String
  | button _ _ => "button"
  | directionPad _ => "dpad"
  | touchpad _ => "touchpad"

/-- One control of a layout. -/
structure ControlConfig where
  id : ControlId
  name : String := ""
  placement : Placement
  /-- A pass-through control never withholds its contacts from the application below. -/
  passThrough : Bool := false
  kind : ControlKind
deriving BEq, Inhabited

/-- A kind of control together with its session. -/
inductive Behaviour
  | button (b : Button)
  | directionPad (pad : DirectionPad)
  | touchpad (pad : Touchpad)
deriving Inhabited

namespace Behaviour

/-- A control of the kind, in its initial state. -/
def ofKind : ControlKind → Behaviour
  | .button action isToggle => button { action, isToggle }
  | .directionPad actions => directionPad { actions }
  | .touchpad doubleTapDrag => touchpad { doubleTapDrag }

def kind : Behaviour → ControlKind
  | button b => .button b.action b.isToggle
  | directionPad pad => .directionPad pad.actions
  | touchpad pad => .touchpad pad.doubleTapDrag

/-- The pointer of the contact on the control. -/
def pointer? : Behaviour → Option PointerId
  | button b => b.pointer?
  | directionPad pad => pad.pointer?
  | touchpad pad => pad.pointer?

def label : Behaviour → String
  | button b => b.label
  | directionPad pad => pad.label
  | touchpad pad => pad.phase.label

variable (sv : Services) (site : Site) (p : PointerId) (spot : Point) (d : Desk)

def down : Behaviour → Reaction Behaviour
  | button b => (b.down site p d).map button
  | directionPad pad => (pad.down site p spot d).map directionPad
  | touchpad pad => (pad.down sv site p spot d).map touchpad

def move : Behaviour → Reaction Behaviour
  | button b => (b.move p d).map button
  | directionPad pad => (pad.move site p spot d).map directionPad
  | touchpad pad => (pad.move sv site p spot d).map touchpad

def up : Behaviour → Reaction Behaviour
  | button b => (b.up site p d).map button
  | directionPad pad => (pad.up site p d).map directionPad
  | touchpad pad => (pad.up site p d).map touchpad

/-- A timer fires. Only touchpads schedule timers. -/
def timer (h : TimerHandle) : Behaviour → Reaction Behaviour
  | touchpad pad => (pad.timer sv site h d).map touchpad
  | b => .ignored b d

def resetToggle : Behaviour → Reaction Behaviour
  | button b => (b.resetToggle site d).map button
  | b => .ignored b d

def detach : Behaviour → Reaction Behaviour
  | button b => (b.detach site d).map button
  | directionPad pad => (pad.detach site d).map directionPad
  | touchpad pad => (pad.detach site d).map touchpad

/-- Whether the idle window of a touchpad is open. -/
def isPending : Behaviour → Bool
  | touchpad pad => pad.phase.isPending
  | _ => false

@[simp] theorem kind_ofKind (k : ControlKind) : (ofKind k).kind = k := by
  cases k <;> rfl

@[simp] theorem pointer?_ofKind (k : ControlKind) : (ofKind k).pointer? = none := by
  cases k <;> rfl

end Behaviour

/-- A mounted control. -/
structure Control where
  id : ControlId
  name : String
  placement : Placement
  passThrough : Bool
  bounds : Rect
  behaviour : Behaviour
deriving Inhabited

namespace Control

/-- The control of a layout, mounted on a surface of the given size. -/
def mount (size : SurfaceSize) (c : ControlConfig) : Control :=
  { id := c.id
    name := c.name
    placement := c.placement
    passThrough := c.passThrough
    bounds := c.placement.resolve size
    behaviour := .ofKind c.kind }

/-- The description that the control was mounted from. -/
def config (c : Control) : ControlConfig :=
  { id := c.id
    name := c.name
    placement := c.placement
    passThrough := c.passThrough
    kind := c.behaviour.kind }

/-- The surroundings of a call on the control. -/
def site (c : Control) (size : SurfaceSize) : Site :=
  { id := c.id, passThrough := c.passThrough, bounds := c.bounds, surface := size }

def pointer? (c : Control) : Option PointerId := c.behaviour.pointer?

variable (sv : Services) (size : SurfaceSize) (p : PointerId) (c : Control) (d : Desk)

/-- The reaction of the behaviour as one of the control. -/
def react (r : Reaction Behaviour) : Reaction Control := r.map ({ c with behaviour := · })

def down (spot : Point) : Reaction Control :=
  c.react (c.behaviour.down sv (c.site size) p (c.bounds.toLocal spot) d)

def move (spot : Point) : Reaction Control :=
  c.react (c.behaviour.move sv (c.site size) p (c.bounds.toLocal spot) d)

def up : Reaction Control := c.react (c.behaviour.up (c.site size) p d)

def timer (h : TimerHandle) : Reaction Control := c.react (c.behaviour.timer sv (c.site size) d h)

def resetToggle : Reaction Control := c.react (c.behaviour.resetToggle (c.site size) d)

def detach : Reaction Control := c.react (c.behaviour.detach (c.site size) d)

@[simp] theorem config_mount (cfg : ControlConfig) : (mount size cfg).config = cfg := by
  simp [mount, config]

end Control

end TouchOverlay
