import TouchOverlay.Output
import TouchOverlay.TimerQueue

/-!
# What controls share

`Services` are the fixed collaborators and constants of a surface, `Desk` is the state that its
controls share, and a `Reaction` is what one call on a control leaves behind.
-/

namespace TouchOverlay

/-- Times and distances of the touchpad's gestures. -/
structure Tuning where
  /-- The time after a press in which a second press makes a double tap. -/
  idleTimeout : Millis := 200
  /-- The time between the press and the release of a click. -/
  clickTimeout : Millis := 50
  /-- How far a press may move, in device-independent units, before it is a drag. -/
  moveThreshold : Float32 := 5
  /-- Cursor movement per finger movement. -/
  moveRatio : Float32 := 2
deriving Inhabited

/-- The collaborators of a surface. -/
structure Services where
  haptic : Option HapticPulse := none
  density : Density := {}
  tuning : Tuning := {}
  /-- Whether the bridge takes injected input; if not, it rejects every event of it. -/
  accepting : Bool := true
deriving Inhabited

namespace Services

/-- How far a press may move, in pixels, before it is a drag. -/
def moveThreshold (sv : Services) : Float32 := sv.density.toPixels sv.tuning.moveThreshold

def recorder (sv : Services) : Recorder := { accepting := sv.accepting }

/-- The events that requests become, in order. -/
def events (sv : Services) (rs : List Request) : List OutputEvent :=
  rs.filterMap (Request.event? sv.haptic)

end Services

/-- The pointers and the timers that the controls of a surface share. -/
@[ext]
structure Desk where
  claims : Claims := {}
  timers : TimerQueue := {}
deriving Inhabited

/-- The fixed surroundings of one call on a control. -/
structure Site where
  id : ControlId
  passThrough : Bool
  bounds : Rect
  surface : SurfaceSize
deriving Inhabited

namespace Site

/-- Where the control's mouse actions happen. -/
def anchor (s : Site) : Point := s.bounds.center

/-- Takes a pointer for the control, or refuses. -/
def take? (s : Site) (p : PointerId) (d : Desk) : Option Desk :=
  (d.claims.take? p s.id s.passThrough).map fun c => { d with claims := c }

/-- Lets go of a pointer that the control has taken. -/
def drop (s : Site) (p : PointerId) (d : Desk) : Desk :=
  { d with claims := d.claims.drop p s.id s.passThrough }

/-- Schedules a timer for the control. -/
def schedule (s : Site) (delay : Millis) (d : Desk) : TimerHandle × Desk :=
  let (h, q) := d.timers.schedule s.id delay
  (h, { d with timers := q })

end Site

/-- The desk without a timer. -/
def Desk.cancel (d : Desk) (h : TimerHandle) : Desk :=
  { d with timers := (d.timers.cancel h).2 }

/-- What one call leaves: the new state, the shared desk, the requests in order, and whether the
touch was taken. -/
structure Reaction (σ : Type) where
  state : σ
  desk : Desk
  requests : List Request := []
  consumed : Bool := true

namespace Reaction

/-- The answer to a touch that is none of the control's business. -/
def ignored {σ : Type} (state : σ) (desk : Desk) : Reaction σ :=
  { state, desk, consumed := false }

/-- The same reaction seen as that of a larger state. -/
def map {σ τ : Type} (f : σ → τ) (r : Reaction σ) : Reaction τ := { r with state := f r.state }

end Reaction

end TouchOverlay
