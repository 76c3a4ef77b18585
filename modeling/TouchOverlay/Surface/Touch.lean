import TouchOverlay.Surface

/-!
# Touches and timers on a surface

A contact that begins is offered to the controls from top to bottom; the first one whose rectangle
contains the point and that takes the contact owns it until it lifts, wherever it moves. Timers due
at the time of a touch fire before it. `advance` delivers the timers that are due one by one; each
delivery lowers the surface's `pendingWork`, which bounds their number.
-/

namespace TouchOverlay

inductive TouchPhase
  | down
  | move
  | up
  | cancel
deriving DecidableEq, Inhabited

/-- One touch in surface pixels. -/
structure TouchEvent where
  pointer : PointerId
  phase : TouchPhase
  position : Point
  /-- When the touch happened, on the surface's clock. -/
  time : Millis
deriving BEq, Inhabited

/-- What a touch did: whether a control took it, and the requests of the timers and controls. -/
structure TouchOutcome where
  state : Surface
  issued : List Issued
  consumed : Bool
deriving Inhabited

/-- What an advance did: the number of timers delivered, and their requests. -/
structure AdvanceOutcome where
  state : Surface
  issued : List Issued := []
  delivered : Nat := 0
deriving Inhabited

namespace Surface

/-! ## Timers -/

/-- The control with an identifier replaced by what it has become, and the desk with it. -/
def updateFirst (id : ControlId) (f : Control → Reaction Control) :
    List Control → Option (Reaction (List Control))
  | [] => none
  | c :: cs =>
    if c.id = id then some ((f c).map (· :: cs))
    else (updateFirst id f cs).map fun r => r.map (c :: ·)

/-- The surface after one of its controls has reacted. -/
def absorb (s : Surface) (r : Reaction (List Control)) : Surface :=
  { s with controls := r.state, desk := r.desk }

/-- Hands an expired timer, already taken from the queue, to its owner. -/
def deliver (sv : Services) (s : Surface) (t : ExpiredTimer) : Outcome Surface :=
  match updateFirst t.owner (fun c => c.timer sv s.size s.desk t.handle) s.controls with
  | some r => { state := s.absorb r, issued := r.issuedBy t.owner }
  | none => { state := s }

/-- The first timer due by `now`, and the surface without it. -/
def popExpired? (s : Surface) (now : Millis) : Option (ExpiredTimer × Surface) :=
  (s.desk.timers.popExpired? now).map fun (t, q) => (t, { s with desk := { s.desk with timers := q } })

/-- Delivers the timers due by `now`, at most `limit` of them. -/
def deliverDue (sv : Services) (now : Millis) : Nat → Surface → AdvanceOutcome
  | 0, s => { state := s }
  | limit + 1, s =>
    match s.popExpired? now with
    | none => { state := s }
    | some (t, s') =>
      let r := s'.deliver sv t
      let rest := deliverDue sv now limit r.state
      { rest with issued := r.issued ++ rest.issued, delivered := rest.delivered + 1 }

/-- Number of pending timers and open idle windows. A timer in response to another one is only
ever scheduled by closing an idle window, so no more timers than this can be delivered. -/
def pendingWork (s : Surface) : Nat :=
  s.desk.timers.byDeadline.size + s.controls.countP (·.behaviour.isPending)

/-- Moves the clock to `now` and delivers every timer due by then. -/
def advance (sv : Services) (s : Surface) (now : Millis) : AdvanceOutcome :=
  let r := deliverDue sv now s.pendingWork s
  let s' := r.state
  { r with state := { s' with desk := { s'.desk with timers := s'.desk.timers.advanceClock now } } }

/-- Advances to the next deadline until none is left, at most `limit` times. -/
def settleWithin (sv : Services) : Nat → Surface → AdvanceOutcome
  | 0, s => { state := s }
  | limit + 1, s =>
    match s.nextDeadline? with
    | none => { state := s }
    | some due =>
      let r := s.advance sv due
      let rest := settleWithin sv limit r.state
      { rest with issued := r.issued ++ rest.issued, delivered := r.delivered + rest.delivered }

/-- Advances to the next deadline until none is left. -/
def settle (sv : Services) (s : Surface) : AdvanceOutcome := settleWithin sv s.pendingWork s

/-! ## Touches -/

/-- Offers a new contact to the controls, the last in the list first. -/
def offer (sv : Services) (size : SurfaceSize) (p : PointerId) (spot : Point) (d : Desk) :
    List Control → Option (ControlId × Reaction (List Control))
  | [] => none
  | c :: cs =>
    -- a refusal leaves the desk as it is, so the controls below meet the same one
    match offer sv size p spot d cs with
    | some (id, r) => some (id, r.map (c :: ·))
    | none =>
      if c.bounds.contains spot then
        let r := c.down sv size p d spot
        if r.consumed then some (c.id, r.map (· :: cs)) else none
      else none

/-- A contact begins. One on a pointer that is routed already is ignored. -/
def touchDown (sv : Services) (s : Surface) (p : PointerId) (spot : Point) : TouchOutcome :=
  if s.routes.contains p then { state := s, issued := [], consumed := false }
  else
    match offer sv s.size p spot s.desk s.controls with
    | some (id, r) =>
      { state := { s.absorb r with routes := s.routes.insert p id }
        issued := r.issuedBy id
        consumed := true }
    | none => { state := s, issued := [], consumed := false }

/-- Hands a touch to the control with an identifier. -/
def touchControl (s : Surface) (id : ControlId) (f : Control → Reaction Control) : TouchOutcome :=
  match updateFirst id f s.controls with
  | some r => { state := s.absorb r, issued := r.issuedBy id, consumed := r.consumed }
  | none => { state := s, issued := [], consumed := false }

def touchMove (sv : Services) (s : Surface) (p : PointerId) (spot : Point) : TouchOutcome :=
  match s.route? p with
  | some id => s.touchControl id fun c => c.move sv s.size p s.desk spot
  | none => { state := s, issued := [], consumed := false }

def touchUp (s : Surface) (p : PointerId) : TouchOutcome :=
  match s.route? p with
  | some id =>
    ({ s with routes := s.routes.erase p } : Surface).touchControl id fun c => c.up s.size p s.desk
  | none => { state := s, issued := [], consumed := false }

/-- A touch, without the timers before it. -/
def route (sv : Services) (s : Surface) (e : TouchEvent) : TouchOutcome :=
  match e.phase with
  | .down => s.touchDown sv e.pointer e.position
  | .move => s.touchMove sv e.pointer e.position
  | .up | .cancel => s.touchUp e.pointer

/-- One touch. Timers due at its time fire first, so that it meets the state they leave. -/
def touch (sv : Services) (s : Surface) (e : TouchEvent) : TouchOutcome :=
  let r := s.advance sv e.time
  let t := r.state.route sv e
  { t with issued := r.issued ++ t.issued }

end Surface

end TouchOverlay
