import TouchOverlay.Control

/-!
# Control surfaces

A surface owns the controls of one layout, their timers, and the table of routes from pointers to
controls. `touch` and `advance`, in `Surface.Touch`, feed it; the operations here change its
layout. Every operation gives the requests that the controls made, each with the control that made
it, in order.
-/

namespace TouchOverlay

/-- A request and the control that made it. -/
structure Issued where
  control : ControlId
  request : Request
deriving Inhabited

/-- The events that issued requests become, in order. -/
def Services.outputs (sv : Services) (is : List Issued) : List OutputEvent :=
  sv.events (is.map (·.request))

/-- The controls of a surface from bottom to top, with all that they share. -/
structure Surface where
  size : SurfaceSize
  desk : Desk := {}
  controls : List Control := []
  routes : PointerMap := ∅
deriving Inhabited

/-- Why a surface refuses a change of its layout. -/
inductive LayoutError
  | duplicateControl (id : ControlId)
  | unknownControl (id : ControlId)
  | invalidPlacement (id : ControlId)
deriving DecidableEq, Inhabited

/-- The sentence that reports a refused change. -/
def LayoutError.message : LayoutError → String
  | duplicateControl id => s!"control {id} already exists on this surface"
  | unknownControl id => s!"control {id} not found"
  | invalidPlacement id => s!"control {id} has degenerate geometry"

/-- The state of one control, for reports. -/
structure ControlStatus where
  id : ControlId
  name : String
  kind : String
  pointer? : Option PointerId
  state : String
deriving DecidableEq, Inhabited

def Control.status (c : Control) : ControlStatus :=
  { id := c.id
    name := c.name
    kind := c.behaviour.kind.label
    pointer? := c.pointer?
    state := c.behaviour.label }

/-- A reaction of several controls, as requests issued by each. -/
structure Outcome (σ : Type) where
  state : σ
  issued : List Issued := []
deriving Inhabited

/-- The requests of a reaction, as issued by the control with the given identifier. -/
def Reaction.issuedBy {σ : Type} (r : Reaction σ) (id : ControlId) : List Issued :=
  r.requests.map (⟨id, ·⟩)

namespace Surface

def empty (size : SurfaceSize) : Surface := { size }

/-- Who has claimed each pointer. -/
def claims (s : Surface) : Claims := s.desk.claims

/-- The surface after somebody has worked on the shared claims. -/
def withClaims (s : Surface) (c : Claims) : Surface := { s with desk := { s.desk with claims := c } }

/-- Whether a pointer is withheld from the application. -/
def isClaimed (s : Surface) (p : PointerId) : Bool := s.claims.isClaimed p

/-- The control that a pointer is routed to. -/
def route? (s : Surface) (p : PointerId) : Option ControlId := s.routes[p]?

def control? (s : Surface) (id : ControlId) : Option Control := s.controls.find? (·.id = id)

def now (s : Surface) : Millis := s.desk.timers.now

def nextDeadline? (s : Surface) : Option Millis := s.desk.timers.nextDeadline?

/-- The state of every control, topmost first. -/
def status (s : Surface) : List ControlStatus := s.controls.reverse.map Control.status

/-! ## Ending sessions -/

/-- Ends the session of a control that has left the list: its timers, claims and routes go. -/
def detach (s : Surface) (c : Control) : Outcome Surface :=
  let r := c.detach s.size s.desk
  { state :=
      { s with
        desk := { r.desk with timers := (r.desk.timers.cancelOwnedBy c.id).2 }
        routes := s.routes.filter fun _ owner => owner ≠ c.id }
    issued := r.issuedBy c.id }

def detachEach : List Control → Surface → Outcome Surface
  | [], s => { state := s }
  | c :: cs, s =>
    let r := s.detach c
    let r' := detachEach cs r.state
    { r' with issued := r.issued ++ r'.issued }

/-- Removes every control, from bottom to top. -/
def detachAll (s : Surface) : Outcome Surface := detachEach s.controls { s with controls := [] }

/-! ## Layout -/

/-- The surface with a control added on top. -/
def mount (s : Surface) (c : ControlConfig) : Surface :=
  { s with controls := s.controls ++ [Control.mount s.size c] }

def mountAll (s : Surface) (cs : List ControlConfig) : Surface := cs.foldl mount s

/-- Adds a control on top of the others. -/
def addControl (s : Surface) (c : ControlConfig) : Except LayoutError Surface :=
  if s.controls.any (·.id = c.id) then .error (.duplicateControl c.id)
  else if c.placement.isValid then .ok (s.mount c)
  else .error (.invalidPlacement c.id)

/-- Removes a control, and gives its description. -/
def removeControl (s : Surface) (id : ControlId) :
    Except LayoutError (ControlConfig × Outcome Surface) :=
  match s.control? id with
  | some c =>
    .ok (c.config, { s with controls := s.controls.eraseP (·.id = id) }.detach c)
  | none => .error (.unknownControl id)

/-- The first fault of a layout in list order, given the identifiers before it. -/
def firstFault? : List ControlId → List ControlConfig → Option LayoutError
  | _, [] => none
  | seen, c :: cs =>
    if c.id ∈ seen then some (.duplicateControl c.id)
    else if c.placement.isValid then firstFault? (c.id :: seen) cs
    else some (.invalidPlacement c.id)

/-- Replaces the whole layout. A layout with a fault changes nothing. -/
def replaceLayout (s : Surface) (cs : List ControlConfig) : Except LayoutError (Outcome Surface) :=
  match firstFault? [] cs with
  | some e => .error e
  | none =>
    let r := s.detachAll
    .ok { r with state := r.state.mountAll cs }

/-- Applies a new size: every session ends and every control is mounted anew. -/
def resize (s : Surface) (size : SurfaceSize) : Outcome Surface :=
  let configs := s.controls.map Control.config
  let r := s.detachAll
  { r with state := ({ r.state with size } : Surface).mountAll (configs.filter (·.placement.isValid)) }

/-- Clears the toggle bits of controls in turn. -/
def resetEach (size : SurfaceSize) : List Control → Desk → Outcome (List Control × Desk)
  | [], d => { state := ([], d) }
  | c :: cs, d =>
    let r := c.resetToggle size d
    let r' := resetEach size cs r.desk
    { state := (r.state :: r'.state.1, r'.state.2), issued := r.issuedBy c.id ++ r'.issued }

/-- Releases every toggle button that is on. -/
def resetToggles (s : Surface) : Outcome Surface :=
  let r := resetEach s.size s.controls s.desk
  { state := { s with controls := r.state.1, desk := r.state.2 }, issued := r.issued }

/-- Removes every control and drops every claim, also those of others. -/
def shutdown (s : Surface) : Outcome Surface :=
  let r := s.detachAll
  { r with state := r.state.withClaims .empty }

end Surface

end TouchOverlay
