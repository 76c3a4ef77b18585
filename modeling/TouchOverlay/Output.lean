import TouchOverlay.Action
import TouchOverlay.Geometry

/-!
# Synthetic input

A control asks for something to happen with a `Request`; what reaches the outside is an
`OutputEvent`. `Request.event?` says which event a request becomes: a wheel action moves the wheel
on presses only, an action without an effect becomes nothing, and a pulse becomes nothing while
haptics are off. A `Recorder` keeps the events in the order of their arrival; one that rejects
injected input keeps the vibrations and text input commands only.
-/

namespace TouchOverlay

/-- Where a mouse button is pressed or released: at the cursor plus an offset, or at a position on
the surface. -/
inductive MousePosition
  | relative (dx dy : Float32)
  | absolute (x y : Float32)
deriving DecidableEq, Inhabited

namespace MousePosition

def here : MousePosition := relative 0 0

def ofPoint (p : Point) : MousePosition := absolute p.x p.y

end MousePosition

/-- One event that leaves the overlay. -/
inductive OutputEvent
  | key (scancode : UInt32) (down : Bool)
  | mouse (button : MouseButton) (down : Bool) (position : MousePosition)
  | wheel (delta : Float32)
  | gamepad (button : GamepadButton) (down : Bool)
  | trigger (trigger : Trigger) (value : Float32)
  | moveBy (dx dy : Float32)
  | moveTo (x y : Float32)
  | vibrate (milliseconds : UInt32) (amplitude : UInt8)
  | openTextInput
deriving DecidableEq, Inhabited

/-- Whether an event is injected input, which a bridge can reject. -/
def OutputEvent.isInput : OutputEvent → Bool
  | vibrate _ _ => false
  | openTextInput => false
  | _ => true

/-- One pulse of haptic feedback. -/
structure HapticPulse where
  milliseconds : UInt32 := 50
  amplitude : UInt8 := 30
deriving DecidableEq, Inhabited

/-- What a control asks for. -/
inductive Request
  /-- Press or release an action; a mouse button is pressed at the anchor. -/
  | dispatch (action : ActionCode) (down : Bool) (anchor : Point)
  | primary (down : Bool) (position : MousePosition)
  | moveBy (delta : Point)
  | moveTo (target : Point)
  /-- Confirm a contact by a haptic pulse. -/
  | pulse
  /-- Open the on-screen text input. -/
  | openTextInput
deriving Inhabited

/-- The value of an analog trigger that a press or a release reports. A release is below zero, so
that it differs from a trigger never touched. -/
def Trigger.level (down : Bool) : Float32 := if down then 1 else -1

namespace ActionCode

/-- The event that pressing or releasing an action becomes. -/
def event? (action : ActionCode) (down : Bool) (anchor : Point) : Option OutputEvent :=
  match action with
  | key scancode => some (.key scancode down)
  | mouse button => some (.mouse button down (.ofPoint anchor))
  | wheel direction => if down then some (.wheel direction.delta) else none
  | gamepad button => some (.gamepad button down)
  | trigger t => some (.trigger t (Trigger.level down))
  | textInput => none
  | unmapped _ => none

end ActionCode

namespace Request

/-- The event that a request becomes, given the pulse of haptic feedback if it is on. -/
def event? (haptic : Option HapticPulse) : Request → Option OutputEvent
  | dispatch action down anchor => action.event? down anchor
  | primary down position => some (.mouse .left down position)
  | moveBy delta => some (.moveBy delta.x delta.y)
  | moveTo target => some (.moveTo target.x target.y)
  | pulse => haptic.map fun p => .vibrate p.milliseconds p.amplitude
  | openTextInput => some .openTextInput

end Request

/-- Why a bridge does not take an event. -/
inductive InjectionError
  | bridge (reason : String)
deriving DecidableEq, Inhabited

/-- The sentence that reports an event that a bridge does not take. -/
def InjectionError.message : InjectionError → String
  | bridge reason => s!"injection bridge error: {reason}"

/-- The events that have left the overlay, oldest first. -/
structure Recorder where
  accepting : Bool := true
  events : List OutputEvent := []
deriving Inhabited

namespace Recorder

/-- Whether the recorder keeps an event. -/
def keeps (r : Recorder) (e : OutputEvent) : Bool := r.accepting || !e.isInput

/-- Records the events that the recorder keeps. -/
def record (r : Recorder) (es : List OutputEvent) : Recorder :=
  { r with events := r.events ++ es.filter r.keeps }

/-- The injected input among the recorded events. -/
def inputs (r : Recorder) : List OutputEvent := r.events.filter OutputEvent.isInput

def clear (r : Recorder) : Recorder := { r with events := [] }

/-- Records one event, or rejects it. -/
def inject (r : Recorder) (e : OutputEvent) : Except InjectionError Recorder :=
  if r.keeps e then .ok (r.record [e]) else .error (.bridge "mock failure")

/-- Hands an event to the bridge. A rejection is reported, and the event is gone. -/
def report (r : Recorder) (e : OutputEvent) : Recorder :=
  match r.inject e with
  | .ok r' => r'
  | .error _ => r

theorem record_append (r : Recorder) (es fs : List OutputEvent) :
    r.record (es ++ fs) = (r.record es).record fs := by
  simp only [record, List.filter_append, List.append_assoc]; rfl

end Recorder

end TouchOverlay
