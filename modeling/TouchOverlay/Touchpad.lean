import TouchOverlay.Services

/-!
# Touchpads

A touchpad turns one contact into mouse input. A short tap is a click, sent when the idle window
after the press has passed; a press that is held becomes a drag with the left button down; a tap
followed by a press within the window is a drag with the button down at absolute positions; a press
that moves is a cursor movement without a button.

A press opens the idle window (`Phase.pending`), which outlives the contact: a second press in it
is still a double tap. A click presses the button at once and releases it when its own timer
fires. A timer that is not the one the touchpad is waiting for has no effect.
-/

namespace TouchOverlay

/-- The phase of a gesture, with what only that phase needs. -/
inductive Phase
  | idle
  /-- The idle window is open; `timer` closes it. -/
  | pending (timer : TimerHandle)
  /-- A drag with the button down at absolute positions, `target` being the last of them. -/
  | doubleClick (target : Point)
  /-- A drag without a button. -/
  | moving
  /-- A drag with the button down. -/
  | pressMoving
deriving Inhabited

namespace Phase

def label : Phase → String
  | idle => "idle"
  | pending _ => "pending"
  | doubleClick _ => "double_click"
  | moving => "moving"
  | pressMoving => "press_moving"

/-- Whether the gesture holds the left button down. -/
def holdsButton : Phase → Bool
  | doubleClick _ => true
  | pressMoving => true
  | _ => false

def isPending : Phase → Bool
  | pending _ => true
  | _ => false

end Phase

/-- The contact on a touchpad, in local positions. -/
structure Contact where
  pointer : PointerId
  initial : Point
  last : Point
deriving Inhabited

/-- A touchpad and its session. -/
structure Touchpad where
  doubleTapDrag : Bool
  phase : Phase := .idle
  contact? : Option Contact := none
  /-- The timer that releases the button of a click. -/
  clickTimer? : Option TimerHandle := none
deriving Inhabited

namespace Touchpad

variable (sv : Services) (site : Site)

def pointer? (pad : Touchpad) : Option PointerId := pad.contact?.map (·.pointer)

/-- Where the cursor goes in a double tap drag: the contact's offset from the centre of the
touchpad, times the movement ratio, from the centre of the surface. -/
def dragTarget (spot : Point) : Point :=
  site.surface.center + (spot - site.bounds.localCenter).scale sv.tuning.moveRatio

def startPending (pad : Touchpad) (d : Desk) : Touchpad × Desk :=
  let (h, d') := site.schedule sv.tuning.idleTimeout d
  ({ pad with phase := .pending h }, d')

/-- The desk without the timer of an outstanding click. -/
def cancelClick (pad : Touchpad) (d : Desk) : Desk := pad.clickTimer?.elim d d.cancel

/-- The requests of a click: the leading release clears what an earlier gesture has left pressed. -/
def clickRequests : List Request := [.primary false .here, .primary true .here]

/-- Sends a click and schedules its release, in place of the release of an earlier click. -/
def resolveClick (pad : Touchpad) (d : Desk) : Touchpad × Desk :=
  let (h, d') := site.schedule sv.tuning.clickTimeout (pad.cancelClick d)
  ({ pad with clickTimer? := some h }, d')

/-- What a taken contact does, by the phase it meets. -/
def beginContact (spot : Point) (pad : Touchpad) (d : Desk) : Reaction Touchpad :=
  match pad.phase with
  | .pending timer =>
    let d := d.cancel timer
    if pad.doubleTapDrag then
      -- the timer of an outstanding click stays, and so does the release that it will send
      let target := dragTarget sv site spot
      { state := { pad with phase := .doubleClick target }
        desk := d
        requests := [.pulse, .primary true (.ofPoint target)] }
    else
      let (pad, d) := resolveClick sv site pad d
      let (pad, d) := startPending sv site pad d
      { state := pad, desk := d, requests := .pulse :: clickRequests }
  | _ =>
    let (pad, d) := startPending sv site pad d
    { state := pad, desk := d, requests := [.pulse] }

/-- A contact begins. A second contact is ignored. -/
def down (p : PointerId) (spot : Point) (pad : Touchpad) (d : Desk) : Reaction Touchpad :=
  match pad.contact?, site.take? p d with
  | none, some d' =>
    beginContact sv site spot
      { pad with contact? := some { pointer := p, initial := spot, last := spot } } d'
  | _, _ => .ignored pad d

/-- What a movement of the contact does. -/
def slide (c : Contact) (spot : Point) (pad : Touchpad) (d : Desk) : Reaction Touchpad :=
  let pad := { pad with contact? := some { c with last := spot } }
  let ratio := sv.tuning.moveRatio
  match pad.phase with
  | .pending timer =>
    -- measured from the press: nothing has been sent for the way so far
    let travelled := spot - c.initial
    if sv.moveThreshold < travelled.length then
      { state := { pad with phase := .moving }
        desk := d.cancel timer
        requests := [.moveBy (travelled.scale ratio)] }
    else { state := pad, desk := d }
  | .doubleClick _ =>
    let target := dragTarget sv site spot
    { state := { pad with phase := .doubleClick target }, desk := d, requests := [.moveTo target] }
  | .moving | .pressMoving =>
    { state := pad, desk := d, requests := [.moveBy ((spot - c.last).scale ratio)] }
  | .idle => { state := pad, desk := d }

def move (p : PointerId) (spot : Point) (pad : Touchpad) (d : Desk) : Reaction Touchpad :=
  match pad.contact? with
  | some c => if c.pointer = p then pad.slide sv site c spot d else .ignored pad d
  | none => .ignored pad d

/-- A contact lifts or is cancelled. An open idle window stays open. -/
def up (p : PointerId) (pad : Touchpad) (d : Desk) : Reaction Touchpad :=
  if pad.pointer? = some p then
    let d := site.drop p d
    let pad := { pad with contact? := none }
    match pad.phase with
    | .doubleClick target =>
      { state := { pad with phase := .idle }
        desk := d
        requests := [.primary false (.ofPoint target)] }
    | .pressMoving =>
      { state := { pad with phase := .idle }, desk := d, requests := [.primary false .here] }
    | .moving => { state := { pad with phase := .idle }, desk := d }
    | .pending _ | .idle => { state := pad, desk := d }
  else .ignored pad d

/-- The idle window has passed: a press that is still down becomes a drag, one that has lifted
becomes a click. -/
def closeWindow (pad : Touchpad) (d : Desk) : Reaction Touchpad :=
  if pad.contact?.isSome then
    { state := { pad with phase := .pressMoving }
      desk := d
      requests := [.pulse, .primary true .here] }
  else
    let (pad, d) := resolveClick sv site pad d
    { state := { pad with phase := .idle }, desk := d, requests := clickRequests }

def timer (h : TimerHandle) (pad : Touchpad) (d : Desk) : Reaction Touchpad :=
  if pad.clickTimer? = some h then
    { state := { pad with clickTimer? := none }, desk := d, requests := [.primary false .here] }
  else
    match pad.phase with
    | .pending idle => if idle = h then closeWindow sv site pad d else .ignored pad d
    | _ => .ignored pad d

/-- The desk without the timers of the touchpad. -/
def cancelTimers (pad : Touchpad) (d : Desk) : Desk :=
  match pad.phase with
  | .pending timer => pad.cancelClick (d.cancel timer)
  | _ => pad.cancelClick d

/-- Ends the session: cancels its timers, releases the button if it is down, and drops the
claim. -/
def detach (pad : Touchpad) (d : Desk) : Reaction Touchpad :=
  let d := pad.cancelTimers d
  { state := { pad with phase := .idle, contact? := none, clickTimer? := none }
    desk := pad.pointer?.elim d (site.drop · d)
    requests := if pad.clickTimer?.isSome || pad.phase.holdsButton
      then [.primary false .here] else [] }

end Touchpad

end TouchOverlay
