import TouchOverlay.Services

/-!
# Buttons

A button is pressed by one contact at a time. A plain button presses its action while the contact
lasts; a toggle button flips a bit on each press and sends the new value; a button for the text
input opens it. Contacts that slide off a button stay with it until they lift.
-/

namespace TouchOverlay

/-- A button and its session. -/
structure Button where
  action : ActionCode
  isToggle : Bool
  pointer? : Option PointerId := none
  pressed : Bool := false
  toggled : Bool := false
deriving DecidableEq, Inhabited

namespace Button

/-- Whether the action is held while the button is pressed. -/
def holdsAction (b : Button) : Bool := !b.isToggle && !b.action.isTextInput

/-- What pressing the button asks for, after its toggle bit has been set. -/
def pressRequest (b : Button) (anchor : Point) : Request :=
  if b.action.isTextInput then .openTextInput
  else .dispatch b.action (!b.isToggle || b.toggled) anchor

/-- The button after a contact on it has begun. -/
def press (b : Button) (p : PointerId) : Button :=
  { b with
    pointer? := some p
    pressed := true
    toggled := if b.isToggle && !b.action.isTextInput then !b.toggled else b.toggled }

/-- A contact begins. A second contact on a pressed button is ignored. -/
def down (site : Site) (p : PointerId) (b : Button) (d : Desk) : Reaction Button :=
  match b.pointer?, site.take? p d with
  | none, some d' =>
    let b' := b.press p
    { state := b', desk := d', requests := [.pulse, b'.pressRequest site.anchor] }
  | _, _ => .ignored b d

def move (p : PointerId) (b : Button) (d : Desk) : Reaction Button :=
  { state := b, desk := d, consumed := b.pointer? = some p }

/-- The release of the held action, if there is one. -/
def releaseRequests (site : Site) (b : Button) : List Request :=
  if b.holdsAction then [.dispatch b.action false site.anchor] else []

def up (site : Site) (p : PointerId) (b : Button) (d : Desk) : Reaction Button :=
  if b.pointer? = some p then
    { state := { b with pointer? := none, pressed := false }
      desk := site.drop p d
      requests := b.releaseRequests site }
  else .ignored b d

/-- Clears the toggle bit, with the release that goes with it. -/
def resetToggle (site : Site) (b : Button) (d : Desk) : Reaction Button :=
  if b.isToggle && b.toggled then
    { state := { b with toggled := false }
      desk := d
      requests := [.dispatch b.action false site.anchor] }
  else .ignored b d

/-- Ends the session: drops the claim and releases what is held. The toggle bit stays. -/
def detach (site : Site) (b : Button) (d : Desk) : Reaction Button :=
  match b.pointer? with
  | some p =>
    { state := { b with pointer? := none, pressed := false }
      desk := site.drop p d
      requests := if b.pressed then b.releaseRequests site else [] }
  | none => { state := { b with pressed := false }, desk := d }

/-- Whether a withholding button that has a contact also has the claim on its pointer. -/
def claimIsConsistent (site : Site) (b : Button) (d : Desk) : Bool :=
  match b.pointer? with
  | some p => site.passThrough || d.claims.owner? p = some site.id
  | none => true

def label (b : Button) : String :=
  match b.pressed, b.toggled with
  | true, true => "pressed+toggled"
  | true, false => "pressed"
  | false, true => "toggled"
  | false, false => "released"

end Button

end TouchOverlay
