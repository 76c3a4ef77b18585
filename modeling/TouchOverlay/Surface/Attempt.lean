import TouchOverlay.Surface

/-!
# Changing a layout in place

The operations on the layout say what they leave or why they refuse, and a refusal has no surface to
speak of. `Surface.attempt` performs them on a surface in place, check by check and change by change,
as far as it gets: a new layout is checked as a whole, then the old controls go, and then the new
ones are mounted one after the other, each with a check of its own.
-/

namespace TouchOverlay

/-- The changes of a layout that can be refused. -/
inductive LayoutChange
  | add (c : ControlConfig)
  | remove (id : ControlId)
  | replace (cs : List ControlConfig)

/-- What an attempt to change a surface leaves, whether it was refused or not. -/
structure Attempt where
  refusal? : Option LayoutError := none
  left : Outcome Surface

namespace Attempt

def refuse (e : LayoutError) (s : Surface) : Attempt := { refusal? := some e, left := { state := s } }

/-- Goes on with what is left, unless there was a refusal. -/
def andThen (a : Attempt) (f : Surface → Attempt) : Attempt :=
  match a.refusal? with
  | some _ => a
  | none =>
    let b := f a.left.state
    { b with left := { b.left with issued := a.left.issued ++ b.left.issued } }

end Attempt

namespace Surface

def tryMount (s : Surface) (c : ControlConfig) : Attempt :=
  if c.placement.isValid then { left := { state := s.mount c } }
  else .refuse (.invalidPlacement c.id) s

/-- Mounts controls one after the other. A refusal leaves those that have been mounted. -/
def mountEach : List ControlConfig → Surface → Attempt
  | [], s => { left := { state := s } }
  | c :: cs, s => (s.tryMount c).andThen (mountEach cs)

def attempt (s : Surface) : LayoutChange → Attempt
  | .add c =>
    if s.controls.any (·.id = c.id) then .refuse (.duplicateControl c.id) s else s.tryMount c
  | .remove id =>
    match s.control? id with
    | some c => { left := { s with controls := s.controls.eraseP (·.id = id) }.detach c }
    | none => .refuse (.unknownControl id) s
  | .replace cs =>
    match firstFault? [] cs with
    | some e => .refuse e s
    | none => Attempt.andThen { left := s.detachAll } (mountEach cs)

end Surface

end TouchOverlay
