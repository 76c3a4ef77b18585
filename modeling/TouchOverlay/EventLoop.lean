import TouchOverlay.Surface.Touch

/-!
# The event loop

The loop waits for the next command and for the next timer of its surface, whichever comes first.
Commands arrive at instants of the loop's clock. A timer is ready at its deadline, or at once if
the deadline has passed. When no more commands come, the loop goes on until no timer is left;
`shutdown` ends it immediately. `tie` says, for each command by its number, whether a timer that is
ready at the same instant goes first.
-/

namespace TouchOverlay

/-- What a surface is told through its event loop. -/
inductive SurfaceCommand
  | touch (e : TouchEvent)
  | replaceLayout (controls : List ControlConfig)
  | resize (size : SurfaceSize)
  | resetToggles
  | shutdown
deriving Inhabited

/-- Counters of an event loop. -/
structure LoopStats where
  touches : Nat := 0
  consumed : Nat := 0
  /-- Timers for which the loop woke up, not those that fire within a command. -/
  timersFired : Nat := 0
deriving DecidableEq, Inhabited

/-- Something that arrives at an instant. -/
structure Arrival (α : Type) where
  time : Millis
  item : α
deriving Inhabited

namespace Arrival

variable {α : Type}

/-- Items sent in order, each at its time or right after the one before it. -/
def inOrder : Millis → List (Arrival α) → List (Arrival α)
  | _, [] => []
  | clock, a :: as =>
    let time := max clock a.time
    { a with time } :: inOrder time as

/-- Two senders' items by time; at the same instant the first sender's come first. -/
def merge (as bs : List (Arrival α)) : List (Arrival α) := as.merge bs fun a b => a.time ≤ b.time

end Arrival

/-- An event loop: its surface, its clock, and what it has done so far. -/
structure EventLoop where
  surface : Surface
  clock : Millis := 0
  stats : LoopStats := {}
  issued : List Issued := []
  running : Bool := true
deriving Inhabited

namespace EventLoop

variable (sv : Services)

/-- Wakes up at the instant `at` for the deadline `due`. -/
def fire (l : EventLoop) (time due : Millis) : EventLoop :=
  let r := l.surface.advance sv due
  { l with
    surface := r.state
    clock := time
    stats := { l.stats with timersFired := l.stats.timersFired + r.delivered }
    issued := l.issued ++ r.issued }

/-- The deadline to wake up for next, and when. -/
def nextWake? (l : EventLoop) : Option (Millis × Millis) :=
  l.surface.nextDeadline?.map fun due => (max due l.clock, due)

/-- Wakes up for timers as long as `early` holds of the instant, at most `limit` times. -/
def wakeWithin (early : Millis → Bool) : Nat → EventLoop → EventLoop
  | 0, l => l
  | limit + 1, l =>
    match l.nextWake? with
    | some (time, due) => if early time then wakeWithin early limit (l.fire sv time due) else l
    | none => l

/-- Wakes up for timers as long as `early` holds of the instant. -/
def wakeWhile (l : EventLoop) (early : Millis → Bool) : EventLoop :=
  wakeWithin sv early l.surface.pendingWork l

/-- Carries out a change of the layout, after the timers due by now. -/
def relayout (l : EventLoop) (change : Surface → Outcome Surface) : EventLoop :=
  let r := l.surface.advance sv l.clock
  let o := change r.state
  { l with surface := o.state, issued := l.issued ++ (r.issued ++ o.issued) }

/-- Carries out a command at the present instant. A faulty layout is dropped. -/
def execute (l : EventLoop) : SurfaceCommand → EventLoop
  | .touch e =>
    let r := l.surface.touch sv e
    { l with
      surface := r.state
      stats :=
        { l.stats with
          touches := l.stats.touches + 1
          consumed := l.stats.consumed + if r.consumed then 1 else 0 }
      issued := l.issued ++ r.issued }
  | .replaceLayout cs => l.relayout sv fun s =>
      match s.replaceLayout cs with
      | .ok o => o
      | .error _ => { state := s }
  | .resize size => l.relayout sv (·.resize size)
  | .resetToggles => l.relayout sv Surface.resetToggles
  | .shutdown => { l with running := false }

/-- Waits until an instant, waking up for the timers before it, and also for those at it if
`timersFirst`. -/
def waitUntil (l : EventLoop) (timersFirst : Bool) (t : Millis) : EventLoop :=
  if l.running then
    let t := max t l.clock
    { l.wakeWhile sv fun w => w < t || (timersFirst && w = t) with clock := t }
  else l

/-- Receives one command, unless the loop has ended. -/
def receive (l : EventLoop) (timersFirst : Bool) (a : Arrival SurfaceCommand) : EventLoop :=
  let l := l.waitUntil sv timersFirst a.time
  if l.running then l.execute sv a.item else l

/-- Receives commands in turn, the first of them having the number `n`. -/
def receiveAll (tie : Nat → Bool) : Nat → List (Arrival SurfaceCommand) → EventLoop → EventLoop
  | _, [], l => l
  | n, a :: as, l => receiveAll tie (n + 1) as (l.receive sv (tie n) a)

/-- No more commands come: wakes up until no timer is left, and ends. -/
def finish (l : EventLoop) (closed : Millis) : EventLoop :=
  let l := l.waitUntil sv true closed
  if l.running then { l.wakeWhile sv fun _ => true with running := false } else l

/-- Runs a surface on commands that arrive in order, until they are closed and no timer is left. -/
def run (tie : Nat → Bool) (s : Surface) (commands : List (Arrival SurfaceCommand))
    (closed : Millis) : EventLoop :=
  (receiveAll sv tie 0 commands { surface := s }).finish sv closed

end EventLoop

end TouchOverlay
