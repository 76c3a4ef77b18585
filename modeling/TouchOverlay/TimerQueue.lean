import TouchOverlay.Claims

/-!
# Timers

Single-shot timers of one surface. The queue has a clock that its callers move, and never reads the
time itself. Pending timers are held twice: by deadline, so that the next one is at hand, and by
handle, so that one can be cancelled. Handles are handed out in increasing order and never reused.
Timers fire in the order of their deadlines, those of one deadline in the order of their handles.

Handles are natural numbers. A queue that counts them in 64 bits does the same as long as fewer than
2 ^ 64 timers have been scheduled on it, which is assumed throughout.
-/

namespace TouchOverlay

/-- Milliseconds since the surface was set up. -/
abbrev Millis := UInt64

/-- The sum of two times, or the last instant if the sum lies beyond it. -/
def Millis.later (t delay : Millis) : Millis :=
  if t.toNat + delay.toNat < 0x10000000000000000 then t + delay else 0xffffffffffffffff

/-- The whole milliseconds of a delay in nanoseconds, at most the largest time. -/
def Millis.ofNanoseconds (n : Nat) : Millis := UInt64.ofNat (min (n / 1000000) 0xffffffffffffffff)

/-- Number of a scheduled timer. -/
abbrev TimerHandle := Nat

/-- The place of a timer in the queue. -/
structure Due where
  deadline : Millis
  handle : TimerHandle
deriving DecidableEq, Inhabited

/-- Orders places by deadline and then by handle. -/
def Due.order : Due → Due → Ordering :=
  compareLex (compareOn Due.deadline) (compareOn Due.handle)

instance : Std.TransCmp Due.order := inferInstanceAs (Std.TransCmp (compareLex _ _))

instance : Std.LawfulEqCmp Due.order where
  compare_self := Std.ReflCmp.compare_self
  eq_of_compare := by
    intro a b h
    simp only [Due.order, compareLex, compareOn, Ordering.then_eq_eq,
      Std.LawfulEqCmp.compare_eq_iff_eq] at h
    cases a; cases b; simp_all

/-- A timer whose deadline has passed. -/
structure ExpiredTimer where
  handle : TimerHandle
  owner : ControlId
  deadline : Millis
deriving DecidableEq, Inhabited

/-- The pending timers of a surface, and its clock. -/
@[ext]
structure TimerQueue where
  now : Millis := 0
  nextHandle : TimerHandle := 0
  byDeadline : Std.ExtTreeMap Due ControlId Due.order := ∅
  deadlines : Std.ExtTreeMap TimerHandle Millis compare := ∅
deriving Inhabited

namespace TimerQueue

/-- The queue of a new surface: no timers, and the clock at zero. -/
def empty : TimerQueue := {}

/-- Moves the clock forward. An earlier time leaves it as it is. -/
def advanceClock (q : TimerQueue) (now : Millis) : TimerQueue := { q with now := max q.now now }

/-- The place of the first timer to fire. -/
def first? (q : TimerQueue) : Option Due := q.byDeadline.keys.head?

def nextDeadline? (q : TimerQueue) : Option Millis := q.first?.map (·.deadline)

/-- Whether a timer is scheduled and has neither fired nor been cancelled. -/
def isPending (q : TimerQueue) (h : TimerHandle) : Bool := q.deadlines.contains h

def size (q : TimerQueue) : Nat := q.deadlines.size

def isEmpty (q : TimerQueue) : Bool := q.deadlines.isEmpty

/-- Schedules a timer for a control, and gives its handle. -/
def schedule (q : TimerQueue) (owner : ControlId) (delay : Millis) : TimerHandle × TimerQueue :=
  let deadline := Millis.later q.now delay
  (q.nextHandle,
    { q with
      nextHandle := q.nextHandle + 1
      byDeadline := q.byDeadline.insert ⟨deadline, q.nextHandle⟩ owner
      deadlines := q.deadlines.insert q.nextHandle deadline })

/-- Removes the timer at a place from both tables. -/
def remove (q : TimerQueue) (d : Due) : TimerQueue :=
  { q with byDeadline := q.byDeadline.erase d, deadlines := q.deadlines.erase d.handle }

/-- Cancels a timer, and says whether it was pending. -/
def cancel (q : TimerQueue) (h : TimerHandle) : Bool × TimerQueue :=
  match q.deadlines[h]? with
  | some deadline => (true, q.remove ⟨deadline, h⟩)
  | none => (false, q)

/-- The places of the pending timers of a control. -/
def ownedBy (q : TimerQueue) (owner : ControlId) : List Due :=
  (q.byDeadline.toList.filter (·.2 = owner)).map (·.1)

/-- Cancels every pending timer of a control, and gives their number. -/
def cancelOwnedBy (q : TimerQueue) (owner : ControlId) : Nat × TimerQueue :=
  let doomed := q.ownedBy owner
  (doomed.length, doomed.foldl remove q)

/-- Takes the first timer if its deadline is not after `now`. The clock moves to the deadline, so
that a timer scheduled in response is measured from when the response was due. -/
def popExpired? (q : TimerQueue) (now : Millis) : Option (ExpiredTimer × TimerQueue) :=
  q.first?.bind fun d =>
    if now < d.deadline then none
    else (q.byDeadline[d]?).map fun owner =>
      (⟨d.handle, owner, d.deadline⟩, (q.remove d).advanceClock d.deadline)

/-! ## The two tables after each operation -/

variable {q : TimerQueue} {owner : ControlId} {delay : Millis} {d e : Due} {h : TimerHandle}

theorem deadlines_schedule : (q.schedule owner delay).2.deadlines[h]? =
    if q.nextHandle = h then some (Millis.later q.now delay) else q.deadlines[h]? := by
  simp [schedule, Std.ExtTreeMap.getElem?_insert, Std.LawfulEqCmp.compare_eq_iff_eq]

theorem byDeadline_schedule : (q.schedule owner delay).2.byDeadline[d]? =
    if ⟨Millis.later q.now delay, q.nextHandle⟩ = d then some owner else q.byDeadline[d]? := by
  simp [schedule, Std.ExtTreeMap.getElem?_insert, Std.LawfulEqCmp.compare_eq_iff_eq]

theorem deadlines_remove :
    (q.remove d).deadlines[h]? = if d.handle = h then none else q.deadlines[h]? := by
  simp [remove, Std.ExtTreeMap.getElem?_erase, Std.LawfulEqCmp.compare_eq_iff_eq]

theorem byDeadline_remove :
    (q.remove d).byDeadline[e]? = if d = e then none else q.byDeadline[e]? := by
  simp [remove, Std.ExtTreeMap.getElem?_erase, Std.LawfulEqCmp.compare_eq_iff_eq]

@[simp] theorem now_advanceClock (t : Millis) : (q.advanceClock t).now = max q.now t := rfl

end TimerQueue

end TouchOverlay
