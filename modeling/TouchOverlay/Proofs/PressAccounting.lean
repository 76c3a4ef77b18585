import TouchOverlay.Proofs.StaleTimers

/-!
# Every press on a touchpad is accounted for

A press opens an idle window, and the window ends in one of four ways: the contact crosses the
threshold (a drag), the time runs out with the contact still down (a hold) or lifted (a click), or
a second press comes. The second press makes a double tap of both, or clicks at once for the first
and opens a window of its own.

`Answered.Accounted` is this for one call: what it does to the count of presses and to the window
is matched by what it reports. `Bench.calls` lists the calls on one touchpad in a run of many, and
the sums follow by induction.
-/

namespace TouchOverlay
open TimerQueue

namespace Phase

def isMoving : Phase → Bool
  | moving => true
  | _ => false

def isPressMoving : Phase → Bool
  | pressMoving => true
  | _ => false

def isDoubleClick : Phase → Bool
  | doubleClick _ => true
  | _ => false

end Phase

def MousePosition.isAbsolute : MousePosition → Bool
  | absolute _ _ => true
  | relative _ _ => false

/-- Where a request presses the primary button. -/
def Request.pressAt? : Request → Option MousePosition
  | primary true position => some position
  | _ => none

namespace Touchpad

/-- A call on a touchpad, with what it met and the answer to it. -/
structure Answered where
  pad : Touchpad
  desk : Desk
  call : Call
  reaction : Reaction Touchpad

namespace Answered
variable (a : Answered)

def isPress : Bool :=
  match a.call with
  | .down _ _ => a.reaction.consumed
  | _ => false

def isDrag : Bool := a.pad.phase.isPending && a.reaction.state.phase.isMoving

def isHold : Bool := a.pad.phase.isPending && a.reaction.state.phase.isPressMoving

def isDouble : Bool := a.pad.phase.isPending && a.reaction.state.phase.isDoubleClick

/-- The call resolves a click: it leaves a click timer that the queue has not given out before. -/
def isClick : Bool := a.reaction.state.clickTimer?.any (a.desk.timers.nextHandle ≤ ·)

/-- Where the call presses the primary button. -/
def primaryPresses : List MousePosition := a.reaction.requests.filterMap Request.pressAt?

/-- The books of one call. A press or an open window before it is a gesture reported or an open
window after it; the button is pressed for clicks, holds and double taps. -/
structure Accounted (a : Answered) : Prop where
  window : a.isPress.toNat + a.pad.phase.isPending.toNat =
    a.isDrag.toNat + a.isHold.toNat + a.isClick.toNat + 2 * a.isDouble.toNat +
      a.reaction.state.phase.isPending.toNat
  doubleTap : a.isDouble = true → a.pad.doubleTapDrag = true
  pressed : a.primaryPresses.length = a.isClick.toNat + a.isHold.toNat + a.isDouble.toNat
  absolute : a.primaryPresses.countP MousePosition.isAbsolute = a.isDouble.toNat
  clicked : a.isClick = true ↔ clickRequests <:+: a.reaction.requests

variable {a}

theorem Accounted.of_click {click : Bool} (hclick : a.isClick = click)
    (window : a.isPress.toNat + a.pad.phase.isPending.toNat =
      a.isDrag.toNat + a.isHold.toNat + click.toNat + 2 * a.isDouble.toNat +
        a.reaction.state.phase.isPending.toNat)
    (doubleTap : a.isDouble = true → a.pad.doubleTapDrag = true)
    (pressed : a.primaryPresses.length = click.toNat + a.isHold.toNat + a.isDouble.toNat)
    (absolute : a.primaryPresses.countP MousePosition.isAbsolute = a.isDouble.toNat)
    (clicked : click = true ↔ clickRequests <:+: a.reaction.requests) : a.Accounted := by
  subst hclick
  exact ⟨window, doubleTap, pressed, absolute, clicked⟩

theorem not_double (h : a.isDouble = false) : a.isDouble = true → a.pad.doubleTapDrag = true :=
  fun hd => absurd (h.symm.trans hd) Bool.false_ne_true

theorem not_clickRequests {r : Request} (hr : r ∈ clickRequests)
    (hn : r ∉ a.reaction.requests) : false = true ↔ clickRequests <:+: a.reaction.requests :=
  iff_of_false Bool.false_ne_true fun hin => hn (hin.subset hr)

/-- A call that takes no press, leaves the window as it was and presses nothing. -/
theorem Accounted.quiet (hpress : a.isPress = false)
    (hp : a.reaction.state.phase.isPending = a.pad.phase.isPending) (hclick : a.isClick = false)
    (hr : a.primaryPresses = []) : a.Accounted := by
  have hnone : a.isDrag = false ∧ a.isHold = false ∧ a.isDouble = false := by
    unfold isDrag isHold isDouble
    rw [← hp]
    cases a.reaction.state.phase <;> exact ⟨rfl, rfl, rfl⟩
  have hn : Request.primary true .here ∉ a.reaction.requests := fun hm => by
    have hm : MousePosition.here ∈ a.primaryPresses := List.mem_filterMap.2 ⟨_, hm, rfl⟩
    rw [hr] at hm
    cases hm
  refine .of_click hclick ?_ ?_ ?_ ?_ (not_clickRequests (by simp [clickRequests]) hn)
  · simp [hpress, hnone, hp]
  · simp [hnone]
  · simp [hr, hnone]
  · simp [hr, hnone]

end Answered

variable {sv : Services} {site : Site} {p : PointerId} {spot : Point} {pad : Touchpad} {d : Desk}
  {h : TimerHandle} {c : Call}

/-! ## One call -/

theorem not_any_of_issued {q : TimerQueue} (hi : q.Issued pad.timers) :
    pad.clickTimer?.any (q.nextHandle ≤ ·) = false := by
  cases hc : pad.clickTimer? with
  | none => rfl
  | some h =>
    have hlt : h < q.nextHandle := hi.lt h (mem_timers.2 (.inr hc))
    simpa using hlt

theorem isClick_of_resolveClick (sv : Services) (site : Site) {d' : Desk} {pad' : Touchpad}
    {r : Reaction Touchpad} (hn : d'.timers.nextHandle = d.timers.nextHandle)
    (hr : r.state.clickTimer? = (resolveClick sv site pad' d').1.clickTimer?) :
    Answered.isClick ⟨pad, d, c, r⟩ = true := by
  simp [Answered.isClick, hr, clickTimer?_resolveClick, hn]

theorem accounted_ignored (hi : d.timers.Issued pad.timers) :
    Answered.Accounted ⟨pad, d, c, .ignored pad d⟩ := by
  have hclick : Answered.isClick ⟨pad, d, c, .ignored pad d⟩ = false := not_any_of_issued hi
  have hpress : Answered.isPress ⟨pad, d, c, .ignored pad d⟩ = false := by cases c <;> rfl
  exact .quiet hpress rfl hclick rfl

theorem accounted_beginContact {con : Contact} {d' : Desk} (ht : d'.timers = d.timers)
    (hi : d.timers.Issued pad.timers) :
    Answered.Accounted ⟨pad, d, .down p spot,
      beginContact sv site spot { pad with contact? := some con } d'⟩ := by
  have hold := not_any_of_issued hi
  obtain ⟨drag, phase, contact, click⟩ := pad
  cases phase with
  | pending idle =>
    cases drag with
    | true =>
      refine .of_click hold rfl (fun _ => rfl) rfl rfl (Answered.not_clickRequests List.mem_cons_self ?_)
      simp [beginContact]
    | false =>
      refine .of_click (isClick_of_resolveClick sv site ?_ rfl) rfl (Answered.not_double rfl) rfl
        rfl ?_
      · rw [Desk.timers_cancel, nextHandle_cancel, ht]
      · simp only [true_iff]
        exact (List.suffix_cons _ _).isInfix
  | _ =>
    refine .of_click hold rfl (Answered.not_double rfl) rfl rfl
      (Answered.not_clickRequests List.mem_cons_self ?_)
    simp [beginContact]

theorem accounted_down (hi : d.timers.Issued pad.timers) :
    Answered.Accounted ⟨pad, d, .down p spot, pad.down sv site p spot d⟩ := by
  rcases pad.down_cases sv site p spot d with ⟨hr, -⟩ | ⟨d', -, ht, hr⟩ <;> rw [hr]
  · exact accounted_ignored hi
  · exact accounted_beginContact (Site.take?_eq_some ht).2 hi

theorem accounted_move (hi : d.timers.Issued pad.timers) :
    Answered.Accounted ⟨pad, d, .move p spot, pad.move sv site p spot d⟩ := by
  have hold := not_any_of_issued hi
  unfold Touchpad.move
  split
  · rename_i con _
    split
    · obtain ⟨drag, phase, contact, click⟩ := pad
      cases phase with
      | pending idle =>
        simp only [slide]
        split
        · refine .of_click hold rfl (Answered.not_double rfl) rfl rfl
            (Answered.not_clickRequests List.mem_cons_self ?_)
          simp
        · exact .quiet rfl rfl hold rfl
      | _ => exact .quiet rfl rfl hold rfl
    · exact accounted_ignored hi
  · exact accounted_ignored hi

theorem accounted_up (hi : d.timers.Issued pad.timers) :
    Answered.Accounted ⟨pad, d, .up p, pad.up site p d⟩ := by
  have hold := not_any_of_issued hi
  by_cases hp : pad.pointer? = some p
  · unfold Touchpad.up
    rw [if_pos hp]
    obtain ⟨drag, phase, contact, click⟩ := pad
    cases phase <;> exact .quiet rfl rfl hold rfl
  · rw [up_of_ne hp]
    exact accounted_ignored hi

theorem accounted_timer (hi : d.timers.Issued pad.timers) :
    Answered.Accounted ⟨pad, d, .timer h, pad.timer sv site h d⟩ := by
  have hold := not_any_of_issued hi
  by_cases hc : pad.clickTimer? = some h
  · rw [timer_of_click hc]
    exact .quiet rfl rfl rfl rfl
  · by_cases hp : pad.phase = .pending h
    · rw [timer_of_idle hc hp]
      obtain ⟨drag, phase, contact, click⟩ := pad
      cases hp
      cases contact with
      | some con =>
        refine .of_click hold rfl (Answered.not_double rfl) rfl rfl
          (Answered.not_clickRequests List.mem_cons_self ?_)
        simp [closeWindow]
      | none =>
        refine .of_click (isClick_of_resolveClick sv site rfl rfl) rfl (Answered.not_double rfl) rfl
          rfl ?_
        simp only [true_iff]
        exact List.infix_rfl
    · rw [timer_of_not_mem (not_mem_timers hc hp)]
      exact accounted_ignored hi

theorem accounted_answer (c : Call) (hc : c ≠ .detach) (hi : d.timers.Issued pad.timers) :
    Answered.Accounted ⟨pad, d, c, pad.answer sv site d c⟩ := by
  cases c with
  | down p spot => exact accounted_down hi
  | move p spot => exact accounted_move hi
  | up p => exact accounted_up hi
  | detach => exact absurd rfl hc
  | timer h => exact accounted_timer hi

theorem doubleTapDrag_answer (c : Call) :
    (pad.answer sv site d c).state.doubleTapDrag = pad.doubleTapDrag := by
  cases c with
  | down p spot =>
    show (pad.down sv site p spot d).state.doubleTapDrag = _
    rcases pad.down_cases sv site p spot d with ⟨hr, -⟩ | ⟨d', -, -, hr⟩ <;> rw [hr]
    · rfl
    · exact (beginContact_frame sv site spot _ d').2.1
  | move p spot =>
    show (pad.move sv site p spot d).state.doubleTapDrag = _
    unfold Touchpad.move
    split
    · rename_i con hc
      split
      · exact (slide_frame sv site spot d hc).2.1
      · rfl
    · rfl
  | up p =>
    show (pad.up site p d).state.doubleTapDrag = _
    by_cases hp : pad.pointer? = some p
    · exact (up_frame site d hp).2.1
    · rw [up_of_ne hp]
      rfl
  | detach => rfl
  | timer h => exact (timer_frame sv site h pad d).2.1

/-! ## Many calls -/

theorem countP_cons_toNat {α : Type} (f : α → Bool) (a : α) (as : List α) :
    (a :: as).countP f = (f a).toNat + as.countP f := by
  rw [List.countP_cons, Nat.add_comm]
  cases f a <;> rfl

theorem length_primaryPresses {as : List Answered} (ha : ∀ a ∈ as, a.Accounted) :
    (as.flatMap Answered.primaryPresses).length =
      as.countP Answered.isClick + as.countP Answered.isHold + as.countP Answered.isDouble := by
  induction as with
  | nil => rfl
  | cons a as ih =>
    have h := (ha a List.mem_cons_self).pressed
    have ht := ih fun a hm => ha a (List.mem_cons_of_mem _ hm)
    simp only [List.flatMap_cons, List.length_append, countP_cons_toNat]
    omega

theorem countP_isAbsolute {as : List Answered} (ha : ∀ a ∈ as, a.Accounted) :
    (as.flatMap Answered.primaryPresses).countP MousePosition.isAbsolute =
      as.countP Answered.isDouble := by
  induction as with
  | nil => rfl
  | cons a as ih =>
    have h := (ha a List.mem_cons_self).absolute
    have ht := ih fun a hm => ha a (List.mem_cons_of_mem _ hm)
    simp only [List.flatMap_cons, List.countP_append, countP_cons_toNat]
    omega

end Touchpad

namespace Bench
open Touchpad (Answered)

variable {ι : Type} [DecidableEq ι]

def answered? (sv : Services) (site : ι → Site) (i : ι) (b : Bench ι) : Event ι → Option Answered
  | .call j c =>
    if j = i then some ⟨b.pads i, b.desk, c, (b.pads i).answer sv (site i) b.desk c⟩ else none
  | _ => none

/-- The calls on one touchpad in a run. -/
def calls (sv : Services) (site : ι → Site) (i : ι) : Bench ι → List (Event ι) → List Answered
  | _, [] => []
  | b, e :: evs => (b.answered? sv site i e).toList ++ calls sv site i (b.step sv site e) evs

variable {sv : Services} {site : ι → Site} {b : Bench ι} {i : ι} {e : Event ι}
  {evs : List (Event ι)} {a : Answered}

theorem pads_step_of_answered? (ha : b.answered? sv site i e = none) :
    (b.step sv site e).pads i = b.pads i := by
  refine pads_step ?_
  rintro ⟨c, rfl⟩
  simp [answered?] at ha

/-- A call on the touchpad is accounted for, unless it is the end of the session. -/
theorem Sound.answered (hb : b.Sound) (he : e ≠ .call i .detach)
    (ha : b.answered? sv site i e = some a) :
    a.Accounted ∧ a.pad = b.pads i ∧ a.reaction.state = (b.step sv site e).pads i := by
  cases e with
  | call j c =>
    by_cases hj : j = i
    · subst hj
      have hc : c ≠ .detach := fun hc => he (by rw [hc])
      simp only [answered?, if_true, Option.some.injEq] at ha
      subst ha
      exact ⟨Touchpad.accounted_answer c hc (hb.issued j), rfl, by simp [Bench.step]⟩
    · simp [answered?, hj] at ha
  | _ => cases ha

theorem doubleTapDrag_step (e : Event ι) :
    ((b.step sv site e).pads i).doubleTapDrag = (b.pads i).doubleTapDrag := by
  by_cases he : ∃ c, e = .call i c
  · obtain ⟨c, rfl⟩ := he
    simp [step, Touchpad.doubleTapDrag_answer]
  · rw [pads_step he]

theorem Sound.calls (hb : b.Sound) (hd : .call i .detach ∉ evs) (ha : a ∈ b.calls sv site i evs) :
    a.Accounted ∧ a.pad.doubleTapDrag = (b.pads i).doubleTapDrag := by
  induction evs generalizing b with
  | nil => cases ha
  | cons e evs ih =>
    obtain ⟨hne, hd⟩ := List.ne_and_not_mem_of_not_mem_cons hd
    rcases List.mem_append.1 ha with ha | ha
    · obtain ⟨hacc, hpad, -⟩ := hb.answered hne.symm (Option.mem_toList.1 ha)
      exact ⟨hacc, by rw [hpad]⟩
    · rw [← doubleTapDrag_step e]
      exact ih (hb.step e) hd ha

/-- The window that is open before a run counts as a press of the run. -/
theorem Sound.window (hb : b.Sound) (hd : .call i .detach ∉ evs) :
    let as := b.calls sv site i evs
    as.countP Answered.isPress + (b.pads i).phase.isPending.toNat =
      as.countP Answered.isDrag + as.countP Answered.isHold + as.countP Answered.isClick +
        2 * as.countP Answered.isDouble + ((b.run sv site evs).pads i).phase.isPending.toNat := by
  intro as
  induction evs generalizing b with
  | nil => simp [as, Bench.calls, run]
  | cons e evs ih =>
    obtain ⟨hne, hd⟩ := List.ne_and_not_mem_of_not_mem_cons hd
    have hnext : (b.step sv site e).Sound := hb.step e
    have ht := ih hnext hd
    have hrun : b.run sv site (e :: evs) = (b.step sv site e).run sv site evs := rfl
    cases ha : b.answered? sv site i e with
    | none =>
      have hcalls : b.calls sv site i (e :: evs) = (b.step sv site e).calls sv site i evs := by
        simp [Bench.calls, ha]
      rw [pads_step_of_answered? ha] at ht
      simpa only [as, hcalls, hrun] using ht
    | some a =>
      have hcalls : b.calls sv site i (e :: evs) = a :: (b.step sv site e).calls sv site i evs := by
        simp [Bench.calls, ha]
      obtain ⟨hacc, hpad, hstate⟩ := hb.answered hne.symm ha
      have h := hacc.window
      rw [hpad, hstate] at h
      simp only [as, hcalls, hrun, Touchpad.countP_cons_toNat]
      omega

/-- **Every press on a touchpad is classified once.** Without the end of the session, whatever is
called on the touchpad and on others at its desk, each press is a drag, a hold, a click or one half
of a double tap, and the last one may be undecided. The primary button is pressed once for each
click, hold and double tap, at an absolute position for the double taps. -/
theorem every_press_classified (sv : Services) (site : ι → Site) (cl : Claims)
    (doubleTapDrag : ι → Bool) (i : ι) (evs : List (Event ι)) (hd : .call i .detach ∉ evs) :
    let start := fresh cl doubleTapDrag
    let answered := start.calls sv site i evs
    let presses := answered.flatMap Answered.primaryPresses
    answered.countP Answered.isPress =
      answered.countP Answered.isDrag + answered.countP Answered.isHold +
        answered.countP Answered.isClick + 2 * answered.countP Answered.isDouble +
        ((start.run sv site evs).pads i).phase.isPending.toNat ∧
    (doubleTapDrag i = false → answered.countP Answered.isDouble = 0) ∧
    presses.length = answered.countP Answered.isClick + answered.countP Answered.isHold +
      answered.countP Answered.isDouble ∧
    presses.countP MousePosition.isAbsolute = answered.countP Answered.isDouble ∧
    ∀ a ∈ answered,
      (a.isClick = true ↔ Touchpad.clickRequests <:+: a.reaction.requests) ∧
      a.primaryPresses.countP MousePosition.isAbsolute = a.isDouble.toNat := by
  intro start answered presses
  have hstart : start.Sound := .fresh cl doubleTapDrag
  have hacc : ∀ a ∈ answered, a.Accounted := fun a ha => (hstart.calls hd ha).1
  refine ⟨hstart.window hd, fun hoff => List.countP_eq_zero.2 fun a ha hdouble => ?_,
    Touchpad.length_primaryPresses hacc, Touchpad.countP_isAbsolute hacc,
    fun a ha => ⟨(hacc a ha).clicked, (hacc a ha).absolute⟩⟩
  have htrue := (hacc a ha).doubleTap hdouble
  rw [(hstart.calls hd ha).2] at htrue
  exact absurd hoff (by simpa [start, fresh] using htrue)

/-- A double tap on the left touchpad, then a press that is held and lifted, and one that is still
down. The idle windows are the timers 0, 1 and 2. -/
def threeGestures : List (Event Bool) :=
  [.call true (.down 5 ⟨10, 10⟩), .call true (.up 5), .call true (.down 6 ⟨12, 10⟩),
    .call true (.up 6), .call true (.down 7 ⟨10, 10⟩), .call true (.timer 1),
    .call true (.up 7), .call true (.down 8 ⟨10, 10⟩)]

/-- Of the four presses two are a double tap and one is a hold, so the last is undecided, and the
button has been pressed twice. -/
theorem every_press_classified_of_threeGestures :
    Event.call true .detach ∉ threeGestures ∧
      let start := fresh .empty fun _ => true
      let answered := start.calls {} twoSites true threeGestures
      answered.countP Answered.isPress = 4 ∧ answered.countP Answered.isDouble = 1 ∧
        answered.countP Answered.isHold = 1 ∧
        ((start.run {} twoSites threeGestures).pads true).phase.isPending = true ∧
        (answered.flatMap Answered.primaryPresses).length = 2 := by
  have hd : Event.call true .detach ∉ threeGestures := by simp [threeGestures]
  refine ⟨hd, ?_⟩
  intro start answered
  have h := every_press_classified {} twoSites .empty (fun _ => true) true threeGestures hd
  have hcount : answered.countP Answered.isPress =
      answered.countP Answered.isDrag + answered.countP Answered.isHold +
        answered.countP Answered.isClick + 2 * answered.countP Answered.isDouble +
        ((start.run {} twoSites threeGestures).pads true).phase.isPending.toNat := h.1
  have hlength : (answered.flatMap Answered.primaryPresses).length =
      answered.countP Answered.isClick + answered.countP Answered.isHold +
        answered.countP Answered.isDouble := h.2.2.1
  have hpress : answered.countP Answered.isPress = 4 := by decide +kernel
  have hdouble : answered.countP Answered.isDouble = 1 := by decide +kernel
  have hhold : answered.countP Answered.isHold = 1 := by decide +kernel
  have hrest : answered.countP Answered.isDrag + answered.countP Answered.isClick = 0 := by
    decide +kernel
  exact ⟨hpress, hdouble, hhold, Bool.toNat_eq_one.1 (by omega), by omega⟩

end Bench
end TouchOverlay
