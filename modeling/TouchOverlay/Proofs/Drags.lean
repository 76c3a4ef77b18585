import TouchOverlay.Proofs.ClaimProtocol
import TouchOverlay.Proofs.PressAccounting

/-!
# Drags

While a contact stays down on a touchpad it keeps to a `Course`. In the idle window it waits, and
its movements emit nothing as long as it stays near to where it came down. When it leaves the
threshold, or when the window has passed, it drags the cursor along. A press that completes a
double tap drags the cursor from place to place with the button down.

Only a movement of the contact, its end, and the timer of the window can take it off its course
(`Course.At.answer`). The other calls on the touchpad may come between the movements, and so may
whatever happens elsewhere at the desk (`Course.At.run`). Each movement starts from where the one
before it has ended, whether that one has been emitted or not.
-/

namespace TouchOverlay
open TimerQueue

namespace Services

/-- The event of a pulse, unless haptic feedback is off. -/
def pulses (sv : Services) : List OutputEvent :=
  (sv.haptic.map fun pulse => .vibrate pulse.milliseconds pulse.amplitude).toList

/-- The cursor follows the finger. -/
def glide (sv : Services) (last spot : Point) : OutputEvent :=
  let way := (spot - last).scale sv.tuning.moveRatio
  .moveBy way.x way.y

theorem events_pulse_cons (sv : Services) (rs : List Request) :
    sv.events (.pulse :: rs) = sv.pulses ++ sv.events rs := by
  obtain ⟨haptic, density, tuning, accepting⟩ := sv
  cases haptic <;> rfl

end Services

namespace Touchpad

/-- The position to which a call moves the pointer. -/
def Call.movedTo? (p : PointerId) : Call → Option Point
  | move r spot => if r = p then some spot else none
  | _ => none

/-- How a contact goes on while it stays down: the phase it keeps the touchpad in while it is at a
position, what a movement from one position to another emits, and the calls that do not end it. -/
structure Course where
  phase : Point → Phase
  emits : Point → Point → List OutputEvent
  admits : Call → Prop

variable {sv : Services} {site : Site} {pad : Touchpad} {d : Desk} {p : PointerId} {c : Call}
  {q q₀ q' spot : Point} {idle h : TimerHandle} {con : Contact}

namespace Course

/-- A contact that came down at `q₀` waits for the idle window to pass. -/
def waiting (sv : Services) (p : PointerId) (q₀ : Point) (idle : TimerHandle) : Course where
  phase _ := .pending idle
  emits _ _ := []
  admits c := c ≠ .timer idle ∧
    ∀ q, c.movedTo? p = some q → ¬ sv.moveThreshold < (q - q₀).length

def dragging (sv : Services) (phase : Phase) : Course where
  phase _ := phase
  emits q q' := [sv.glide q q']
  admits _ := True

/-- The contact of a double tap drags the cursor from place to place. -/
def pointing (sv : Services) (site : Site) : Course where
  phase q := .doubleClick (dragTarget sv site q)
  emits _ q' := [.moveTo (dragTarget sv site q').x (dragTarget sv site q').y]
  admits _ := True

/-- The touchpad is on the course, with a contact that came down at `q₀` and is at `q`. -/
structure At (k : Course) (p : PointerId) (q₀ q : Point) (pad : Touchpad) : Prop where
  contact : pad.contact? = some ⟨p, q₀, q⟩
  phase : pad.phase = k.phase q

/-- Movements emit what the course says and stay on it, and the timer of an open window ends it. -/
structure Lawful (k : Course) (sv : Services) (site : Site) (p : PointerId) (q₀ : Point) :
    Prop where
  slide {pad : Touchpad} {q : Point} (q' : Point) (d : Desk) :
    pad.phase = k.phase q → k.admits (.move p q') →
      let r := pad.slide sv site ⟨p, q₀, q⟩ q' d
      r.state.phase = k.phase q' ∧ sv.events r.requests = k.emits q q'
  idle {q : Point} {h : TimerHandle} : k.phase q = .pending h → ¬ k.admits (.timer h)

variable {k : Course}

theorem lawful_waiting : (waiting sv p q₀ idle).Lawful sv site p q₀ where
  slide {pad q} q' d hp hadm := by
    have hp : pad.phase = .pending idle := hp
    have hnear := hadm.2 q' (by simp [Call.movedTo?])
    simp only [Touchpad.slide, hp, if_neg hnear]
    exact ⟨rfl, rfl⟩
  idle {q h} hp hadm := by
    cases hp
    exact hadm.1 rfl

theorem lawful_dragging {phase : Phase} (hph : phase = .moving ∨ phase = .pressMoving) :
    (dragging sv phase).Lawful sv site p q₀ where
  slide {pad q} q' d hp _ := by
    have hp : pad.phase = phase := hp
    rcases hph with rfl | rfl <;> simp only [Touchpad.slide, hp] <;> exact ⟨rfl, rfl⟩
  idle {q h} hp _ := by
    have hp : phase = .pending h := hp
    rcases hph with rfl | rfl <;> cases hp

theorem lawful_pointing : (pointing sv site).Lawful sv site p q₀ where
  slide {pad q} q' d hp _ := by
    have hp : pad.phase = .doubleClick (dragTarget sv site q) := hp
    simp only [Touchpad.slide, hp]
    exact ⟨rfl, rfl⟩
  idle hp := by cases hp

theorem flatten_pointing (q : Point) (qs : List Point) :
    (List.zipWith (pointing sv site).emits (q :: qs) qs).flatten =
      qs.map fun q => .moveTo (dragTarget sv site q).x (dragTarget sv site q).y := by
  induction qs generalizing q with
  | nil => rfl
  | cons q' qs ih => exact congrArg (_ :: ·) (ih q')

end Course

/-! ## One call -/

theorem contact?_slide :
    (slide sv site con spot pad d).state.contact? = some { con with last := spot } := by
  unfold slide
  dsimp only
  split
  · split <;> rfl
  all_goals rfl

theorem down_of_consumed (h : (pad.down sv site p spot d).consumed = true) :
    pad.contact? = none ∧ ∃ d', site.take? p d = some d' ∧
      pad.down sv site p spot d =
        beginContact sv site spot { pad with contact? := some ⟨p, spot, spot⟩ } d' := by
  rcases pad.down_cases sv site p spot d with ⟨hr, -⟩ | ⟨d', hnone, ht, hr⟩
  · rw [hr] at h
    cases h
  · exact ⟨hnone, d', ht, hr⟩

theorem down_of_contact (hc : pad.contact? = some con) :
    pad.down sv site p spot d = .ignored pad d := by
  simp [Touchpad.down, hc]

theorem move_of_contact (hc : pad.contact? = some con) :
    pad.move sv site con.pointer spot d = slide sv site con spot pad d := by
  simp [Touchpad.move, hc]

theorem move_of_ne (hc : pad.contact? = some con) (hp : con.pointer ≠ p) :
    pad.move sv site p spot d = .ignored pad d := by
  simp [Touchpad.move, hc, hp]

namespace Course
variable {k : Course}

theorem At.pointer? (ha : k.At p q₀ q pad) : pad.pointer? = some p := by
  simp [Touchpad.pointer?, ha.contact]

/-- The reaction to a call leaves the touchpad on the course. Only movements of the contact emit
anything, and the timer of a click, which is about an earlier contact. -/
structure Follows (k : Course) (sv : Services) (p : PointerId) (q₀ q : Point) (c : Call)
    (r : Reaction Touchpad) : Prop where
  onCourse : k.At p q₀ ((c.movedTo? p).getD q) r.state
  moved {q' : Point} : c.movedTo? p = some q' → sv.events r.requests = k.emits q q'
  quiet : c.movedTo? p = none → (∀ h, c ≠ .timer h) → r.requests = []

theorem At.ignored (ha : k.At p q₀ q pad) (hm : c.movedTo? p = none) :
    k.Follows sv p q₀ q c (.ignored pad d) where
  onCourse := by
    rw [hm]
    exact ha
  moved he := by
    rw [hm] at he
    cases he
  quiet _ _ := rfl

theorem At.answer (hk : k.Lawful sv site p q₀) (ha : k.At p q₀ q pad) (hadm : k.admits c)
    (hup : c ≠ .up p) (hdetach : c ≠ .detach) :
    k.Follows sv p q₀ q c (pad.answer sv site d c) := by
  cases c with
  | down r spot =>
    have hans : pad.answer sv site d (.down r spot) = _ := down_of_contact ha.contact
    rw [hans]
    exact ha.ignored rfl
  | move r q' =>
    by_cases hr : r = p
    · subst hr
      have hm : (Call.move r q').movedTo? r = some q' := if_pos rfl
      have hans : pad.answer sv site d (.move r q') = slide sv site ⟨r, q₀, q⟩ q' pad d :=
        move_of_contact ha.contact
      have hs := hk.slide q' d ha.phase hadm
      rw [hans]
      refine ⟨?_, fun he => ?_, fun hn => ?_⟩
      · rw [hm]
        exact ⟨contact?_slide, hs.1⟩
      · cases hm.symm.trans he
        exact hs.2
      · cases hm.symm.trans hn
    · have hans : pad.answer sv site d (.move r q') = _ := move_of_ne ha.contact (Ne.symm hr)
      rw [hans]
      exact ha.ignored (if_neg hr)
  | up r =>
    have hr : pad.pointer? ≠ some r := fun he => hup (by rw [ha.pointer?] at he; cases he; rfl)
    have hans : pad.answer sv site d (.up r) = _ := up_of_ne hr
    rw [hans]
    exact ha.ignored rfl
  | detach => exact absurd rfl hdetach
  | timer h =>
    by_cases hc : pad.clickTimer? = some h
    · have hans : pad.answer sv site d (.timer h) = _ := timer_of_click hc
      rw [hans]
      exact ⟨⟨ha.contact, ha.phase⟩, nofun, fun _ hne => absurd rfl (hne h)⟩
    · have hp : pad.phase ≠ .pending h := fun hp => hk.idle (ha.phase.symm.trans hp) hadm
      have hans : pad.answer sv site d (.timer h) = _ := timer_of_not_mem (not_mem_timers hc hp)
      rw [hans]
      exact ha.ignored rfl

/-! ## From one course to the next -/

theorem waiting_of_down (hidle : pad.phase = .idle)
    (hc : (pad.down sv site p q₀ d).consumed = true) :
    let r := pad.down sv site p q₀ d
    (waiting sv p q₀ d.timers.nextHandle).At p q₀ q₀ r.state ∧
      r.desk.timers.isPending d.timers.nextHandle = true := by
  obtain ⟨-, d', ht, hr⟩ := down_of_consumed hc
  rw [hr, ← (Site.take?_eq_some ht).2]
  simp only [beginContact, hidle, startPending]
  refine ⟨⟨rfl, rfl⟩, ?_⟩
  show (d'.timers.schedule site.id sv.tuning.idleTimeout).2.isPending d'.timers.nextHandle = true
  rw [isPending_eq, deadlines_schedule, if_pos rfl]
  rfl

theorem At.crossing (ha : (waiting sv p q₀ idle).At p q₀ q pad) (site : Site) (d : Desk)
    (hfar : sv.moveThreshold < (q' - q₀).length) :
    let r := pad.move sv site p q' d
    (dragging sv .moving).At p q₀ q' r.state ∧ sv.events r.requests = [sv.glide q₀ q'] := by
  have hp : pad.phase = .pending idle := ha.phase
  have hr : pad.move sv site p q' d = slide sv site ⟨p, q₀, q⟩ q' pad d :=
    move_of_contact ha.contact
  rw [hr]
  -- the way is measured from `q₀`, so what the contact has moved before is made up for
  simp only [Touchpad.slide, hp, if_pos hfar]
  exact ⟨⟨rfl, rfl⟩, rfl⟩

theorem At.mem_cancels (ha : (waiting sv p q₀ idle).At p q₀ q pad)
    (hfar : sv.moveThreshold < (q' - q₀).length) :
    idle ∈ pad.cancels sv site d (.move p q') := by
  have hidle : pad.idleTimer? = some idle := idleTimer?_eq_some_iff.2 ha.phase
  simp [cancels, ha.contact, hfar, hidle]

theorem At.held (ha : (waiting sv p q₀ idle).At p q₀ q pad) (site : Site) (d : Desk)
    (hc : pad.clickTimer? ≠ some idle) :
    let r := pad.timer sv site idle d
    (dragging sv .pressMoving).At p q₀ q r.state ∧
      sv.events r.requests = sv.pulses ++ [.mouse .left true .here] := by
  rw [timer_of_idle hc ha.phase, closeWindow, if_pos (by rw [ha.contact]; rfl)]
  exact ⟨⟨ha.contact, rfl⟩, Services.events_pulse_cons sv _⟩

theorem pointing_of_down (hdrag : pad.doubleTapDrag = true) (hp : pad.phase = .pending idle)
    (hc : (pad.down sv site p q₀ d).consumed = true) :
    let r := pad.down sv site p q₀ d
    (pointing sv site).At p q₀ q₀ r.state ∧
      sv.events r.requests =
        sv.pulses ++ [.mouse .left true (.ofPoint (dragTarget sv site q₀))] := by
  obtain ⟨-, d', -, hr⟩ := down_of_consumed hc
  rw [hr]
  simp only [beginContact, hp, hdrag, if_true]
  exact ⟨⟨rfl, rfl⟩, Services.events_pulse_cons sv _⟩

theorem mem_cancels_of_down (hdrag : pad.doubleTapDrag = true) (hp : pad.phase = .pending idle)
    (hc : (pad.down sv site p q₀ d).consumed = true) :
    idle ∈ pad.cancels sv site d (.down p q₀) := by
  obtain ⟨hnone, d', htake, -⟩ := down_of_consumed hc
  simp [cancels, pressCancels, hnone, htake, hp, hdrag]

theorem At.lift_dragging {phase : Phase} (ha : (dragging sv phase).At p q₀ q pad) (site : Site)
    (d : Desk) (hph : phase = .moving ∨ phase = .pressMoving) :
    (pad.up site p d).requests = (if phase.holdsButton then [.primary false .here] else []) ∧
      (pad.up site p d).state.phase = .idle := by
  have hp : pad.phase = phase := ha.phase
  rcases hph with rfl | rfl <;> simp [Touchpad.up, ha.pointer?, hp, Phase.holdsButton]

theorem At.lift_pointing (ha : (pointing sv site).At p q₀ q pad) (d : Desk) :
    (pad.up site p d).requests = [.primary false (.ofPoint (dragTarget sv site q))] ∧
      (pad.up site p d).state.phase = .idle := by
  have hp : pad.phase = .doubleClick (dragTarget sv site q) := ha.phase
  simp [Touchpad.up, ha.pointer?, hp]

end Course
end Touchpad

namespace Bench
open Touchpad (Course)

variable {ι : Type}

def emits (sv : Services) (site : ι → Site) (b : Bench ι) (i : ι) (c : Touchpad.Call) :
    List OutputEvent :=
  sv.events ((b.pads i).answer sv (site i) b.desk c).requests

/-- The contact of a pointer on a touchpad does not end. -/
def StaysDown (i : ι) (p : PointerId) (evs : List (Event ι)) : Prop :=
  .call i (.up p) ∉ evs ∧ .call i .detach ∉ evs

variable {sv : Services} {site : ι → Site} {b : Bench ι} {i : ι} {p : PointerId} {e : Event ι}
  {evs evs' : List (Event ι)} {c : Touchpad.Call} {k : Course} {q q₀ : Point} {h : TimerHandle}

theorem StaysDown.cons (hs : StaysDown i p (e :: evs)) :
    e ≠ .call i (.up p) ∧ e ≠ .call i .detach ∧ StaysDown i p evs := by
  obtain ⟨hup, hups⟩ := List.ne_and_not_mem_of_not_mem_cons hs.1
  obtain ⟨hdetach, hdetachs⟩ := List.ne_and_not_mem_of_not_mem_cons hs.2
  exact ⟨hup.symm, hdetach.symm, hups, hdetachs⟩

theorem Sound.clickTimer?_ne (hb : b.Sound) (hp : (b.pads i).phase = .pending h) :
    (b.pads i).clickTimer? ≠ some h := by
  intro hc
  have hn := (hb.issued i).nodup
  rw [Touchpad.timers_of_pending hp, hc] at hn
  simp at hn

/-! ## Runs -/

variable [DecidableEq ι]

/-- The events of the calls on one touchpad. -/
def emitted (sv : Services) (site : ι → Site) (i : ι) (b : Bench ι) (evs : List (Event ι)) :
    List OutputEvent :=
  (b.calls sv site i evs).flatMap fun a => sv.events a.reaction.requests

/-- For each movement of a pointer on it, the events of the movement. -/
def moveEvents (sv : Services) (site : ι → Site) (i : ι) (p : PointerId) (b : Bench ι)
    (evs : List (Event ι)) : List (List OutputEvent) :=
  (b.calls sv site i evs).filterMap fun a =>
    (a.call.movedTo? p).map fun _ => sv.events a.reaction.requests

def Event.movedTo? (i : ι) (p : PointerId) : Event ι → Option Point
  | .call j c => if j = i then c.movedTo? p else none
  | _ => none

/-- The positions to which a pointer moves on a touchpad. -/
def movesOf (i : ι) (p : PointerId) (evs : List (Event ι)) : List Point :=
  evs.filterMap (Event.movedTo? i p)

theorem movesOf_append : movesOf i p (evs ++ evs') = movesOf i p evs ++ movesOf i p evs' :=
  List.filterMap_append

theorem calls_append : b.calls sv site i (evs ++ evs') =
    b.calls sv site i evs ++ (b.run sv site evs).calls sv site i evs' := by
  induction evs generalizing b with
  | nil => rfl
  | cons e evs ih =>
    rw [List.cons_append, calls, ih, calls, List.append_assoc]
    rfl

theorem emitted_append : b.emitted sv site i (evs ++ evs') =
    b.emitted sv site i evs ++ (b.run sv site evs).emitted sv site i evs' := by
  rw [emitted, calls_append, List.flatMap_append]
  rfl

theorem moveEvents_append : b.moveEvents sv site i p (evs ++ evs') =
    b.moveEvents sv site i p evs ++ (b.run sv site evs).moveEvents sv site i p evs' := by
  rw [moveEvents, calls_append, List.filterMap_append]
  rfl

theorem pads_call : (b.step sv site (.call i c)).pads i =
    ((b.pads i).answer sv (site i) b.desk c).state := if_pos rfl

theorem at_call (ha : k.At p q₀ q ((b.pads i).answer sv (site i) b.desk c).state) :
    k.At p q₀ q ((b.step sv site (.call i c)).pads i) := by
  rwa [pads_call]

theorem emitted_call : b.emitted sv site i [.call i c] = b.emits sv site i c := by
  simp [emitted, emits, calls, answered?]

theorem moveEvents_call : b.moveEvents sv site i p [.call i c] =
    ((c.movedTo? p).map fun _ => b.emits sv site i c).toList := by
  cases hm : c.movedTo? p <;> simp [moveEvents, emits, calls, answered?, hm]

theorem answered?_of_ne (he : ¬ ∃ c, e = .call i c) : b.answered? sv site i e = none := by
  cases e with
  | call j c =>
    have hj : j ≠ i := fun hj => he ⟨c, by rw [hj]⟩
    simp [answered?, hj]
  | _ => rfl

theorem movedTo?_of_ne (he : ¬ ∃ c, e = .call i c) : e.movedTo? i p = none := by
  cases e with
  | call j c =>
    have hj : j ≠ i := fun hj => he ⟨c, by rw [hj]⟩
    simp [Event.movedTo?, hj]
  | _ => rfl

theorem course_step (hk : k.Lawful sv (site i) p q₀) (ha : k.At p q₀ q (b.pads i))
    (hup : e ≠ .call i (.up p)) (hdetach : e ≠ .call i .detach)
    (hadm : ∀ c, e = .call i c → k.admits c) :
    k.At p q₀ ((e.movedTo? i p).getD q) ((b.step sv site e).pads i) ∧
      b.moveEvents sv site i p [e] = ((e.movedTo? i p).map (k.emits q)).toList ∧
      ((∀ h, e ≠ .call i (.timer h)) →
        b.emitted sv site i [e] = (b.moveEvents sv site i p [e]).flatten) := by
  by_cases he : ∃ c, e = .call i c
  · obtain ⟨c, rfl⟩ := he
    have hf : k.Follows sv p q₀ q c ((b.pads i).answer sv (site i) b.desk c) :=
      ha.answer hk (hadm c rfl) (fun hc => hup (by rw [hc])) (fun hc => hdetach (by rw [hc]))
    have hmoved : (Event.call i c).movedTo? i p = c.movedTo? p := if_pos rfl
    rw [hmoved, pads_call, moveEvents_call, emitted_call]
    refine ⟨hf.onCourse, ?_, fun ht => ?_⟩
    · cases hm : c.movedTo? p with
      | some q' => exact congrArg (fun es => [es]) (hf.moved hm)
      | none => rfl
    · cases hm : c.movedTo? p with
      | some q' => simp
      | none =>
        have hquiet := hf.quiet hm fun h hc => ht h (by rw [hc])
        simp [emits, hquiet, Services.events]
  · rw [movedTo?_of_ne he, pads_step he]
    have hnone : b.answered? sv site i e = none := answered?_of_ne he
    exact ⟨ha, by simp [moveEvents, calls, hnone], fun _ => by
      simp [moveEvents, emitted, calls, hnone]⟩

/-- A contact that stays down keeps to its course, whatever comes between its movements. -/
theorem course_run (hk : k.Lawful sv (site i) p q₀) (ha : k.At p q₀ q (b.pads i))
    (hs : StaysDown i p evs) (hadm : ∀ c, .call i c ∈ evs → k.admits c) :
    k.At p q₀ ((movesOf i p evs).getLastD q) ((b.run sv site evs).pads i) ∧
      b.moveEvents sv site i p evs =
        List.zipWith k.emits (q :: movesOf i p evs) (movesOf i p evs) ∧
      ((∀ h, .call i (.timer h) ∉ evs) →
        b.emitted sv site i evs = (b.moveEvents sv site i p evs).flatten) := by
  induction evs generalizing b q with
  | nil => exact ⟨ha, rfl, fun _ => rfl⟩
  | cons e evs ih =>
    obtain ⟨hup, hdetach, hs⟩ := hs.cons
    obtain ⟨hnext, hmove, hemit⟩ := course_step hk ha hup hdetach fun c hc =>
      hadm c (by rw [hc]; exact List.mem_cons_self)
    -- the rest starts from where `e` has moved the contact, if it is a movement
    obtain ⟨hlast, hmoves, hemits⟩ := ih hnext hs fun c hc => hadm c (List.mem_cons_of_mem _ hc)
    have hrun : b.run sv site [e] = b.step sv site e := rfl
    have hmovesOf : movesOf i p [e] = (e.movedTo? i p).toList := by
      cases hm : e.movedTo? i p <;> simp [movesOf, hm]
    rw [← List.singleton_append, movesOf_append, hmovesOf, moveEvents_append, emitted_append, hrun,
      hmove, hmoves]
    refine ⟨?_, ?_, fun ht => ?_⟩
    · cases hm : e.movedTo? i p with
      | some q' =>
        rw [hm] at hlast
        show k.At p q₀ ((q' :: movesOf i p evs).getLastD q) _
        rw [List.getLastD_cons]
        exact hlast
      | none =>
        rw [hm] at hlast
        exact hlast
    · cases e.movedTo? i p <;> rfl
    · rw [hemit fun h he => ht h (by rw [he]; exact List.mem_cons_self),
        hemits fun h hm => ht h (List.mem_cons_of_mem _ hm), hmove, hmoves, List.flatten_append]

/-! ## Timers that have left the queue -/

theorem Sound.not_pending_of_cancels (hb : b.Sound) (hlt : h < b.nextHandle)
    (hm : h ∈ (b.pads i).cancels sv (site i) b.desk c) :
    (b.step sv site (.call i c)).desk.timers.isPending h = false := by
  rw [hb.isPending_call i c hlt]
  simp [hm]

theorem Sound.not_pending_step (hb : b.Sound) (e : Event ι) (hlt : h < b.nextHandle)
    (hn : b.desk.timers.isPending h = false) :
    (b.step sv site e).desk.timers.isPending h = false := by
  cases e with
  | call i c => rw [hb.isPending_call i c hlt, hn, Bool.false_and]
  | expire now =>
    unfold step
    dsimp only
    split
    · rename_i hq
      rw [isPending_eq] at hn ⊢
      rw [(deadlines_popExpired? hb.wf hq).2]
      split
      · rfl
      · exact hn
    · exact hn
  | schedule o delay =>
    have hne : b.desk.timers.nextHandle ≠ h := (Nat.ne_of_lt hlt).symm
    rw [isPending_eq] at hn
    show (b.desk.timers.schedule o delay).2.isPending h = false
    rw [isPending_eq, deadlines_schedule, if_neg hne, hn]
  | _ => exact hn

theorem Sound.not_pending_run (hb : b.Sound) (evs : List (Event ι)) (hlt : h < b.nextHandle)
    (hn : b.desk.timers.isPending h = false) :
    (b.run sv site evs).desk.timers.isPending h = false := by
  induction evs generalizing b with
  | nil => exact hn
  | cons e evs ih =>
    exact ih (hb.step e) (Nat.lt_of_lt_of_le hlt (hb.nextHandle_le e))
      (hb.not_pending_step e hlt hn)

/-! ## Drags -/

/-- The contact, which is at `q`, drags the cursor along until it lifts. Each movement emits the way
from where the contact was before it, and the lift emits `ends`. -/
def Drags (sv : Services) (site : ι → Site) (b : Bench ι) (i : ι) (p : PointerId) (q : Point)
    (ends : List OutputEvent) : Prop :=
  ∀ evs, StaysDown i p evs →
    let qs := movesOf i p evs
    let b' := b.run sv site evs
    b.moveEvents sv site i p evs = List.zipWith (fun q q' => [sv.glide q q']) (q :: qs) qs ∧
      b'.emits sv site i (.up p) = ends ∧
      ((b'.step sv site (.call i (.up p))).pads i).phase = .idle

theorem drags_of_at {phase : Phase} (hph : phase = .moving ∨ phase = .pressMoving)
    (ha : (Course.dragging sv phase).At p q₀ q (b.pads i)) :
    b.Drags sv site i p q
      (sv.events (if phase.holdsButton then [.primary false .here] else [])) := by
  intro evs hs qs b'
  have hk : (Course.dragging sv phase).Lawful sv (site i) p q₀ := Course.lawful_dragging hph
  obtain ⟨hlast, hmoves, -⟩ := course_run hk ha hs fun _ _ => trivial
  obtain ⟨hrequests, hphase⟩ := hlast.lift_dragging (site i) b'.desk hph
  refine ⟨hmoves, congrArg sv.events hrequests, ?_⟩
  rw [pads_call]
  exact hphase

/-- **A drag loses no movement**, on any sound bench, which is what every run from a fresh one leads
to, and whatever comes between the movements. A press on an idle touchpad opens a window, and while
the contact stays near to where it came down its movements emit nothing. The movement that leaves
the threshold emits the way from where the contact came down, and closes the window; from there on
each movement emits the way from the last position, and the lift emits nothing. If the window passes
first, the button is pressed and the movements are emitted from wherever the contact is then, at any
distance, until the lift releases the button. -/
theorem drags_lose_no_movement (sv : Services) (site : ι → Site) (b : Bench ι) (hb : b.Sound)
    (i : ι) (p : PointerId) (q₀ : Point) (hidle : (b.pads i).phase = .idle)
    (hc : ((b.pads i).answer sv (site i) b.desk (.down p q₀)).consumed = true) :
    let b₁ := b.step sv site (.call i (.down p q₀))
    let idle := b.nextHandle
    (b₁.pads i).phase = .pending idle ∧ b₁.desk.timers.isPending idle = true ∧
    ∀ early, StaysDown i p early → .call i (.timer idle) ∉ early →
      (∀ q ∈ movesOf i p early, ¬ sv.moveThreshold < (q - q₀).length) →
      let b₂ := b₁.run sv site early
      (∀ es ∈ b₁.moveEvents sv site i p early, es = []) ∧
      (∀ q, sv.moveThreshold < (q - q₀).length →
        let b₃ := b₂.step sv site (.call i (.move p q))
        b₂.emits sv site i (.move p q) = [sv.glide q₀ q] ∧
        b₃.desk.timers.isPending idle = false ∧ (b₃.pads i).phase = .moving ∧
        b₃.Drags sv site i p q []) ∧
      let b₃ := b₂.step sv site (.call i (.timer idle))
      b₂.emits sv site i (.timer idle) = sv.pulses ++ [.mouse .left true .here] ∧
      (b₃.pads i).phase = .pressMoving ∧
      b₃.Drags sv site i p ((movesOf i p early).getLastD q₀) [.mouse .left false .here] := by
  intro b₁ idle
  obtain ⟨hwaiting, hpending⟩ := Course.waiting_of_down hidle hc
  have hat : (Course.waiting sv p q₀ idle).At p q₀ q₀ (b₁.pads i) := at_call hwaiting
  refine ⟨hat.phase, hpending, fun early hs htimer hnear => ?_⟩
  intro b₂
  have hb₁ : b₁.Sound := hb.step _
  have hb₂ : b₂.Sound := hb₁.run early
  have hadm : ∀ c, .call i c ∈ early → (Course.waiting sv p q₀ idle).admits c := fun c hm =>
    ⟨fun he => htimer (he ▸ hm), fun q hq =>
      hnear q (List.mem_filterMap.2 ⟨_, hm, (if_pos rfl).trans hq⟩)⟩
  obtain ⟨hlast, hmoves, -⟩ := course_run (Course.lawful_waiting) hat hs hadm
  have hlt : idle < b₂.nextHandle := hb₂.lt (.inr hlast.phase)
  refine ⟨fun es hm => ?_, fun q hfar => ?_, ?_⟩
  · -- what a contact that waits emits does not depend on its positions
    rw [hmoves, ← List.map_uncurry_zip_eq_zipWith] at hm
    obtain ⟨_, -, rfl⟩ := List.mem_map.1 hm
    rfl
  · intro b₃
    obtain ⟨hmoving, hevents⟩ := hlast.crossing (site i) b₂.desk hfar
    have hat₃ : (Course.dragging sv .moving).At p q₀ q (b₃.pads i) := at_call hmoving
    exact ⟨hevents, hb₂.not_pending_of_cancels hlt (hlast.mem_cancels hfar), hat₃.phase,
      drags_of_at (.inl rfl) hat₃⟩
  · intro b₃
    obtain ⟨hheld, hevents⟩ := hlast.held (site i) b₂.desk (hb₂.clickTimer?_ne hlast.phase)
    have hat₃ : (Course.dragging sv .pressMoving).At p q₀ ((movesOf i p early).getLastD q₀)
        (b₃.pads i) := at_call hheld
    exact ⟨hevents, hat₃.phase, drags_of_at (.inr rfl) hat₃⟩

def buzzing : Services := { haptic := some {} }

/-- Two movements near to where the contact came down, with a press on the other touchpad in
between. -/
def jitter : List (Event Bool) :=
  [.call true (.move 5 ⟨12, 10⟩), .call false (.down 6 ⟨20, 20⟩), .call true (.move 5 ⟨13, 11⟩)]

/-- The movement that leaves the threshold makes up for the jitter. A drag with the button down
does not. -/
theorem drags_lose_no_movement_of_jitter :
    let b := fresh .empty fun _ => true
    let b₁ := b.step buzzing twoSites (.call true (.down 5 ⟨10, 10⟩))
    let b₂ := b₁.run buzzing twoSites jitter
    let moving := b₂.step buzzing twoSites (.call true (.move 5 ⟨40, 10⟩))
    let pressed := b₂.step buzzing twoSites (.call true (.timer 0))
    (b.pads true).phase = .idle ∧
      ((b.pads true).answer buzzing (twoSites true) b.desk (.down 5 ⟨10, 10⟩)).consumed = true ∧
      StaysDown true 5 jitter ∧ .call true (.timer 0) ∉ jitter ∧
      (∀ q ∈ movesOf true 5 jitter, ¬ buzzing.moveThreshold < (q - ⟨10, 10⟩).length) ∧
      buzzing.moveThreshold < (⟨40, 10⟩ - ⟨10, 10⟩ : Point).length ∧
      b₂.emits buzzing twoSites true (.move 5 ⟨40, 10⟩) = [.moveBy 60 0] ∧
      moving.moveEvents buzzing twoSites true 5 [.call true (.move 5 ⟨45, 10⟩)] = [[.moveBy 10 0]] ∧
      b₂.emits buzzing twoSites true (.timer 0) =
        [.vibrate 50 30, .mouse .left true (.relative 0 0)] ∧
      pressed.moveEvents buzzing twoSites true 5 [.call true (.move 5 ⟨45, 10⟩)] =
        [[.moveBy 64 (-2)]] := by
  intro b b₁ b₂ moving pressed
  have hc : ((b.pads true).answer buzzing (twoSites true) b.desk (.down 5 ⟨10, 10⟩)).consumed =
      true := by decide +kernel
  have hs : StaysDown true 5 jitter := by simp [StaysDown, jitter]
  have ht : .call true (.timer 0) ∉ jitter := by simp [jitter]
  have hnear : ∀ q ∈ movesOf true 5 jitter,
      ¬ buzzing.moveThreshold < (q - ⟨10, 10⟩).length := by decide +kernel
  have hfar : buzzing.moveThreshold < (⟨40, 10⟩ - ⟨10, 10⟩ : Point).length := by decide +kernel
  have hlater (q : Point) : StaysDown true 5 [.call true (.move 5 q)] := by simp [StaysDown]
  obtain ⟨-, -, hdrag⟩ :=
    drags_lose_no_movement buzzing twoSites b (.fresh _ _) true 5 ⟨10, 10⟩ rfl hc
  obtain ⟨-, hcross, hheld, -, hpressed⟩ := hdrag jitter hs ht hnear
  obtain ⟨hmove, -, -, hmoving⟩ := hcross ⟨40, 10⟩ hfar
  refine ⟨rfl, hc, hs, ht, hnear, hfar, hmove.trans ?_, (hmoving _ (hlater _)).1.trans ?_,
    hheld.trans ?_, (hpressed _ (hlater _)).1.trans ?_⟩ <;> decide +kernel

/-- **The drag of a double tap ends where it has pointed last.** A second press in the window, where
double taps drag, presses the button at the place that it points to; each movement moves the cursor
to the place that it points to; and the lift releases the button at the last of them. The touchpad
emits nothing else, the timer of the window is gone, and the touchpad is idle and owns nothing. -/
theorem double_tap_drag_ends_where_it_points (sv : Services) (site : ι → Site) (b : Bench ι)
    (hb : b.Sound) (i : ι) (p : PointerId) (q₀ : Point) (idle : TimerHandle)
    (hdrag : (b.pads i).doubleTapDrag = true) (hidle : (b.pads i).phase = .pending idle)
    (hc : ((b.pads i).answer sv (site i) b.desk (.down p q₀)).consumed = true)
    (evs : List (Event ι)) (hs : StaysDown i p evs) (ht : ∀ h, .call i (.timer h) ∉ evs) :
    let place (q : Point) : Point := (site i).surface.center +
      (q - (site i).bounds.localCenter).scale sv.tuning.moveRatio
    let qs := movesOf i p evs
    let gesture := .call i (.down p q₀) :: (evs ++ [.call i (.up p)])
    let b' := b.run sv site gesture
    b.emitted sv site i gesture =
      sv.pulses ++ .mouse .left true (.ofPoint (place q₀)) ::
        qs.map (fun q => .moveTo (place q).x (place q).y) ++
          [.mouse .left false (.ofPoint (place (qs.getLastD q₀)))] ∧
    (b.step sv site (.call i (.down p q₀))).desk.timers.isPending idle = false ∧
    b'.desk.timers.isPending idle = false ∧
    (b'.pads i).phase = .idle ∧ (b'.pads i).pointer? = none ∧
    ((site i).passThrough = false → b'.desk.claims.owner? p ≠ some (site i).id) := by
  intro place qs gesture b'
  let b₁ := b.step sv site (.call i (.down p q₀))
  let b₂ := b₁.run sv site evs
  have hb₁ : b₁.Sound := hb.step _
  have hb₂ : b₂.Sound := hb₁.run evs
  have hb' : b' = b₂.step sv site (.call i (.up p)) := by
    simp [b', b₂, b₁, gesture, run]
  obtain ⟨hpointing, hpress⟩ := Course.pointing_of_down hdrag hidle hc
  have hat : (Course.pointing sv (site i)).At p q₀ q₀ (b₁.pads i) := at_call hpointing
  obtain ⟨hlast, hmoves, hemitted⟩ := course_run Course.lawful_pointing hat hs fun _ _ => trivial
  obtain ⟨hrelease, hphase⟩ := hlast.lift_pointing b₂.desk
  have hp : (b₂.pads i).pointer? = some p := hlast.pointer?
  obtain ⟨hcontact, -, hdesk, -⟩ := Touchpad.up_frame (site i) b₂.desk hp
  have hlt : idle < b.nextHandle := hb.lt (.inr hidle)
  have hcancelled : b₁.desk.timers.isPending idle = false :=
    hb.not_pending_of_cancels hlt (Course.mem_cancels_of_down hdrag hidle hc)
  refine ⟨?_, hcancelled, ?_, ?_, ?_, fun hclaims => ?_⟩
  · have hfirst : b.emits sv site i (.down p q₀) = _ := hpress
    have hlift : b₂.emits sv site i (.up p) = _ := congrArg sv.events hrelease
    have hmiddle : b₁.emitted sv site i evs = _ := hemitted ht
    have hsplit : gesture = [.call i (.down p q₀)] ++ (evs ++ [.call i (.up p)]) := rfl
    rw [hsplit, emitted_append, emitted_append, emitted_call, emitted_call, hfirst]
    show sv.pulses ++ [.mouse .left true _] ++
      (b₁.emitted sv site i evs ++ b₂.emits sv site i (.up p)) = _
    rw [hmiddle, hmoves, hlift, Course.flatten_pointing]
    simp only [List.append_assoc, List.cons_append]
    rfl
  · exact hb₁.not_pending_run (evs ++ [.call i (.up p)])
      (Nat.lt_of_lt_of_le hlt (hb.nextHandle_le _)) hcancelled
  · rw [hb', pads_call]
    exact hphase
  · rw [hb', pads_call]
    exact congrArg (Option.map _) hcontact
  · have hdropped : b'.desk.claims = b₂.desk.claims.drop p (site i).id (site i).passThrough := by
      rw [hb']
      exact congrArg Desk.claims hdesk
    rw [hdropped, Claims.owner?_drop]
    split
    · exact (Option.some_ne_none _).symm
    · rename_i hn
      exact fun ho => hn ⟨hclaims, rfl, ho⟩

/-- A tap on the left touchpad, whose idle window is still open. -/
def firstTap : List (Event Bool) := [.call true (.down 5 ⟨10, 10⟩), .call true (.up 5)]

/-- Two places later the button is released at the second of them. -/
theorem double_tap_drag_ends_where_it_points_of_slide :
    let b := (fresh .empty fun _ => true).run buzzing twoSites firstTap
    let evs := [.call true (.move 5 ⟨30, 60⟩), .call true (.move 5 ⟨35, 50⟩)]
    let gesture := .call true (.down 5 ⟨25, 50⟩) :: (evs ++ [.call true (.up 5)])
    let b' := b.run buzzing twoSites gesture
    (b.pads true).doubleTapDrag = true ∧ (b.pads true).phase = .pending 0 ∧
      ((b.pads true).answer buzzing (twoSites true) b.desk (.down 5 ⟨25, 50⟩)).consumed = true ∧
      StaysDown true 5 evs ∧ (∀ h, .call true (.timer h) ∉ evs) ∧
      b.emitted buzzing twoSites true gesture =
        [.vibrate 50 30, .mouse .left true (.absolute 50 50), .moveTo 60 70, .moveTo 70 50,
          .mouse .left false (.absolute 70 50)] ∧
      b.desk.timers.isPending 0 = true ∧ b'.desk.timers.isPending 0 = false ∧
      (b'.pads true).phase = .idle ∧ b'.desk.claims.owner? 5 ≠ some (twoSites true).id := by
  intro b evs gesture b'
  have hb : b.Sound := (Sound.fresh _ _).run _
  have hdrag : (b.pads true).doubleTapDrag = true := rfl
  have hidle : (b.pads true).phase = .pending 0 := by
    have h : (b.pads true).idleTimer? = some 0 := by decide +kernel
    exact Touchpad.idleTimer?_eq_some_iff.1 h
  have hc : ((b.pads true).answer buzzing (twoSites true) b.desk (.down 5 ⟨25, 50⟩)).consumed =
      true := by decide +kernel
  have hs : StaysDown true 5 evs := by simp [StaysDown, evs]
  have ht : ∀ h, .call true (.timer h) ∉ evs := by simp [evs]
  obtain ⟨hemitted, -, hcancelled, hphase, -, hclaims⟩ :=
    double_tap_drag_ends_where_it_points buzzing twoSites b hb true 5 ⟨25, 50⟩ 0 hdrag hidle hc
      evs hs ht
  refine ⟨hdrag, hidle, hc, hs, ht, hemitted.trans ?_, by decide +kernel, hcancelled, hphase,
    hclaims rfl⟩
  decide +kernel

end Bench
end TouchOverlay
