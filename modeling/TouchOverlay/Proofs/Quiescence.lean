import TouchOverlay.Scenario
import TouchOverlay.Proofs.Exclusive
import TouchOverlay.Proofs.HeldInputs
import TouchOverlay.Proofs.Settling

/-!
# A surface comes to rest

When every finger has lifted and the timers have run out, nothing of the gestures is left. The
routes go with the last touch of each pointer, whatever came before it (`route?_touches`); without
routes there are no sessions, and without sessions there are no claims. The timers run out because
of `Behaviour.work`: what a control has still to do with timers is three deliveries at most, and each
delivery to it lowers that.
-/

namespace TouchOverlay

/-! ## Phases and contacts -/

namespace Touchpad
variable {sv : Services} {site : Site} {p : PointerId} {spot : Point} {pad : Touchpad} {d : Desk}
  {h : TimerHandle}

/-- The phase is one that a touchpad with, or without, a contact can be in. -/
def PhaseFits (pad : Touchpad) : Prop :=
  match pad.phase with
  | .idle => pad.contact? = none
  | .pending _ => True
  | _ => pad.contact? ≠ none

theorem PhaseFits.idle_or_pending (hf : pad.PhaseFits) (hc : pad.contact? = none) :
    pad.phase = .idle ∨ ∃ h, pad.phase = .pending h := by
  unfold PhaseFits at hf
  cases hp : pad.phase with
  | idle => exact .inl rfl
  | pending h => exact .inr ⟨h, rfl⟩
  | _ =>
    rw [hp] at hf
    exact absurd hc hf

theorem PhaseFits.down (hf : pad.PhaseFits) : (pad.down sv site p spot d).state.PhaseFits := by
  rcases pad.down_cases sv site p spot d with ⟨hr, -⟩ | ⟨d', -, -, hr⟩ <;> rw [hr]
  · exact hf
  · unfold beginContact
    split
    · split
      · exact Option.some_ne_none _
      · trivial
    · trivial

theorem PhaseFits.move (hf : pad.PhaseFits) : (pad.move sv site p spot d).state.PhaseFits := by
  unfold Touchpad.move
  split
  · rename_i c hc
    split
    · -- only an idle touchpad has no contact to slide
      unfold PhaseFits at hf
      unfold slide
      cases hp : pad.phase with
      | idle =>
        rw [hp] at hf
        exact absurd (hc.symm.trans hf) (Option.some_ne_none c)
      | pending timer =>
        dsimp only
        split
        · exact Option.some_ne_none _
        · simp [PhaseFits]
      | _ => simp [PhaseFits]
    · exact hf
  · exact hf

theorem PhaseFits.up (hf : pad.PhaseFits) : (pad.up site p d).state.PhaseFits := by
  unfold Touchpad.up
  split
  · cases pad.phase <;> simp [PhaseFits]
  · exact hf

theorem PhaseFits.timer (hf : pad.PhaseFits) : (pad.timer sv site h d).state.PhaseFits := by
  by_cases hc : pad.clickTimer? = some h
  · rw [timer_of_click hc]
    exact hf
  · by_cases hp : pad.phase = .pending h
    · rw [timer_of_idle hc hp]
      unfold closeWindow
      split
      · rename_i hsome
        exact Option.isSome_iff_ne_none.1 hsome
      · rename_i hnone
        exact Option.not_isSome_iff_eq_none.1 hnone
    · rw [timer_of_not_mem (not_mem_timers hc hp)]
      exact hf

/-- How many timers the touchpad can still be delivered without a touch: the release of a click, and
for an open window its own timer and the release of the click that it may end in. -/
def work (pad : Touchpad) : Nat := pad.clickTimer?.isSome.toNat + 2 * pad.phase.isPending.toNat

theorem work_le (pad : Touchpad) : pad.work ≤ 3 := by
  have hc := Bool.toNat_le pad.clickTimer?.isSome
  have hp := Bool.toNat_le pad.phase.isPending
  unfold work
  omega

theorem work_timer_lt (sv : Services) (site : Site) (d : Desk) (hm : h ∈ pad.timers) :
    (pad.timer sv site h d).state.work < pad.work := by
  by_cases hc : pad.clickTimer? = some h
  · rw [timer_of_click hc]
    simp [work, hc]
  · have hp : pad.phase = .pending h := (mem_timers.1 hm).resolve_right hc
    rw [timer_of_idle hc hp]
    unfold closeWindow
    split
    · simp [work, hp, Phase.isPending]
    · -- the click's timer takes the place of an earlier one, and the window's is gone
      simp [work, hp, Phase.isPending, resolveClick]

end Touchpad

/-! ## All kinds -/

namespace Behaviour
variable {sv : Services} {site : Site} {b : Behaviour} {r : Reaction Behaviour} {h : TimerHandle}
  {d : Desk}

/-- What the session holds fits the contact it has. -/
def Fits (b : Behaviour) : Prop :=
  b.InHand ∧ ∀ pad, b = touchpad pad → pad.PhaseFits

theorem Fits.ofKind (k : ControlKind) : (ofKind k).Fits := by
  refine ⟨InHand.ofKind k, ?_⟩
  cases k with
  | touchpad doubleTapDrag =>
    rintro _ ⟨⟩
    exact rfl
  | _ => rintro _ ⟨⟩

theorem Answers.fits (hr : b.Answers sv site r) (hb : b.Fits) : r.state.Fits := by
  refine ⟨hr.inHand hb.1, ?_⟩
  cases b with
  | touchpad pad =>
    have hp : pad.PhaseFits := hb.2 pad rfl
    cases hr with
    | down p spot d =>
      rintro _ ⟨⟩
      exact hp.down
    | move p spot d =>
      rintro _ ⟨⟩
      exact hp.move
    | up p d =>
      rintro _ ⟨⟩
      exact hp.up
    | timer h d =>
      rintro _ ⟨⟩
      exact hp.timer
    | resetToggle d =>
      rintro _ ⟨⟩
      exact hp
  | _ =>
    -- the answer of another kind is not a touchpad
    rintro pad hpad
    have hk := hr.kind
    rw [hpad] at hk
    cases hk

/-- Nothing of a gesture is left: no contact, nothing pressed or held, and no timer. -/
def AtRest : Behaviour → Prop
  | button b => b.pointer? = none ∧ b.pressed = false
  | directionPad pad => pad.pointer? = none ∧ pad.held = .none
  | touchpad pad => pad.contact? = none ∧ pad.phase = .idle ∧ pad.clickTimer? = none

theorem atRest (hf : b.Fits) (hp : b.pointer? = none) (ht : b.timers = []) : b.AtRest := by
  cases b with
  | button b =>
    have hf : b.pressed = b.pointer?.isSome := hf.1
    have hp : b.pointer? = none := hp
    exact ⟨hp, by rw [hf, hp]; rfl⟩
  | directionPad pad => exact ⟨hp, hf.1 hp⟩
  | touchpad pad =>
    have hf : pad.PhaseFits := hf.2 pad rfl
    have hc : pad.contact? = none := Option.map_eq_none_iff.1 hp
    have hnone : ∀ h, h ∉ pad.timers := fun h hm => by
      have ht : pad.timers = [] := ht
      rw [ht] at hm
      exact absurd hm List.not_mem_nil
    refine ⟨hc, ?_, ?_⟩
    · rcases hf.idle_or_pending hc with hi | ⟨h, hi⟩
      · exact hi
      · exact absurd (Touchpad.mem_timers.2 (.inl hi)) (hnone h)
    · cases hk : pad.clickTimer? with
      | none => rfl
      | some k => exact absurd (Touchpad.mem_timers.2 (.inr hk)) (hnone k)

/-- How many timers can still be delivered to the control without a new touch. -/
def work : Behaviour → Nat
  | touchpad pad => pad.work
  | _ => 0

theorem work_le (b : Behaviour) : b.work ≤ if b.kind.isTouchpad then 3 else 0 := by
  cases b with
  | touchpad pad => exact pad.work_le
  | _ => exact Nat.le_refl 0

theorem work_timer_lt (sv : Services) (site : Site) (d : Desk) (hm : h ∈ b.timers) :
    (b.timer sv site d h).state.work < b.work := by
  cases b with
  | touchpad pad => exact Touchpad.work_timer_lt sv site d hm
  | _ => exact absurd hm List.not_mem_nil

end Behaviour

namespace Surface
open TimerQueue

/-! ## Deliveries -/

/-- The timers that an advance delivers, at most `limit` of them, in order. -/
def dueTimers (sv : Services) (now : Millis) : Nat → Surface → List ExpiredTimer
  | 0, _ => []
  | limit + 1, s =>
    match s.popExpired? now with
    | none => []
    | some (t, s') => t :: dueTimers sv now limit (s'.deliver sv t).state

/-- The timers that are delivered until none is left, in at most `limit` advances. -/
def remainingTimers (sv : Services) : Nat → Surface → List ExpiredTimer
  | 0, _ => []
  | limit + 1, s =>
    match s.nextDeadline? with
    | none => []
    | some due => dueTimers sv due s.pendingWork s ++ remainingTimers sv limit (s.advance sv due).state

/-- What some of the controls have still to do with timers. -/
def work (among : ControlId → Bool) (s : Surface) : Nat :=
  ((s.controls.filter (among ·.id)).map (·.behaviour.work)).sum

variable {sv : Services} {s s' : Surface} {now : Millis} {t : ExpiredTimer} {q : TimerQueue}
  {limit : Nat} {p : PointerId} {e : TouchEvent} {es : List TouchEvent}

theorem length_dueTimers (sv : Services) (now : Millis) (limit : Nat) (s : Surface) :
    (dueTimers sv now limit s).length = (deliverDue sv now limit s).delivered := by
  induction limit generalizing s with
  | zero => rfl
  | succ limit ih =>
    rw [dueTimers, deliverDue]
    cases s.popExpired? now with
    | none => rfl
    | some x => simp [ih]

theorem length_remainingTimers (sv : Services) (limit : Nat) (s : Surface) :
    (remainingTimers sv limit s).length = (settleWithin sv limit s).delivered := by
  induction limit generalizing s with
  | zero => rfl
  | succ limit ih =>
    rw [remainingTimers, settleWithin]
    cases s.nextDeadline? with
    | none => rfl
    | some due =>
      simp only [List.length_append, ih, length_dueTimers]
      rfl

theorem work_middle (among : ControlId → Bool) {pre post : List Control} {c : Control}
    (hs : s.controls = pre ++ c :: post) :
    s.work among = (if among c.id then c.behaviour.work else 0) +
      (((pre ++ post).filter (among ·.id)).map (·.behaviour.work)).sum := by
  unfold work
  rw [hs]
  by_cases hc : among c.id = true
  · simp [hc]
    omega
  · simp [hc]

theorem work_le (among : ControlId → Bool) (s : Surface) :
    s.work among ≤ 3 * s.controls.countP fun c => among c.id && c.behaviour.kind.isTouchpad := by
  unfold work
  induction s.controls with
  | nil => exact Nat.le_refl 0
  | cons c cs ih =>
    have hc := c.behaviour.work_le
    cases ha : among c.id <;> cases hk : c.behaviour.kind.isTouchpad <;>
      simp [ha, hk] at hc ih ⊢ <;> omega

theorem work_deliver (among : ControlId → Bool) (sv : Services) (hs : s.Tidy q)
    (hp : s.popExpired? now = some (t, s')) :
    (s'.deliver sv t).state.work among + (if among t.owner then 1 else 0) ≤ s.work among := by
  obtain ⟨pre, c, post, hcs, hid, hm, hd⟩ := deliver_eq sv hs.nodup hs.balanced hp
  have hlt := Behaviour.work_timer_lt sv (c.site s'.size) s'.desk hm
  have hw := work_middle among hcs
  have hw' := work_middle among
    (s := s'.place pre post (c.timer sv s'.size s'.desk t.handle)) rfl
  have hstate : (c.timer sv s'.size s'.desk t.handle).state.behaviour.work < c.behaviour.work := hlt
  have hid' : (c.timer sv s'.size s'.desk t.handle).state.id = t.owner := hid
  rw [hd, hw, hw', hid, hid']
  split <;> omega

/-- Each timer that is delivered to one of the controls lowers their work. -/
theorem work_deliverDue (among : ControlId → Bool) (sv : Services) (now : Millis)
    (hs : s.Tidy q) (limit : Nat) :
    (deliverDue sv now limit s).state.work among +
      (dueTimers sv now limit s).countP (among ·.owner) ≤ s.work among := by
  induction limit generalizing s with
  | zero => exact Nat.le_refl _
  | succ limit ih =>
    rw [dueTimers, deliverDue]
    cases hp : s.popExpired? now with
    | none => exact Nat.le_refl _
    | some x =>
      obtain ⟨t, s'⟩ := x
      have hlow := work_deliver among sv hs hp
      have hs' : (s'.deliver sv t).state.Tidy q :=
        hs.motion (K := fun _ => False) (.inl (input_deliver hp))
      have hrest := ih hs'
      simp only [List.countP_cons]
      omega

theorem work_settleWithin (among : ControlId → Bool) (sv : Services) (hs : s.Tidy q)
    (limit : Nat) :
    (settleWithin sv limit s).state.work among +
      (remainingTimers sv limit s).countP (among ·.owner) ≤ s.work among := by
  induction limit generalizing s with
  | zero => exact Nat.le_refl _
  | succ limit ih =>
    rw [remainingTimers, settleWithin]
    cases hn : s.nextDeadline? with
    | none => exact Nat.le_refl _
    | some due =>
      have hlow := work_deliverDue among sv due hs s.pendingWork
      have hs' : (s.advance sv due).state.Tidy q := hs.perform sv (.advance due)
      have hrest := ih hs'
      have hadv : (s.advance sv due).state.work among =
          (deliverDue sv due s.pendingWork s).state.work among := rfl
      simp only [List.countP_append]
      omega

/-- What every advance keeps holds of the settled surface. -/
theorem settleWithin_keeps {P : Surface → Prop}
    (hP : ∀ {s} now, P s → P (s.advance sv now).state) (limit : Nat) (hs : P s) :
    P (settleWithin sv limit s).state := by
  induction limit generalizing s with
  | zero => exact hs
  | succ limit ih =>
    rw [settleWithin]
    cases s.nextDeadline? with
    | none => exact hs
    | some due => exact ih (hP due hs)

/-! ## Routes -/

theorem route?_advance : (s.advance sv now).state.route? p = s.route? p := by
  rw [route?, route?, routes_advance]

theorem routes_touchControl (s : Surface) (id : ControlId) (f : Control → Reaction Control) :
    (s.touchControl id f).state.routes = s.routes := by
  unfold touchControl
  split <;> rfl

theorem route?_touchUp (s : Surface) (k p : PointerId) :
    (s.touchUp k).state.route? p = if k = p then none else s.route? p := by
  unfold touchUp
  split
  · rw [route?, routes_touchControl]
    exact getElem?_erase_route
  · rename_i hk
    by_cases h : k = p
    · rw [if_pos h, ← h]
      exact hk
    · rw [if_neg h]

/-- A touch changes no route but that of its own pointer. -/
theorem route?_touch_of_ne (sv : Services) (s : Surface) (hne : e.pointer ≠ p) :
    (s.touch sv e).state.route? p = s.route? p := by
  have ha : (s.advance sv e.time).state.route? p = s.route? p := route?_advance
  rw [← ha]
  show ((s.advance sv e.time).state.route sv e).state.route? p = _
  generalize (s.advance sv e.time).state = s
  have hup : (s.touchUp e.pointer).state.route? p = s.route? p := by
    rw [route?_touchUp, if_neg hne]
  unfold Surface.route
  split
  · unfold touchDown
    split
    · rfl
    · split
      · rename_i id r _
        show (s.routes.insert e.pointer id)[p]? = s.routes[p]?
        rw [getElem?_insert_route, if_neg hne]
      · rfl
  · unfold touchMove
    split
    · rw [route?, routes_touchControl]
      rfl
    · rfl
  · exact hup
  · exact hup

end Surface

/-- Whether a touch ends the contact that it belongs to. -/
def TouchPhase.endsContact : TouchPhase → Bool
  | up | cancel => true
  | _ => false

/-- The last touch of every pointer ends its contact. -/
def Lifted (es : List TouchEvent) : Prop :=
  ∀ p, ∀ e ∈ (es.filter (·.pointer = p)).getLast?, e.phase.endsContact = true

/-- Only the pointers of the touches have to be looked at. -/
theorem lifted_iff {es : List TouchEvent} : Lifted es ↔ (es.all fun e =>
    (es.filter (·.pointer = e.pointer)).getLast?.all (·.phase.endsContact)) = true := by
  rw [List.all_eq_true]
  constructor
  · intro h e _
    rw [Option.all_eq_true]
    exact h e.pointer
  · intro h p e he
    obtain ⟨hm, hp⟩ := List.mem_filter.1 (List.mem_of_getLast? he)
    obtain rfl : e.pointer = p := of_decide_eq_true hp
    exact (Option.all_eq_true _ _).1 (h e hm) e he

instance (es : List TouchEvent) : Decidable (Lifted es) := decidable_of_iff' _ lifted_iff

namespace Surface
variable {sv : Services} {s : Surface} {p : PointerId} {e : TouchEvent} {es : List TouchEvent}

theorem route?_touch_of_endsContact (sv : Services) (s : Surface) (he : e.phase.endsContact = true) :
    (s.touch sv e).state.route? e.pointer = none := by
  have hup (s : Surface) : (s.touchUp e.pointer).state.route? e.pointer = none := by
    rw [route?_touchUp, if_pos rfl]
  show ((s.advance sv e.time).state.route sv e).state.route? e.pointer = none
  unfold Surface.route
  cases hp : e.phase with
  | down => rw [hp] at he; cases he
  | move => rw [hp] at he; cases he
  | up => exact hup _
  | cancel => exact hup _

/-- The last touch of a pointer decides on its route, and without one the route stays. -/
theorem route?_touches (sv : Services) (p : PointerId) (es : List TouchEvent) (s : Surface) :
    let s' := (run sv ((es.map Operation.touch).map .operation) s).state
    match (es.filter (·.pointer = p)).getLast? with
    | none => s'.route? p = s.route? p
    | some e => e.phase.endsContact = true → s'.route? p = none := by
  induction es generalizing s with
  | nil => rfl
  | cons e es ih =>
    have hrest := ih (s.touch sv e).state
    dsimp only at hrest ⊢
    by_cases he : e.pointer = p
    · rw [List.filter_cons_of_pos (by simpa using he), List.getLast?_cons]
      cases hl : (es.filter (·.pointer = p)).getLast? with
      | none =>
        rw [hl] at hrest
        intro hends
        exact hrest.trans (he ▸ route?_touch_of_endsContact sv s hends)
      | some e' =>
        rw [hl] at hrest
        exact hrest
    · rw [List.filter_cons_of_neg (by simpa using he)]
      cases hl : (es.filter (·.pointer = p)).getLast? with
      | none =>
        rw [hl] at hrest
        exact hrest.trans (route?_touch_of_ne sv s he)
      | some e' =>
        rw [hl] at hrest
        exact hrest

theorem route?_eq_none_of_lifted (sv : Services) (hl : Lifted es) (hs : s.route? p = none) :
    (run sv ((es.map Operation.touch).map .operation) s).state.route? p = none := by
  have hr := route?_touches sv p es s
  dsimp only at hr
  cases he : (es.filter (·.pointer = p)).getLast? with
  | none =>
    rw [he] at hr
    exact hr.trans hs
  | some e =>
    rw [he] at hr
    exact hr (hl p e he)

/-! ## Scenarios -/

theorem configs_answered {size : SurfaceSize} {cs cs' : List Control} {is : List Issued}
    (h : Answered sv size cs is cs') : cs'.map Control.config = cs.map Control.config := by
  cases h with
  | none => rfl
  | @answer pre post c r hr =>
    have hc : (c.react r).state.config = c.config := by
      simp [Control.config, Control.react, hr.kind]
    simp [hc]

theorem configs_run_of_isInput {ops : List Operation} (hops : ∀ op ∈ ops, op.isInput = true) :
    (run sv (ops.map .operation) s).state.controls.map Control.config =
      s.controls.map Control.config :=
  run_keeps_of_isInput
    (P := fun s' => s'.controls.map Control.config = s.controls.map Control.config)
    (fun hi he => (configs_answered (answered_input hi)).trans he) hops rfl

theorem configs_advance (sv : Services) (s : Surface) (now : Millis) :
    (s.advance sv now).state.controls.map Control.config = s.controls.map Control.config := by
  have hops : ∀ op ∈ [Operation.advance now], op.isInput = true := by simp [Operation.isInput]
  exact configs_run_of_isInput hops

theorem work_of_mem {c : Control} (hn : s.ids.Nodup) (hc : c ∈ s.controls) :
    s.work (· = c.id) = c.behaviour.work := by
  obtain ⟨pre, post, hs⟩ := List.append_of_mem hc
  have hrest : (pre ++ post).filter (fun c' => decide (c'.id = c.id)) = [] := by
    rw [List.filter_eq_nil_iff]
    intro c' hc'
    simpa using ne_of_nodup_ids hn hs c' hc'
  rw [work_middle _ hs, hrest]
  simp

/-! ## At rest -/

theorem fits_run (sv : Services) (hs : ∀ c ∈ s.controls, c.behaviour.Fits) (sts : List Step) :
    ∀ c ∈ (run sv sts s).state.controls, c.behaviour.Fits := by
  have hg : Good (fun _ => True) (fun cs _ => ∀ c ∈ cs, c.behaviour.Fits) s.controls [] :=
    ⟨fun _ _ => trivial, hs⟩
  have hlaw : Law sv (fun _ => True) fun cs _ => ∀ c ∈ cs, c.behaviour.Fits :=
    .ofEach Behaviour.Fits.ofKind Behaviour.Answers.fits
  exact (hlaw.run sts (fun _ _ _ _ => trivial) hg).holds

/-- Without deadlines and routes, nothing of any gesture is left. -/
theorem Exclusive.rest (hs : s.Exclusive) (hf : ∀ c ∈ s.controls, c.behaviour.Fits)
    (hd : s.nextDeadline? = none) (hr : ∀ p, s.route? p = none) :
    (∀ p, s.claims.owner? p = none) ∧ s.desk.timers.isEmpty = true ∧
      ∀ c ∈ s.controls, c.pointer? = none ∧ c.behaviour.AtRest := by
  have hp : ∀ c ∈ s.controls, c.pointer? = none := by
    intro c hc
    rw [Option.eq_none_iff_forall_ne_some]
    intro p hcp
    have hroute := (hs.routed.route p c.id).2 ⟨c, hc, rfl, hcp⟩
    rw [hr p] at hroute
    cases hroute
  have ht : ∀ h : TimerHandle, s.desk.timers.deadlines[h]? = none := by
    intro h
    rw [Option.eq_none_iff_forall_ne_some]
    intro t ht
    have hf : s.desk.timers.first? = none := Option.map_eq_none_iff.1 hd
    exact TimerQueue.first?_eq_none_iff.1 hf _ ((hs.tidy.balanced.wf.agree ⟨t, h⟩).2 ht)
  refine ⟨fun p => hs.owner?_eq_none (hr p), ?_, ?_⟩
  · rw [TimerQueue.isEmpty, Std.ExtTreeMap.isEmpty_iff]
    refine Std.ExtTreeMap.ext_getElem? fun h => ?_
    rw [ht h]
    simp
  · intro c hc
    refine ⟨hp c hc, Behaviour.atRest (hf c hc) (hp c hc) (List.eq_nil_iff_forall_not_mem.2 ?_)⟩
    intro h hm
    have hpending := hs.tidy.balanced.wf.mem_pending.1 (hs.tidy.mem_pending.2 ⟨c, hc, rfl, hm⟩)
    rw [TimerQueue.ownerOf?, ht h] at hpending
    cases hpending

end Surface

namespace Scenario
open Surface
variable {sv : Services} {sc : Scenario} {s : Surface}

/-- The surface of a scenario is that of a run of one operation. -/
theorem buildSurface_eq_ok (sv : Services) (hb : sc.buildSurface = .ok s) :
    s = (run sv [.operation (.replaceLayout sc.controls)] (.empty sc.surface)).state ∧
      s.controls = sc.controls.map (.mount sc.surface) := by
  rw [run_singleton]
  show s = ((Operation.replaceLayout sc.controls).perform sv (.empty sc.surface)).state ∧ _
  unfold buildSurface replaceLayout at hb
  rcases perform_replaceLayout_cases sv (.empty sc.surface) sc.controls with ⟨hf, h⟩ | ⟨hf, -⟩
  · rw [hf] at hb
    cases hb
    rw [h, controls_mountAll, controls_detachAll]
    exact ⟨rfl, rfl⟩
  · cases hff : firstFault? [] sc.controls with
    | none => exact absurd hff hf
    | some e =>
      rw [hff] at hb
      cases hb

/-- A new control is as its kind makes it. -/
theorem behaviour_of_buildSurface (hb : sc.buildSurface = .ok s) {c : Control}
    (hc : c ∈ s.controls) : ∃ kind, c.behaviour = .ofKind kind := by
  rw [(buildSurface_eq_ok {} hb).2] at hc
  obtain ⟨cfg, -, rfl⟩ := List.mem_map.1 hc
  exact ⟨cfg.kind, rfl⟩

theorem exclusive_of_buildSurface (hb : sc.buildSurface = .ok s) : s.Exclusive := by
  rw [(buildSurface_eq_ok {} hb).1]
  exact (Exclusive.empty sc.surface).run {} [.replaceLayout sc.controls]

theorem configs_of_buildSurface (hb : sc.buildSurface = .ok s) :
    s.controls.map Control.config = sc.controls := by
  simp [(buildSurface_eq_ok {} hb).2, Function.comp_def]

theorem route?_of_buildSurface (hb : sc.buildSurface = .ok s) (p : PointerId) :
    s.route? p = none := by
  refine (exclusive_of_buildSurface hb).route?_eq_none fun c hc => ?_
  obtain ⟨kind, hkind⟩ := behaviour_of_buildSurface hb hc
  exact (congrArg Behaviour.pointer? hkind).trans (Behaviour.pointer?_ofKind kind)

/-- **A scenario whose fingers all lift comes to rest.** Any touches of any number of fingers, with
times in any order, so long as the last touch of each finger ends its contact. Afterwards the
advances to the next deadline end after at most three timers for each touchpad, and none for other
controls. What they leave is the layout without a route, a claim, a timer, a contact, or anything
pressed. -/
theorem comes_to_rest (sv : Services) (sc : Scenario) (s₀ : Surface)
    (hb : sc.buildSurface = .ok s₀) (hl : Lifted sc.events) :
    let s := (run sv ((sc.events.map Operation.touch).map .operation) s₀).state
    let ts := remainingTimers sv s.pendingWork s
    let s' := (s.settle sv).state
    (s'.nextDeadline? = none ∧ (s.settle sv).delivered = ts.length ∧
      ts.length ≤ 3 * sc.controls.countP (·.kind.isTouchpad) ∧
      ∀ cfg ∈ sc.controls,
        ts.countP (·.owner = cfg.id) ≤ if cfg.kind.isTouchpad then 3 else 0) ∧
    s'.controls.map Control.config = sc.controls ∧
    (∀ p, s'.route? p = none) ∧ (∀ p, s'.claims.owner? p = none) ∧
    s'.desk.timers.isEmpty = true ∧
    ∀ c ∈ s'.controls, c.pointer? = none ∧ c.behaviour.AtRest := by
  intro s ts s'
  have hs : s.Exclusive := (exclusive_of_buildSurface hb).run sv _
  have hs' : s'.Exclusive := settleWithin_keeps (fun now h => h.perform sv (.advance now)) _ hs
  have hfits : ∀ c ∈ s'.controls, c.behaviour.Fits := by
    refine settleWithin_keeps (P := fun s => ∀ c ∈ s.controls, c.behaviour.Fits)
      (fun now h => fits_run sv h [.operation (.advance now)]) _ (fits_run sv ?_ _)
    intro c hc
    obtain ⟨kind, hkind⟩ := behaviour_of_buildSurface hb hc
    exact hkind ▸ Behaviour.Fits.ofKind kind
  have hcfg : s.controls.map Control.config = sc.controls :=
    (configs_run_of_isInput (by simp [Operation.isInput])).trans (configs_of_buildSurface hb)
  have hcfg' : s'.controls.map Control.config = sc.controls :=
    settleWithin_keeps (P := fun s => s.controls.map Control.config = sc.controls)
      (fun now h => (configs_advance sv _ now).trans h) _ hcfg
  have hnone : s'.nextDeadline? = none := (settle_andThen_advance sv s).1
  have hroute : ∀ p, s'.route? p = none := by
    intro p
    have hp : s.route? p = none := route?_eq_none_of_lifted sv hl (route?_of_buildSurface hb p)
    exact settleWithin_keeps (P := fun s => s.route? p = none)
      (fun now h => route?_advance.trans h) _ hp
  have hwork : ∀ among : ControlId → Bool, ts.countP (among ·.owner) ≤ s.work among := by
    intro among
    have h := work_settleWithin among sv hs.tidy s.pendingWork
    exact Nat.le_trans (Nat.le_add_left _ _) h
  refine ⟨⟨hnone, ?_, ?_, ?_⟩, hcfg', hroute, hs'.rest hfits hnone hroute⟩
  · exact (length_remainingTimers sv _ s).symm
  · have hle := Nat.le_trans (hwork fun _ => true) (s.work_le fun _ => true)
    simpa [← hcfg, List.countP_map, Function.comp_def, Control.config] using hle
  · intro cfg hm
    rw [← hcfg] at hm
    obtain ⟨c, hc, rfl⟩ := List.mem_map.1 hm
    have hle := hwork (· = c.id)
    rw [work_of_mem hs.tidy.nodup hc] at hle
    exact Nat.le_trans hle c.behaviour.work_le

/-- A touchpad without double tap drags over a button. One finger taps twice. The other one falls
through to the button, where it goes down once more before it is cancelled. -/
def tapTwice : Scenario :=
  { surface := ⟨100, 100⟩
    controls :=
      [{ id := .ofNat 2, placement := ⟨0, 0, 1, 1⟩, kind := .button (.key 30) false },
        { id := .ofNat 1, placement := ⟨0, 0, 1, 1⟩, kind := .touchpad false }]
    events :=
      [⟨5, .down, ⟨10, 10⟩, 0⟩, ⟨6, .down, ⟨20, 20⟩, 5⟩, ⟨5, .up, ⟨10, 10⟩, 10⟩,
        ⟨5, .down, ⟨10, 10⟩, 190⟩, ⟨6, .down, ⟨10, 10⟩, 191⟩, ⟨5, .up, ⟨10, 10⟩, 195⟩,
        ⟨6, .cancel, ⟨20, 20⟩, 198⟩] }

/-- The release of the first click, the end of the second window, the release of its click. -/
theorem comes_to_rest_of_tapTwice :
    ∃ s₀, tapTwice.buildSurface = .ok s₀ ∧ Lifted tapTwice.events ∧
      let s := (run {} ((tapTwice.events.map Operation.touch).map .operation) s₀).state
      (remainingTimers {} s.pendingWork s).map ExpiredTimer.deadline = [240, 390, 440] ∧
        (s.settle {}).delivered = 3 ∧
        ∀ c ∈ (s.settle {}).state.controls, c.pointer? = none ∧ c.behaviour.AtRest := by
  have hl : Lifted tapTwice.events := by decide +kernel
  cases hb : tapTwice.buildSurface with
  | error e =>
    have hok : tapTwice.buildSurface.isOk = true := by decide +kernel
    rw [hb] at hok
    cases hok
  | ok s₀ =>
    obtain ⟨⟨-, hlen, -⟩, -, -, -, -, hrest⟩ := comes_to_rest {} tapTwice s₀ hb hl
    have hts : (let s := (run {} ((tapTwice.events.map Operation.touch).map .operation) s₀).state
        (remainingTimers {} s.pendingWork s).map ExpiredTimer.deadline) = [240, 390, 440] := by
      rw [(buildSurface_eq_ok {} hb).1]
      decide +kernel
    refine ⟨s₀, rfl, hl, hts, ?_, hrest⟩
    rw [hlen, ← List.length_map (f := ExpiredTimer.deadline)]
    exact congrArg List.length hts

end Scenario
end TouchOverlay
