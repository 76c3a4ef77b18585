import TouchOverlay.Proofs.Drain
import TouchOverlay.Proofs.DragTiming
import TouchOverlay.Proofs.TimerOwnership

/-!
# Drags keep the left button down

On a surface with one touchpad, and with no other control for the left button, `Dragging` is the
invariant under touches and advances. It takes the timing of the touchpad as a parameter `T`:
`Steady` and `Settling` list what `T` must survive, and both laws of timing qualify, each for its
own tuning (`Dragging.run_ordered`, `Dragging.run_prompt`). So every drag holds the button with a
tuning that satisfies `Tuning.KeepsDrags`.
-/

namespace TouchOverlay

def Behaviour.touchpad? : Behaviour → Option Touchpad
  | touchpad pad => some pad
  | _ => none

theorem Behaviour.touchpad?_eq_none {b : Behaviour} (h : b.kind.isTouchpad = false) :
    b.touchpad? = none := by
  cases b with
  | touchpad pad => cases h
  | _ => rfl

namespace Surface
open TimerQueue

def touchpads (s : Surface) : List Touchpad := s.controls.filterMap (·.behaviour.touchpad?)

/-- The surface has one touchpad, and no other control has the left button as an action. -/
structure Sole (s : Surface) (pad : Touchpad) : Prop where
  touchpads : s.touchpads = [pad]
  quiet : ∀ c ∈ s.controls, c.behaviour.kind.pressesLeft = false

variable {sv : Services} {s s' : Surface} {is out : List Issued} {c : Control}
  {pre post : List Control} {pad pad' : Touchpad} {now : Millis} {t : ExpiredTimer}

namespace Sole

theorem quiet_place {r : Reaction Control} (hs : s.controls = pre ++ c :: post) (hso : s.Sole pad)
    (hk : r.state.behaviour.kind.pressesLeft = false) :
    ∀ c ∈ (s.place pre post r).controls, c.behaviour.kind.pressesLeft = false := by
  intro c' hc'
  rcases mem_middle_iff.1 hc' with rfl | hc'
  · exact hk
  · exact hso.quiet c' ((mem_controls_iff hs).2 (.inr hc'))

/-- A control that is a touchpad is the one of the surface. -/
theorem place_touchpad (hs : s.controls = pre ++ c :: post) (hso : s.Sole pad)
    (hc : c.behaviour = .touchpad pad') :
    pad' = pad ∧ ∀ (r : Reaction Control) (pad₁ : Touchpad), r.state.behaviour = .touchpad pad₁ →
      (s.place pre post r).Sole pad₁ := by
  have hc : c.behaviour.touchpad? = some pad' := by rw [hc]; rfl
  have ht := hso.touchpads
  simp only [Surface.touchpads, hs, List.filterMap_append, List.filterMap_cons, hc] at ht
  obtain ⟨hpre, rfl, hpost⟩ : pre.filterMap (·.behaviour.touchpad?) = [] ∧ pad' = pad ∧
      post.filterMap (·.behaviour.touchpad?) = [] := by
    cases hl : pre.filterMap (·.behaviour.touchpad?) with
    | nil =>
      rw [hl, List.nil_append] at ht
      exact ⟨rfl, List.cons.inj ht⟩
    | cons => simp [hl] at ht
  refine ⟨rfl, fun r pad₁ hr => ⟨?_, hso.quiet_place hs (by rw [hr]; rfl)⟩⟩
  have hr : r.state.behaviour.touchpad? = some pad₁ := by rw [hr]; rfl
  simp only [Surface.touchpads, place, List.filterMap_append, List.filterMap_cons, hr, hpre, hpost,
    List.nil_append]

theorem place_other {r : Reaction Control} (hs : s.controls = pre ++ c :: post) (hso : s.Sole pad)
    (hc : c.behaviour.kind.isTouchpad = false) (hk : r.state.behaviour.kind = c.behaviour.kind) :
    (s.place pre post r).Sole pad := by
  refine ⟨?_, hso.quiet_place hs (by rw [hk]; exact hso.quiet c (by simp [hs]))⟩
  have ht := hso.touchpads
  have hr : r.state.behaviour.kind.isTouchpad = false := by rw [hk]; exact hc
  simp only [Surface.touchpads, place, List.filterMap_append, List.filterMap_cons, hs,
    Behaviour.touchpad?_eq_none hc, Behaviour.touchpad?_eq_none hr] at ht ⊢
  exact ht

end Sole

/-! ## The invariant -/

/-- What makes it safe for the touchpad to have contacts. -/
structure Steady (sv : Services) (T : TimerQueue → Touchpad → Prop) : Prop where
  safe {q : TimerQueue} {pad : Touchpad} : T q pad → pad.doubleTapDrag = true →
    pad.phase.isPending = true → pad.clickTimer? = none
  contact {q : TimerQueue} {pad : Touchpad} (con : Option Contact) : T q pad →
    T q { pad with contact? := con }
  beginContact {site : Site} {spot : Point} {pad : Touchpad} {d : Desk} : d.timers.WF →
    T d.timers pad → T (Touchpad.beginContact sv site spot pad d).desk.timers
      (Touchpad.beginContact sv site spot pad d).state
  slide {site : Site} {con : Contact} {spot : Point} {pad : Touchpad} {d : Desk} :
    T d.timers pad → T (Touchpad.slide sv site con spot pad d).desk.timers
      (Touchpad.slide sv site con spot pad d).state
  up {site : Site} {p : PointerId} {pad : Touchpad} {d : Desk} :
    T d.timers pad → T d.timers (pad.up site p d).state

/-- What makes it safe for the timers of the touchpad to fire in an advance to `now`. -/
structure Settling (sv : Services) (now : Millis) (T : TimerQueue → Touchpad → Prop) : Prop where
  safe {q q₁ : TimerQueue} {pad : Touchpad} {t : ExpiredTimer} : q.WF →
    q.popExpired? now = some (t, q₁) → T q pad → pad.phase = .pending t.handle →
      pad.clickTimer? = none
  timer {q : TimerQueue} {site : Site} {pad : Touchpad} {d : Desk} {t : ExpiredTimer} : q.WF →
    q.popExpired? now = some (t, d.timers) → t.handle ∈ pad.timers → T q pad →
      T (pad.timer sv site t.handle d).desk.timers (pad.timer sv site t.handle d).state

/-- The surface has one touchpad, whose timing is as `T` says and whose drags hold the button. -/
structure Dragging (T : TimerQueue → Touchpad → Prop) (s : Surface) (out : List Issued) : Prop where
  nodup : s.ids.Nodup
  balanced : s.desk.timers.Balanced s.ledger
  held : ∃ pad, s.Sole pad ∧ T s.desk.timers pad ∧ pad.Held (leftAfter out)

namespace Dragging
variable {T T' : TimerQueue → Touchpad → Prop}

theorem mono (h : ∀ {pad}, T s.desk.timers pad → T' s.desk.timers pad) (hd : s.Dragging T out) :
    s.Dragging T' out := by
  obtain ⟨pad, hso, ht, hh⟩ := hd.held
  exact ⟨hd.nodup, hd.balanced, pad, hso, h ht, hh⟩

theorem held_touchpad (hs : s.controls = pre ++ c :: post) (hc : c.behaviour = .touchpad pad)
    (hso : s.Sole pad') (r : Reaction Touchpad)
    (h : pad = pad' → T r.desk.timers r.state ∧ r.state.Held (r.left?.or (leftAfter out))) :
    ∃ pad, (s.place pre post (c.react (r.map .touchpad))).Sole pad ∧ T r.desk.timers pad ∧
      pad.Held (leftAfter (out ++ (c.react (r.map .touchpad)).issuedBy c.id)) := by
  obtain ⟨he, hplace⟩ := hso.place_touchpad hs hc
  obtain ⟨ht, hh⟩ := h he
  refine ⟨r.state, hplace _ _ rfl, ht, ?_⟩
  rw [leftAfter_append, leftAfter_issuedBy]
  exact hh

theorem held_other {r : Reaction Control} (hs : s.controls = pre ++ c :: post) (hso : s.Sole pad)
    (ht : T s.desk.timers pad) (hh : pad.Held (leftAfter out))
    (hc : c.behaviour.kind.isTouchpad = false) (hk : r.state.behaviour.kind = c.behaviour.kind)
    (hq : r.desk.timers = s.desk.timers) (hsil : Silent r.requests) :
    ∃ pad, (s.place pre post r).Sole pad ∧ T r.desk.timers pad ∧
      pad.Held (leftAfter (out ++ r.issuedBy c.id)) := by
  refine ⟨pad, hso.place_other hs hc hk, by rw [hq]; exact ht, ?_⟩
  rw [leftAfter_append, leftAfter_issuedBy, hsil.left?]
  exact hh

theorem contact (hT : Steady sv T) (hi : ContactStep sv s is s') (hd : s.Dragging T out) :
    s'.Dragging T (out ++ is) := by
  have hb := (balanced_of_input hd.nodup (.contact hi) hd.balanced).1
  refine ⟨(ids_of_input (.contact hi)).symm ▸ hd.nodup, hb, ?_⟩
  obtain ⟨pad, hso, ht, hh⟩ := hd.held
  have hwf := hd.balanced.wf
  -- the contact is one of the touchpad, or of a control that says nothing about the left button
  cases hi with
  | @down pre post c p spot hs _ hcons =>
    suffices h : ∃ pad, (s.place pre post (c.down sv s.size p s.desk spot)).Sole pad ∧
        T (c.down sv s.size p s.desk spot).desk.timers pad ∧
        pad.Held (leftAfter (out ++ (c.down sv s.size p s.desk spot).issuedBy c.id)) by
      obtain ⟨pad, hso, ht, hh⟩ := h
      exact ⟨pad, ⟨hso.touchpads, hso.quiet⟩, ht, hh⟩
    have htk := Control.takes_down hcons
    cases hc : c.behaviour with
    | touchpad pad' =>
      rw [Control.down, hc]
      refine held_touchpad hs hc hso _ fun he => ?_
      subst he
      rcases pad'.down_cases sv (c.site s.size) p (c.bounds.toLocal spot) s.desk with
        ⟨hr, -⟩ | ⟨d', -, hd', hr⟩ <;> rw [hr]
      · exact ⟨ht, hh⟩
      · have hq := (Site.take?_eq_some hd').2
        have ht' := hT.contact (some ⟨p, c.bounds.toLocal spot, c.bounds.toLocal spot⟩) (hq ▸ ht)
        exact ⟨hT.beginContact (hq ▸ hwf) ht', Touchpad.held_beginContact (hT.safe ht')⟩
    | _ =>
      have hk : c.behaviour.kind.isTouchpad = false := by rw [hc]; rfl
      exact held_other hs hso ht hh hk htk.kind (htk.timerless hk)
        (Behaviour.silent_down hk (hso.quiet c (by simp [hs])))
  | @move pre post c p spot hs _ =>
    have hkp := (c.behaviour.keeps_move sv (c.site s.size) p (c.bounds.toLocal spot) s.desk).1
    cases hc : c.behaviour with
    | touchpad pad' =>
      rw [Control.move, hc]
      refine held_touchpad hs hc hso _ fun he => ?_
      subst he
      unfold Touchpad.move
      split
      · split
        · exact ⟨hT.slide ht, Touchpad.held_slide hh⟩
        · exact ⟨ht, hh⟩
      · exact ⟨ht, hh⟩
    | _ =>
      have hk : c.behaviour.kind.isTouchpad = false := by rw [hc]; rfl
      exact held_other hs hso ht hh hk hkp.kind (hkp.timerless hk)
        (Behaviour.silent_move hk (hso.quiet c (by simp [hs])))
  | @up pre post c p hs _ =>
    suffices h : ∃ pad, (s.place pre post (c.up s.size p s.desk)).Sole pad ∧
        T (c.up s.size p s.desk).desk.timers pad ∧
        pad.Held (leftAfter (out ++ (c.up s.size p s.desk).issuedBy c.id)) by
      obtain ⟨pad, hso, ht, hh⟩ := h
      exact ⟨pad, ⟨hso.touchpads, hso.quiet⟩, ht, hh⟩
    cases hc : c.behaviour with
    | touchpad pad' =>
      rw [Control.up, hc]
      refine held_touchpad hs hc hso _ fun he => ?_
      subst he
      by_cases hp : pad'.pointer? = some p
      · have hq : (pad'.up (c.site s.size) p s.desk).desk = (c.site s.size).drop p s.desk :=
          (Touchpad.up_frame (c.site s.size) s.desk hp).2.2.1
        rw [hq]
        exact ⟨hT.up ht, Touchpad.held_up hp _⟩
      · rw [Touchpad.up_of_ne hp]
        exact ⟨ht, hh⟩
    | _ =>
      have hk : c.behaviour.kind.isTouchpad = false := by rw [hc]; rfl
      have hsil : Silent (c.up s.size p s.desk).requests :=
        Behaviour.silent_up hk (hso.quiet c (by simp [hs]))
      by_cases hp : c.behaviour.pointer? = some p
      · have hdr := Behaviour.drops_up (c.site s.size) s.desk hp
        exact held_other hs hso ht hh hk hdr.kind (hdr.timerless hk) hsil
      · have hu : c.up s.size p s.desk = .ignored c s.desk := by
          rw [Control.up, Behaviour.up_of_ne (c.site s.size) s.desk hp]; rfl
        exact held_other hs hso ht hh hk (by rw [hu]; rfl) (by rw [hu]; rfl) hsil
  | stray =>
    rw [List.append_nil]
    exact ⟨pad, ⟨hso.touchpads, hso.quiet⟩, ht, hh⟩

/-- A timer that fires is one of the touchpad. -/
theorem deliver (hT : Settling sv now T) (hp : s.popExpired? now = some (t, s'))
    (hd : s.Dragging T out) :
    (s'.deliver sv t).state.Dragging T (out ++ (s'.deliver sv t).issued) := by
  have hi : Input sv s _ _ := input_deliver hp
  have hb := (balanced_of_input hd.nodup hi hd.balanced).1
  refine ⟨(ids_of_input hi).symm ▸ hd.nodup, hb, ?_⟩
  obtain ⟨pre, c, post, hs, -, hm, he⟩ := deliver_eq sv hd.nodup hd.balanced hp
  obtain ⟨pad, hso, ht, hh⟩ := hd.held
  obtain ⟨q, hq, rfl⟩ := popExpired?_eq_some hp
  rw [he]
  -- only a touchpad holds timers, and there is no other one
  cases hc : c.behaviour with
  | touchpad pad' =>
    rw [hc] at hm
    rw [Control.timer, hc]
    refine held_touchpad (s := s.withTimers q) hs hc ⟨hso.touchpads, hso.quiet⟩ _ fun he => ?_
    subst he
    exact ⟨hT.timer hd.balanced.wf hq hm ht,
      Touchpad.held_timer (fun hp _ => hT.safe hd.balanced.wf hq ht hp) hh⟩
  | _ =>
    rw [hc] at hm
    exact absurd hm List.not_mem_nil

theorem deliverDue (hT : Settling sv now T) (limit : Nat) (hd : s.Dragging T out) :
    (Surface.deliverDue sv now limit s).state.Dragging T
      (out ++ (Surface.deliverDue sv now limit s).issued) := by
  induction limit generalizing s out with
  | zero => simpa [Surface.deliverDue] using hd
  | succ limit ih =>
    rw [Surface.deliverDue]
    split
    · simpa using hd
    · rename_i t s' hp
      have h := ih (hd.deliver hT hp)
      rwa [List.append_assoc] at h

/-- The touchpad is as `T` says after an advance too, if it settles into it from `T'`. -/
theorem advance (hT : Settling sv now T') (hstart : ∀ {q pad}, T q pad → T' q pad)
    (hend : ∀ {q : TimerQueue} {pad}, q.WF → q.popExpired? now = none → T' q pad →
      T (q.advanceClock now) pad) (hd : s.Dragging T out) :
    (s.advance sv now).state.Dragging T (out ++ (s.advance sv now).issued) := by
  have h := (hd.mono hstart).deliverDue hT s.pendingWork
  obtain ⟨pad, hso, ht, hh⟩ := h.held
  have hdrained := popExpired?_deliverDue sv now (Nat.le_refl s.pendingWork)
  exact ⟨h.nodup, h.balanced.of_owner (h.balanced.wf.advanceClock now) fun _ => rfl, pad,
    ⟨hso.touchpads, hso.quiet⟩, hend h.balanced.wf hdrained ht, hh⟩

theorem run (hT : Steady sv T)
    (ha : ∀ {s : Surface} {out : List Issued} (now : Millis), s.Dragging T out →
      (s.advance sv now).state.Dragging T (out ++ (s.advance sv now).issued))
    {ops : List Operation} (hops : ∀ op ∈ ops, op.isInput = true) (hd : s.Dragging T out) :
    (Surface.run sv (ops.map .operation) s).state.Dragging T
      (out ++ (Surface.run sv (ops.map .operation) s).issued) := by
  induction ops generalizing s out with
  | nil => simpa [Surface.run] using hd
  | cons op ops ih =>
    have hop : (op.perform sv s).state.Dragging T (out ++ (op.perform sv s).issued) := by
      have hi := hops op List.mem_cons_self
      cases op with
      | advance now => exact ha now hd
      | touch e =>
        have hr := (chain_route e).preserve (P := Dragging T)
          (fun _ _ _ _ hi hd => hd.contact hT hi) _ (ha e.time hd)
        rwa [List.append_assoc] at hr
      | _ => cases hi
    have h := ih (fun op hm => hops op (List.mem_cons_of_mem _ hm)) hop
    rwa [List.append_assoc] at h

/-- With short clicks and without double tap drags. -/
theorem run_ordered (hshort : sv.tuning.clickTimeout ≤ sv.tuning.idleTimeout) {ops : List Operation}
    (hops : ∀ op ∈ ops, op.isInput = true) (hd : s.Dragging (Touchpad.Ordered sv) out) :
    (Surface.run sv (ops.map .operation) s).state.Dragging (Touchpad.Ordered sv)
      (out ++ (Surface.run sv (ops.map .operation) s).issued) := by
  have hT : Steady sv (Touchpad.Ordered sv) :=
    { safe := fun ho hf => absurd (ho.flag.symm.trans hf) Bool.false_ne_true
      contact := fun con ho => ho.of_contact con
      beginContact := fun wf ho => ho.beginContact hshort wf
      slide := fun ho => ho.slide
      up := fun ho => ho.up }
  have hset : ∀ now, Settling sv now (Touchpad.Ordered sv) := fun _ =>
    { safe := fun wf hpop ho => ho.click_of_popExpired? wf hpop
      timer := fun wf hpop _ ho => ho.timer wf hpop rfl }
  exact run hT (fun now => advance (hset now) id fun _ _ ho => ho.advanceClock now) hops hd

/-- With clicks that are over at once and double tap drags. -/
theorem run_prompt (hidle : sv.tuning.idleTimeout ≠ 0)
    (hprompt : sv.tuning.clickTimeout = 0 ∨ sv.tuning.idleTimeout = 0xffffffffffffffff)
    {ops : List Operation} (hops : ∀ op ∈ ops, op.isInput = true)
    (hd : s.Dragging (Touchpad.Prompt sv) out) :
    (Surface.run sv (ops.map .operation) s).state.Dragging (Touchpad.Prompt sv)
      (out ++ (Surface.run sv (ops.map .operation) s).issued) := by
  have hT : Steady sv (Touchpad.Prompt sv) :=
    { safe := fun hp _ _ => hp.click
      contact := fun con hp => hp.of_contact con
      beginContact := fun _ hp => hp.beginContact hidle
      slide := fun hp => hp.slide
      up := fun hp => hp.up }
  have hset : ∀ now, Settling sv now (Touchpad.Closing sv now) := fun _ =>
    { safe := fun _ _ hc => hc.click_of_pending
      timer := fun wf hpop hm hc => hc.timer hprompt wf hpop hm rfl }
  exact run hT (fun now => advance (hset now) (fun hp => hp.closing now)
    fun wf hdrained hc => hc.prompt wf hdrained) hops hd

end Dragging

end Surface

/-! ## Layouts with one touchpad -/

def ControlKind.doubleTapDrag? : ControlKind → Option Bool
  | touchpad doubleTapDrag => some doubleTapDrag
  | _ => none

/-- The layout has one touchpad, with double tap drags or without, and no other control has the left
mouse button as an action. -/
structure SoleTouchpad (doubleTapDrag : Bool) (cfgs : List ControlConfig) : Prop where
  touchpads : cfgs.filterMap (·.kind.doubleTapDrag?) = [doubleTapDrag]
  quiet : ∀ cfg ∈ cfgs, cfg.kind.pressesLeft = false

/-- The tuning with which every drag holds the left button. -/
def Tuning.KeepsDrags (tn : Tuning) (doubleTapDrag : Bool) : Prop :=
  if doubleTapDrag then tn.clickTimeout = 0 ∨ tn.idleTimeout = 0xffffffffffffffff
  else tn.clickTimeout ≤ tn.idleTimeout

instance (tn : Tuning) (doubleTapDrag : Bool) : Decidable (tn.KeepsDrags doubleTapDrag) :=
  inferInstanceAs (Decidable (ite _ _ _))

/-- A drag keeps the button down: on a surface with one touchpad and no other control for the left
button, after any touches and advances, if the touchpad is in a drag then the last thing that the
bridge was told about the left button is a press. -/
def Services.DragsHold (sv : Services) (doubleTapDrag : Bool) : Prop :=
  ∀ size cl cfgs, SoleTouchpad doubleTapDrag cfgs →
    ∀ ops : List Operation, (∀ op ∈ ops, op.isInput = true) →
      let o := Surface.run sv ((.replaceLayout cfgs :: ops).map .operation)
        ((Surface.empty size).withClaims cl)
      ∀ pad ∈ o.state.touchpads, pad.phase.holdsButton = true →
        lastLeft? (sv.recorder.record (sv.outputs o.issued)).events = some true

namespace Surface
variable {sv : Services} {doubleTapDrag : Bool} {cfgs : List ControlConfig}
  {T : TimerQueue → Touchpad → Prop}

theorem touchpad?_ofKind (k : ControlKind) :
    (Behaviour.ofKind k).touchpad? = k.doubleTapDrag?.map fun f => { doubleTapDrag := f } := by
  cases k <;> rfl

/-- A new layout is refused, or it has a fresh touchpad. -/
theorem Dragging.start (sv : Services) (hso : SoleTouchpad doubleTapDrag cfgs)
    (size : SurfaceSize) (cl : Claims) (hT : T .empty { doubleTapDrag }) :
    let s₀ := (empty size).withClaims cl
    let o := (Operation.replaceLayout cfgs).perform sv s₀
    o = { state := s₀ } ∨ o.state.Dragging T o.issued := by
  intro s₀ o
  rcases perform_replaceLayout_cases sv s₀ cfgs with ⟨-, ho⟩ | ⟨-, ho⟩
  · have hs : o.state = { s₀ with controls := cfgs.map (Control.mount size) } :=
      (congrArg (·.state) ho).trans (mountAll_eq cfgs)
    have hq : o.state.desk.timers = .empty := by rw [hs]; rfl
    refine .inr ⟨nodup_ids_perform _ (nodup_ids_empty size cl),
      ((Tidy.empty size cl).perform sv (.replaceLayout cfgs)).balanced,
      { doubleTapDrag }, ⟨?_, fun c hm => ?_⟩, hq ▸ hT, nofun⟩
    · have ht : o.state.touchpads = (cfgs.filterMap (·.kind.doubleTapDrag?)).map
          fun f => { doubleTapDrag := f } := by
        rw [hs, List.map_filterMap]
        simp only [Surface.touchpads, List.filterMap_map, Function.comp_def, Control.mount,
          touchpad?_ofKind]
      rw [ht, hso.touchpads]
      rfl
    · rw [hs] at hm
      obtain ⟨cfg, hcfg, rfl⟩ := List.mem_map.1 hm
      show (Behaviour.ofKind cfg.kind).kind.pressesLeft = false
      rw [Behaviour.kind_ofKind]
      exact hso.quiet cfg hcfg
  · exact .inl ho

/-- The drags of a touchpad hold the button if touches and advances keep it as `T` says. -/
theorem Dragging.dragsHold (hacc : sv.accepting = true) (hT : T .empty { doubleTapDrag })
    (hrun : ∀ {s : Surface} {out : List Issued} {ops : List Operation},
      (∀ op ∈ ops, op.isInput = true) → s.Dragging T out →
        (Surface.run sv (ops.map .operation) s).state.Dragging T
          (out ++ (Surface.run sv (ops.map .operation) s).issued)) :
    sv.DragsHold doubleTapDrag := by
  intro size cl cfgs hso ops hops o pad hpad hheld
  rw [lastLeft?_record hacc]
  rcases Dragging.start sv hso size cl hT with hr | hd
  · have hids : o.state.ids = [] := by
      show (Surface.run sv (ops.map .operation) (Operation.perform sv _ _).state).state.ids = []
      rw [ids_run_of_isInput hops, hr]
      rfl
    rw [Surface.touchpads, List.map_eq_nil_iff.1 hids] at hpad
    exact absurd hpad List.not_mem_nil
  · obtain ⟨pad', hso', -, hh⟩ := (hrun hops hd).held
    have hpad : pad ∈ [pad'] := hso'.touchpads ▸ hpad
    rw [List.mem_singleton.1 hpad] at hheld
    exact (hh hheld).2

end Surface

theorem Services.dragsHold_of_keepsDrags {sv : Services} {doubleTapDrag : Bool}
    (hacc : sv.accepting = true) (hidle : sv.tuning.idleTimeout ≠ 0)
    (hk : sv.tuning.KeepsDrags doubleTapDrag) : sv.DragsHold doubleTapDrag := by
  cases doubleTapDrag with
  | false =>
    exact Surface.Dragging.dragsHold hacc (.of_no_click rfl rfl) (Surface.Dragging.run_ordered hk)
  | true =>
    exact Surface.Dragging.dragsHold hacc ⟨rfl, rfl, .of_not_pending rfl⟩
      (Surface.Dragging.run_prompt hidle hk)

end TouchOverlay
