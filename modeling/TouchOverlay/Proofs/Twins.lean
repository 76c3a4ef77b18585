import TouchOverlay.Proofs.StaleTimers

/-!
# Twin controls

Two controls at two desks are twins if they differ in the handles of their timers only. The timers
that correspond are due at the same time, and those of one touchpad were scheduled in the same
order, which decides between deadlines that are equal. A call at the same instant makes twins of
twins and has the same requests (`Behaviour.Twin.down` and its siblings): no control reads a handle
but to compare it with its own.
-/

namespace TouchOverlay
open TimerQueue

/-! ## What is left without the handles -/

def Phase.forgetHandle : Phase → Phase
  | pending _ => pending 0
  | phase => phase

/-- All that can be observed of a control: the handles of its timers cannot. -/
def Behaviour.forgetHandles : Behaviour → Behaviour
  | touchpad pad => touchpad
      { pad with
        phase := pad.phase.forgetHandle
        clickTimer? := if pad.clickTimer?.isSome then some 0 else none }
  | b => b

/-! ## Twins -/

/-- The phases are the same, and idle windows close at the same time. -/
inductive Phase.Twin (q : TimerQueue) : Phase → TimerQueue → Phase → Prop
  | same {q' : TimerQueue} {φ : Phase} : φ.isPending = false → Twin q φ q' φ
  | pending {q' : TimerQueue} {i i' : TimerHandle} :
      q.deadlines[i]? = q'.deadlines[i']? → Twin q (.pending i) q' (.pending i')

/-- No click is outstanding, or the button will be released at the same time. -/
inductive ClickTwin (q : TimerQueue) : Option TimerHandle → TimerQueue → Option TimerHandle → Prop
  | absent {q' : TimerQueue} : ClickTwin q none q' none
  | running {q' : TimerQueue} {k k' : TimerHandle} :
      q.deadlines[k]? = q'.deadlines[k']? → ClickTwin q (some k) q' (some k')

namespace Touchpad

structure Twin (q : TimerQueue) (pad : Touchpad) (q' : TimerQueue) (pad' : Touchpad) : Prop where
  drag : pad.doubleTapDrag = pad'.doubleTapDrag
  contact : pad.contact? = pad'.contact?
  phase : pad.phase.Twin q q' pad'.phase
  click : ClickTwin q pad.clickTimer? q' pad'.clickTimer?
  /-- If both timers run, the idle timer is the older one on both touchpads or on none. -/
  order : ∀ {i i' k k'}, pad.phase = .pending i → pad'.phase = .pending i' →
    pad.clickTimer? = some k → pad'.clickTimer? = some k' → (i < k ↔ i' < k')

/-- Timers that play the same part for two touchpads. -/
inductive SamePart (pad pad' : Touchpad) : TimerHandle → TimerHandle → Prop
  | idle {i i' : TimerHandle} :
      pad.phase = .pending i → pad'.phase = .pending i' → SamePart pad pad' i i'
  | click {k k' : TimerHandle} :
      pad.clickTimer? = some k → pad'.clickTimer? = some k' → SamePart pad pad' k k'

end Touchpad

inductive Behaviour.Twin (q : TimerQueue) : Behaviour → TimerQueue → Behaviour → Prop
  | same {q' : TimerQueue} {b : Behaviour} : b.kind.isTouchpad = false → Twin q b q' b
  | touchpad {q' : TimerQueue} {pad pad' : Touchpad} :
      pad.Twin q q' pad' → Twin q (.touchpad pad) q' (.touchpad pad')

/-- Reactions that leave twins and make the same requests. -/
structure Reaction.Twin {σ : Type} (T : TimerQueue → σ → TimerQueue → σ → Prop)
    (r r' : Reaction σ) : Prop where
  state : T r.desk.timers r.state r'.desk.timers r'.state
  requests : r.requests = r'.requests

section
variable {q q' q₁ q₁' : TimerQueue} {o o' : Option TimerHandle} {φ φ' : Phase}

theorem Phase.Twin.congr (h : φ.Twin q q' φ')
    (hq : ∀ i, φ = .pending i → q₁.deadlines[i]? = q.deadlines[i]?)
    (hq' : ∀ i, φ' = .pending i → q₁'.deadlines[i]? = q'.deadlines[i]?) : φ.Twin q₁ q₁' φ' := by
  cases h with
  | same hp => exact .same hp
  | pending hi => exact .pending ((hq _ rfl).trans (hi.trans (hq' _ rfl).symm))

theorem Phase.Twin.forgetHandle_eq (h : φ.Twin q q' φ') : φ.forgetHandle = φ'.forgetHandle := by
  cases h <;> rfl

theorem ClickTwin.isSome_eq (h : ClickTwin q o q' o') : o.isSome = o'.isSome := by
  cases h <;> rfl

theorem ClickTwin.congr (h : ClickTwin q o q' o')
    (hq : ∀ k, o = some k → q₁.deadlines[k]? = q.deadlines[k]?)
    (hq' : ∀ k, o' = some k → q₁'.deadlines[k]? = q'.deadlines[k]?) : ClickTwin q₁ o q₁' o' := by
  cases h with
  | absent => exact .absent
  | running hk => exact .running ((hq _ rfl).trans (hk.trans (hq' _ rfl).symm))

end

/-! ## Touchpads -/

namespace Touchpad
variable {sv : Services} {site : Site} {p : PointerId} {spot : Point} {pad pad' : Touchpad}
  {d d' : Desk} {con : Contact} {q q' q₁ q₁' : TimerQueue} {h h' k k' : TimerHandle}

theorem idle_ne_click (hn : pad.timers.Nodup) (hp : pad.phase = .pending h)
    (hc : pad.clickTimer? = some k) : h ≠ k := by
  rw [timers_of_pending hp, hc] at hn
  simpa using hn

theorem Twin.congr (ht : pad.Twin q q' pad')
    (hq : ∀ h ∈ pad.timers, q₁.deadlines[h]? = q.deadlines[h]?)
    (hq' : ∀ h ∈ pad'.timers, q₁'.deadlines[h]? = q'.deadlines[h]?) : pad.Twin q₁ q₁' pad' :=
  ⟨ht.drag, ht.contact,
    ht.phase.congr (fun h hp => hq h (mem_timers.2 (.inl hp)))
      fun h hp => hq' h (mem_timers.2 (.inl hp)),
    ht.click.congr (fun h hc => hq h (mem_timers.2 (.inr hc)))
      fun h hc => hq' h (mem_timers.2 (.inr hc)),
    ht.order⟩

/-! ### Parts -/

namespace SamePart

theorem deadline (ht : pad.Twin q q' pad') (hs : SamePart pad pad' h h') :
    q.deadlines[h]? = q'.deadlines[h']? := by
  cases hs with
  | idle hp hp' =>
    have hφ := ht.phase
    rw [hp, hp'] at hφ
    cases hφ with
    | same hf => cases hf
    | pending hi => exact hi
  | click hc hc' =>
    have hk := ht.click
    rw [hc, hc'] at hk
    cases hk with
    | running hk => exact hk

/-- Timers of one touchpad are as old, compared with each other, as those of its twin. -/
theorem le_iff (ht : pad.Twin q q' pad') (hn : pad.timers.Nodup) (hn' : pad'.timers.Nodup)
    (hs : SamePart pad pad' h h') (hs' : SamePart pad pad' k k') : h ≤ k ↔ h' ≤ k' := by
  -- the order of the two timers of a touchpad is strict, whichever of them `h` is
  have hmixed {i i' k k' : Nat} (hp : pad.phase = .pending i)
      (hp' : pad'.phase = .pending i') (hc : pad.clickTimer? = some k)
      (hc' : pad'.clickTimer? = some k') : (i ≤ k ↔ i' ≤ k') ∧ (k ≤ i ↔ k' ≤ i') := by
    have hlt : i < k ↔ i' < k' := ht.order hp hp' hc hc'
    have hne : i ≠ k := idle_ne_click hn hp hc
    have hne' : i' ≠ k' := idle_ne_click hn' hp' hc'
    omega
  cases hs with
  | idle hp hp' =>
    cases hs' with
    | idle hq hq' =>
      cases hp.symm.trans hq
      cases hp'.symm.trans hq'
      simp
    | click hc hc' => exact (hmixed hp hp' hc hc').1
  | click hc hc' =>
    cases hs' with
    | idle hp hp' => exact (hmixed hp hp' hc hc').2
    | click hq hq' =>
      cases hc.symm.trans hq
      cases hc'.symm.trans hq'
      simp

end SamePart

theorem Twin.exists_part (ht : pad.Twin q q' pad') :
    (∀ h ∈ pad.timers, ∃ h', SamePart pad pad' h h') ∧
      ∀ h' ∈ pad'.timers, ∃ h, SamePart pad pad' h h' := by
  have hphase := ht.phase
  have hclick := ht.click
  constructor
  · intro h hm
    rcases mem_timers.1 hm with hp | hc
    · rw [hp] at hphase
      generalize hφ : pad'.phase = φ' at hphase
      cases hphase with
      | same hf => cases hf
      | pending _ => exact ⟨_, .idle hp hφ⟩
    · rw [hc] at hclick
      generalize ho : pad'.clickTimer? = o' at hclick
      cases hclick with
      | running _ => exact ⟨_, .click hc ho⟩
  · intro h' hm
    rcases mem_timers.1 hm with hp | hc
    · rw [hp] at hphase
      generalize hφ : pad.phase = φ at hphase
      cases hphase with
      | same hf => cases hf
      | pending _ => exact ⟨_, .idle hφ hp⟩
    · rw [hc] at hclick
      generalize ho : pad.clickTimer? = o at hclick
      cases hclick with
      | running _ => exact ⟨_, .click ho hc⟩

/-! ### Calls -/

section Calls
variable (sv : Services) (site : Site)

theorem deadlines_resolveClick :
    (resolveClick sv site pad d).2.timers.deadlines[d.timers.nextHandle]? =
      some (Millis.later d.timers.now sv.tuning.clickTimeout) := by
  have hnow : (pad.cancelClick d).timers.now = d.timers.now := @now_resolveClick sv site pad d
  show ((pad.cancelClick d).timers.schedule site.id _).2.deadlines[_]? = _
  rw [deadlines_schedule, nextHandle_cancelClick, if_pos rfl, hnow]

/-- Whatever was outstanding before, clicks that are sent at the same time are released at the same
time. -/
theorem twin_resolveClick (pad pad' : Touchpad) (hnow : d.timers.now = d'.timers.now) :
    ClickTwin (resolveClick sv site pad d).2.timers (resolveClick sv site pad d).1.clickTimer?
      (resolveClick sv site pad' d').2.timers (resolveClick sv site pad' d').1.clickTimer? := by
  rw [clickTimer?_resolveClick, clickTimer?_resolveClick]
  refine .running ?_
  rw [deadlines_resolveClick, deadlines_resolveClick, hnow]

theorem clickTimer_resolveClick_lt (pad : Touchpad) (d : Desk) :
    ∀ k, (resolveClick sv site pad d).1.clickTimer? = some k →
      k < (resolveClick sv site pad d).2.timers.nextHandle := by
  intro k hk
  rw [clickTimer?_resolveClick] at hk
  cases hk
  rw [nextHandle_resolveClick]
  exact Nat.lt_succ_self _

theorem twin_startPending (hd : pad.doubleTapDrag = pad'.doubleTapDrag)
    (hcon : pad.contact? = pad'.contact?)
    (hc : ClickTwin d.timers pad.clickTimer? d'.timers pad'.clickTimer?)
    (hlt : ∀ k, pad.clickTimer? = some k → k < d.timers.nextHandle)
    (hlt' : ∀ k, pad'.clickTimer? = some k → k < d'.timers.nextHandle)
    (hnow : d.timers.now = d'.timers.now) :
    (startPending sv site pad d).1.Twin (startPending sv site pad d).2.timers
      (startPending sv site pad' d').2.timers (startPending sv site pad' d').1 := by
  have hold (d : Desk) {k : TimerHandle} (hk : k < d.timers.nextHandle) :
      (startPending sv site pad d).2.timers.deadlines[k]? = d.timers.deadlines[k]? := by
    show (d.timers.schedule site.id _).2.deadlines[k]? = _
    rw [deadlines_schedule, if_neg (Nat.ne_of_gt hk)]
  have hnew (d : Desk) : (startPending sv site pad d).2.timers.deadlines[d.timers.nextHandle]? =
      some (Millis.later d.timers.now sv.tuning.idleTimeout) := by
    show (d.timers.schedule site.id _).2.deadlines[_]? = _
    rw [deadlines_schedule, if_pos rfl]
  refine ⟨hd, hcon, .pending ?_, ?_, ?_⟩
  · exact (hnew d).trans (hnow ▸ (hnew d').symm)
  · exact hc.congr (fun k hk => hold d (hlt k hk)) fun k hk => hold d' (hlt' k hk)
  · -- the idle timer is the younger one on both
    intro i i' k k' hi hi' hk hk'
    cases hi
    cases hi'
    have hk := hlt k hk
    have hk' := hlt' k' hk'
    exact iff_of_false (Nat.not_lt.2 (Nat.le_of_lt hk)) (Nat.not_lt.2 (Nat.le_of_lt hk'))

/-- The click timers are still twins if the idle timers leave the queues. -/
theorem Twin.click_of_idle_gone (ht : pad.Twin q q' pad') (hn : pad.timers.Nodup)
    (hn' : pad'.timers.Nodup) (hp : pad.phase = .pending h) (hp' : pad'.phase = .pending h')
    (hq : ∀ k, k ≠ h → q₁.deadlines[k]? = q.deadlines[k]?)
    (hq' : ∀ k, k ≠ h' → q₁'.deadlines[k]? = q'.deadlines[k]?) :
    ClickTwin q₁ pad.clickTimer? q₁' pad'.clickTimer? :=
  ht.click.congr (fun k hk => hq k (idle_ne_click hn hp hk).symm)
    fun k hk => hq' k (idle_ne_click hn' hp' hk).symm

/-- Twins that go over to one phase without a timer, or stay in it. -/
theorem Twin.enter (ht : pad.Twin q q' pad') (φ : Phase) (con? : Option Contact)
    (hf : φ.isPending = false) (hc : ClickTwin q₁ pad.clickTimer? q₁' pad'.clickTimer?) :
    ({ pad with phase := φ, contact? := con? } : Touchpad).Twin q₁ q₁'
      { pad' with phase := φ, contact? := con? } := by
  refine ⟨ht.drag, rfl, .same hf, hc, ?_⟩
  intro i i' k k' hi
  cases hi
  cases hf

theorem Twin.withContact (ht : pad.Twin q q' pad') (con? : Option Contact) :
    ({ pad with contact? := con? } : Touchpad).Twin q q' { pad' with contact? := con? } :=
  ⟨ht.drag, rfl, ht.phase, ht.click, ht.order⟩

theorem deadlines_cancel_of_ne (hne : k ≠ h) :
    (d.cancel h).timers.deadlines[k]? = d.timers.deadlines[k]? := by
  rw [Desk.timers_cancel, deadlines_cancel, if_neg hne.symm]

/-- Twins at which the same contact begins. -/
theorem Twin.beginContact (spot : Point) (ht : pad.Twin d.timers d'.timers pad')
    (hi : d.timers.Issued pad.timers) (hi' : d'.timers.Issued pad'.timers)
    (hnow : d.timers.now = d'.timers.now) :
    Reaction.Twin Touchpad.Twin (beginContact sv site spot pad d)
      (beginContact sv site spot pad' d') := by
  have hphase := ht.phase
  obtain ⟨drag, φ, con?, click?⟩ := pad
  obtain ⟨drag', φ', con?', click?'⟩ := pad'
  obtain rfl : drag = drag' := ht.drag
  obtain rfl : con? = con?' := ht.contact
  cases hphase with
  | @pending _ i i' =>
    cases drag with
    | true =>
      exact ⟨ht.enter _ con? rfl (ht.click_of_idle_gone hi.nodup hi'.nodup rfl rfl
        (fun _ => deadlines_cancel_of_ne) fun _ => deadlines_cancel_of_ne), rfl⟩
    | false =>
      have hcancel : (d.cancel i).timers.now = (d'.cancel i').timers.now := by
        rw [Desk.timers_cancel, Desk.timers_cancel, now_cancel, now_cancel, hnow]
      let pad : Touchpad := ⟨false, .pending i, con?, click?⟩
      let pad' : Touchpad := ⟨false, .pending i', con?, click?'⟩
      have hclick := twin_resolveClick sv site pad pad' hcancel
      have hlt := clickTimer_resolveClick_lt sv site pad (d.cancel i)
      have hlt' := clickTimer_resolveClick_lt sv site pad' (d'.cancel i')
      have hnow := (@now_resolveClick sv site pad (d.cancel i)).trans
        (hcancel.trans (@now_resolveClick sv site pad' (d'.cancel i')).symm)
      exact ⟨twin_startPending sv site rfl rfl hclick hlt hlt' hnow, rfl⟩
  | same hf =>
    have hstart := twin_startPending sv site ht.drag ht.contact ht.click
      (fun k hk => hi.lt k (mem_timers.2 (.inr hk)))
      (fun k hk => hi'.lt k (mem_timers.2 (.inr hk))) hnow
    cases φ with
    | pending => cases hf
    | _ => exact ⟨hstart, rfl⟩

theorem Twin.slide (con : Contact) (spot : Point) (ht : pad.Twin d.timers d'.timers pad')
    (hn : pad.timers.Nodup) (hn' : pad'.timers.Nodup) :
    Reaction.Twin Touchpad.Twin (slide sv site con spot pad d) (slide sv site con spot pad' d') := by
  have hphase := ht.phase
  obtain ⟨drag, φ, con?, click?⟩ := pad
  obtain ⟨drag', φ', con?', click?'⟩ := pad'
  cases hphase with
  | @pending _ i i' =>
    by_cases hfar : sv.moveThreshold < (spot - con.initial).length
    · simp only [Touchpad.slide, if_pos hfar]
      exact ⟨ht.enter .moving _ rfl (ht.click_of_idle_gone hn hn' rfl rfl
        (fun _ => deadlines_cancel_of_ne) fun _ => deadlines_cancel_of_ne), rfl⟩
    · simp only [Touchpad.slide, if_neg hfar]
      exact ⟨ht.withContact _, rfl⟩
  | same hf =>
    cases φ with
    | pending => cases hf
    | doubleClick => exact ⟨ht.enter (.doubleClick _) _ rfl ht.click, rfl⟩
    | _ => exact ⟨ht.withContact _, rfl⟩

theorem Twin.pointer? (ht : pad.Twin q q' pad') : pad.pointer? = pad'.pointer? :=
  congrArg (Option.map Contact.pointer) ht.contact

theorem Twin.up (ht : pad.Twin d.timers d'.timers pad') (hp : pad.pointer? = some p) :
    Reaction.Twin Touchpad.Twin (pad.up site p d) (pad'.up site p d') := by
  have hp' : pad'.pointer? = some p := ht.pointer? ▸ hp
  have hphase := ht.phase
  simp only [Touchpad.up, if_pos hp, if_pos hp']
  obtain ⟨drag, φ, con?, click?⟩ := pad
  obtain ⟨drag', φ', con?', click?'⟩ := pad'
  cases hphase with
  | pending => exact ⟨ht.withContact none, rfl⟩
  | same hf =>
    cases φ with
    | pending => cases hf
    | idle => exact ⟨ht.withContact none, rfl⟩
    | _ => exact ⟨ht.enter .idle none rfl ht.click, rfl⟩

/-- Twins whose idle windows close, when the idle timers have left the queues. -/
theorem Twin.closeWindow (ht : pad.Twin q q' pad')
    (hc : ClickTwin d.timers pad.clickTimer? d'.timers pad'.clickTimer?)
    (hnow : d.timers.now = d'.timers.now) :
    Reaction.Twin Touchpad.Twin (closeWindow sv site pad d) (closeWindow sv site pad' d') := by
  have hclick := twin_resolveClick sv site pad pad' hnow
  unfold Touchpad.closeWindow
  obtain ⟨drag, φ, con?, click?⟩ := pad
  obtain ⟨drag', φ', con?', click?'⟩ := pad'
  obtain rfl : con? = con?' := ht.contact
  cases con? with
  | some con => exact ⟨ht.enter .pressMoving (some con) rfl hc, rfl⟩
  | none =>
    refine ⟨⟨ht.drag, rfl, .same rfl, hclick, ?_⟩, rfl⟩
    intro i i' k k' hi
    cases hi

/-- Twins whose timers fire. The timers have left the queues by then. -/
theorem Twin.timer (ht : pad.Twin q q' pad') (hs : SamePart pad pad' h h')
    (hn : pad.timers.Nodup) (hn' : pad'.timers.Nodup) (hnow : d.timers.now = d'.timers.now)
    (hq : ∀ k, k ≠ h → d.timers.deadlines[k]? = q.deadlines[k]?)
    (hq' : ∀ k, k ≠ h' → d'.timers.deadlines[k]? = q'.deadlines[k]?) :
    Reaction.Twin Touchpad.Twin (pad.timer sv site h d) (pad'.timer sv site h' d') := by
  cases hs with
  | click hc hc' =>
    rw [timer_of_click hc, timer_of_click hc']
    refine ⟨⟨ht.drag, ht.contact, ?_, .absent, nofun⟩, rfl⟩
    exact ht.phase.congr (fun i hp => hq i (idle_ne_click hn hp hc))
      fun i hp => hq' i (idle_ne_click hn' hp hc')
  | idle hp hp' =>
    rw [timer_of_idle (fun hc => idle_ne_click hn hp hc rfl) hp,
      timer_of_idle (fun hc => idle_ne_click hn' hp' hc rfl) hp']
    exact ht.closeWindow sv site (ht.click_of_idle_gone hn hn' hp hp' hq hq') hnow

end Calls

end Touchpad

/-! ## All kinds -/

namespace Behaviour
variable {b b' : Behaviour} {d d' : Desk} {q q' q₁ q₁' : TimerQueue}

/-- Timers that play the same part for two controls. -/
def SamePart (b b' : Behaviour) (h h' : TimerHandle) : Prop :=
  ∃ pad pad', b = .touchpad pad ∧ b' = .touchpad pad' ∧ Touchpad.SamePart pad pad' h h'

namespace SamePart
variable {h h' k k' : TimerHandle}

theorem deadline (ht : b.Twin q q' b') (hs : SamePart b b' h h') :
    q.deadlines[h]? = q'.deadlines[h']? := by
  obtain ⟨pad, pad', rfl, rfl, hs⟩ := hs
  cases ht with
  | same hk => cases hk
  | touchpad ht => exact hs.deadline ht

theorem le_iff (ht : b.Twin q q' b') (hn : b.timers.Nodup) (hn' : b'.timers.Nodup)
    (hs : SamePart b b' h h') (hs' : SamePart b b' k k') : h ≤ k ↔ h' ≤ k' := by
  obtain ⟨pad, pad', rfl, rfl, hs⟩ := hs
  obtain ⟨_, _, he, he', hs'⟩ := hs'
  cases he
  cases he'
  cases ht with
  | same hk => cases hk
  | touchpad ht => exact hs.le_iff ht hn hn' hs'

end SamePart

namespace Twin

theorem refl_ofKind (k : ControlKind) : (ofKind k).Twin q q' (ofKind k) := by
  cases k with
  | touchpad doubleTapDrag => exact .touchpad ⟨rfl, rfl, .same rfl, .absent, nofun⟩
  | _ => exact .same rfl

theorem congr (ht : b.Twin q q' b') (hq : ∀ h ∈ b.timers, q₁.deadlines[h]? = q.deadlines[h]?)
    (hq' : ∀ h ∈ b'.timers, q₁'.deadlines[h]? = q'.deadlines[h]?) : b.Twin q₁ q₁' b' := by
  cases ht with
  | same hk => exact .same hk
  | touchpad ht => exact .touchpad (ht.congr hq hq')

theorem pointer? (ht : b.Twin q q' b') : b.pointer? = b'.pointer? := by
  cases ht with
  | same => rfl
  | touchpad ht => exact ht.pointer?

/-- Twins cannot be told apart without their handles. -/
theorem forgetHandles_eq (ht : b.Twin q q' b') : b.forgetHandles = b'.forgetHandles := by
  cases ht with
  | same => rfl
  | touchpad ht =>
    simp only [forgetHandles, ht.drag, ht.contact, ht.phase.forgetHandle_eq, ht.click.isSome_eq]

theorem exists_part (ht : b.Twin q q' b') :
    (∀ h ∈ b.timers, ∃ h', SamePart b b' h h') ∧ ∀ h' ∈ b'.timers, ∃ h, SamePart b b' h h' := by
  cases ht with
  | @same _ b hk =>
    cases b with
    | touchpad => cases hk
    | _ => exact ⟨nofun, nofun⟩
  | @touchpad _ pad pad' ht =>
    obtain ⟨hl, hr⟩ := ht.exists_part
    constructor
    · intro h hm
      obtain ⟨h', hs⟩ := hl h hm
      exact ⟨h', pad, pad', rfl, rfl, hs⟩
    · intro h' hm
      obtain ⟨h, hs⟩ := hr h' hm
      exact ⟨h, pad, pad', rfl, rfl, hs⟩

variable (sv : Services) (site : Site) (p : PointerId) (spot : Point)

/-- A contact that one of two twins takes, the other one takes too if it gets the pointer. -/
theorem down (ht : b.Twin d.timers d'.timers b') (hi : d.timers.Issued b.timers)
    (hi' : d'.timers.Issued b'.timers) (hnow : d.timers.now = d'.timers.now)
    (hc : (b.down sv site p spot d).consumed = true) (htake : site.take? p d' ≠ none) :
    Reaction.Twin Behaviour.Twin (b.down sv site p spot d) (b'.down sv site p spot d') ∧
      (b'.down sv site p spot d').consumed = true := by
  cases ht with
  | @same _ b hk =>
    cases b with
    | touchpad => cases hk
    | button b =>
      rcases b.down_cases site p d with ⟨hr, -⟩ | ⟨_, hn, -, hr⟩
      · simp [Behaviour.down, hr, Reaction.ignored] at hc
      · rcases b.down_cases site p d' with ⟨-, hnone⟩ | ⟨_, -, -, hr'⟩
        · exact absurd (hnone hn) htake
        · simp only [Behaviour.down, hr, hr']
          exact ⟨⟨.same rfl, rfl⟩, rfl⟩
    | directionPad pad =>
      rcases pad.down_cases site p spot d with ⟨hr, -⟩ | ⟨_, hn, -, hr⟩
      · simp [Behaviour.down, hr, Reaction.ignored] at hc
      · rcases pad.down_cases site p spot d' with ⟨-, hnone⟩ | ⟨_, -, -, hr'⟩
        · exact absurd (hnone hn) htake
        · simp only [Behaviour.down, hr, hr']
          exact ⟨⟨.same rfl, rfl⟩, rfl⟩
  | @touchpad _ pad pad' ht =>
    rcases pad.down_cases sv site p spot d with ⟨hr, -⟩ | ⟨d₁, hn, htake₁, hr⟩
    · simp [Behaviour.down, hr, Reaction.ignored] at hc
    · rcases pad'.down_cases sv site p spot d' with ⟨-, hnone⟩ | ⟨d₁', -, htake₁', hr'⟩
      · exact absurd (hnone (ht.contact ▸ hn)) htake
      · obtain ⟨-, hq⟩ := Site.take?_eq_some htake₁
        obtain ⟨-, hq'⟩ := Site.take?_eq_some htake₁'
        rw [← hq] at ht hi hnow
        rw [← hq'] at ht hi' hnow
        simp only [Behaviour.down, hr, hr']
        have hb := (ht.withContact (some ⟨p, spot, spot⟩)).beginContact sv site spot hi hi' hnow
        refine ⟨⟨.touchpad hb.state, hb.requests⟩, ?_⟩
        exact (Touchpad.beginContact_frame ..).2.2.2

theorem move (ht : b.Twin d.timers d'.timers b') (hn : b.timers.Nodup) (hn' : b'.timers.Nodup) :
    Reaction.Twin Behaviour.Twin (b.move sv site p spot d) (b'.move sv site p spot d') := by
  by_cases hp : b.pointer? = some p
  · cases ht with
    | @same _ b hk =>
      cases b with
      | touchpad => cases hk
      | button b => exact ⟨.same rfl, rfl⟩
      | directionPad pad =>
        have hp : pad.pointer? = some p := hp
        simp only [Behaviour.move, DirectionPad.move, if_pos hp]
        exact ⟨.same rfl, rfl⟩
    | @touchpad _ pad pad' ht =>
      obtain ⟨con, hcon, rfl⟩ := Option.map_eq_some_iff.1 hp
      have hs := ht.slide sv site con spot hn hn'
      simp only [Behaviour.move, Touchpad.move, hcon, ht.contact ▸ hcon, if_true]
      exact ⟨.touchpad hs.state, hs.requests⟩
  · have hp' : b'.pointer? ≠ some p := ht.pointer? ▸ hp
    rw [move_of_ne sv site spot d hp, move_of_ne sv site spot d' hp']
    exact ⟨ht, rfl⟩

theorem up (ht : b.Twin d.timers d'.timers b') :
    Reaction.Twin Behaviour.Twin (b.up site p d) (b'.up site p d') := by
  by_cases hp : b.pointer? = some p
  · cases ht with
    | @same _ b hk =>
      cases b with
      | touchpad => cases hk
      | button b =>
        simp only [Behaviour.up, Button.up_of_pointer? hp]
        exact ⟨.same rfl, rfl⟩
      | directionPad pad =>
        simp only [Behaviour.up, DirectionPad.up_of_pointer? hp]
        exact ⟨.same rfl, rfl⟩
    | touchpad ht =>
      have hu := ht.up site hp
      exact ⟨.touchpad hu.state, hu.requests⟩
  · have hp' : b'.pointer? ≠ some p := ht.pointer? ▸ hp
    rw [up_of_ne site d hp, up_of_ne site d' hp']
    exact ⟨ht, rfl⟩

/-- Twins whose timers fire. The timers have left the queues by then. -/
theorem timer (ht : b.Twin q q' b') {h h' : TimerHandle} (hs : SamePart b b' h h')
    (hn : b.timers.Nodup) (hn' : b'.timers.Nodup) (hnow : d.timers.now = d'.timers.now)
    (hq : ∀ k, k ≠ h → d.timers.deadlines[k]? = q.deadlines[k]?)
    (hq' : ∀ k, k ≠ h' → d'.timers.deadlines[k]? = q'.deadlines[k]?) :
    Reaction.Twin Behaviour.Twin (b.timer sv site d h) (b'.timer sv site d' h') := by
  obtain ⟨pad, pad', rfl, rfl, hs⟩ := hs
  cases ht with
  | same hk => cases hk
  | touchpad ht =>
    have hr := ht.timer sv site hs hn hn' hnow hq hq'
    exact ⟨.touchpad hr.state, hr.requests⟩

end Twin

end Behaviour

end TouchOverlay
