import TouchOverlay.Proofs.FiringOrder
import TouchOverlay.Proofs.Session

/-!
# Calls that only take things off the desk

A contact that goes on, lifts or is cancelled, and a session that ends, may drop the claim on a
pointer and cancel timers, and nothing else happens to what the controls share. Moreover these calls
do not look at the desk: what they take off it, what they ask for and the state they leave depend on
the control alone (`Withdraws`). So it does not matter in which order two of them come.

Every `Withdrawal` is a filter, on the claims or on the pending timers. Well-formed tables that hold
the same timers are equal (`WF.ext`), so the desk that is left depends only on the set of withdrawals
(`withdraw_eq_of_mem_iff`).
-/

namespace TouchOverlay

/-- One thing that is taken off a desk, if it is there. -/
inductive Withdrawal
  | claim (p : PointerId) (id : ControlId) (passThrough : Bool)
  | timer (h : TimerHandle)
  | timersOf (id : ControlId)

namespace Withdrawal

def apply (d : Desk) : Withdrawal → Desk
  | claim p id passThrough => { d with claims := d.claims.drop p id passThrough }
  | timer h => d.cancel h
  | timersOf id => { d with timers := (d.timers.cancelOwnedBy id).2 }

def KeepsClaim (p : PointerId) (id : ControlId) : Withdrawal → Prop
  | claim q i passThrough => ¬ (passThrough = false ∧ q = p ∧ i = id)
  | _ => True

def KeepsTimer (t : ExpiredTimer) : Withdrawal → Prop
  | claim _ _ _ => True
  | timer h => t.handle ≠ h
  | timersOf id => t.owner ≠ id

variable {d : Desk} {w : Withdrawal} {p : PointerId} {id : ControlId} {t : ExpiredTimer}

theorem owner?_apply :
    (w.apply d).claims.owner? p = some id ↔ d.claims.owner? p = some id ∧ w.KeepsClaim p id := by
  cases w with
  | claim q i passThrough =>
    cases passThrough with
    | true => simp [apply, Claims.drop, KeepsClaim]
    | false =>
      show (d.claims.releaseIfOwner q i).2.owner? p = some id ↔ _
      rw [Claims.owner?_releaseIfOwner]
      split
      · rename_i h
        obtain ⟨rfl, ho⟩ := h
        simp [ho, KeepsClaim]
      · rename_i h
        refine (and_iff_left_of_imp fun ho => ?_).symm
        rintro ⟨-, rfl, rfl⟩
        exact h ⟨rfl, ho⟩
  | timer h => exact (and_iff_left trivial).symm
  | timersOf i => exact (and_iff_left trivial).symm

theorem mem_apply (wf : d.timers.WF) : t ∈ (w.apply d).timers ↔ t ∈ d.timers ∧ w.KeepsTimer t := by
  cases w with
  | claim q i passThrough => exact (and_iff_left trivial).symm
  | timer h => exact TimerQueue.mem_cancel
  | timersOf i => exact wf.mem_cancelOwnedBy

theorem wf_apply (w : Withdrawal) (wf : d.timers.WF) : (w.apply d).timers.WF := by
  cases w with
  | claim q i passThrough => exact wf
  | timer h => exact wf.cancel h
  | timersOf i => exact wf.cancelOwnedBy i

theorem now_apply (w : Withdrawal) : (w.apply d).timers.now = d.timers.now := by
  cases w with
  | claim q i passThrough => rfl
  | timer h => exact TimerQueue.now_cancel
  | timersOf i => exact TimerQueue.now_removeAll _

theorem nextHandle_apply (w : Withdrawal) :
    (w.apply d).timers.nextHandle = d.timers.nextHandle := by
  cases w with
  | claim q i passThrough => rfl
  | timer h => exact TimerQueue.nextHandle_cancel
  | timersOf i => exact TimerQueue.nextHandle_cancelOwnedBy

end Withdrawal

namespace Desk

def withdraw (d : Desk) (ws : List Withdrawal) : Desk := ws.foldl Withdrawal.apply d

variable {d : Desk} {w : Withdrawal} {ws ws' : List Withdrawal} {p : PointerId} {id : ControlId}
  {t : ExpiredTimer}

theorem withdraw_append (d : Desk) (ws ws' : List Withdrawal) :
    d.withdraw (ws ++ ws') = (d.withdraw ws).withdraw ws' :=
  List.foldl_append

theorem owner?_withdraw : (d.withdraw ws).claims.owner? p = some id ↔
    d.claims.owner? p = some id ∧ ∀ w ∈ ws, w.KeepsClaim p id := by
  induction ws generalizing d with
  | nil => simp [withdraw]
  | cons w ws ih =>
    rw [List.forall_mem_cons, ← and_assoc, ← Withdrawal.owner?_apply]
    exact ih

theorem mem_withdraw (wf : d.timers.WF) :
    t ∈ (d.withdraw ws).timers ↔ t ∈ d.timers ∧ ∀ w ∈ ws, w.KeepsTimer t := by
  induction ws generalizing d with
  | nil => simp [withdraw]
  | cons w ws ih =>
    rw [List.forall_mem_cons, ← and_assoc, ← Withdrawal.mem_apply wf]
    exact ih (w.wf_apply wf)

theorem wf_withdraw (ws : List Withdrawal) (wf : d.timers.WF) : (d.withdraw ws).timers.WF := by
  induction ws generalizing d with
  | nil => exact wf
  | cons w ws ih => exact ih (w.wf_apply wf)

theorem now_withdraw (ws : List Withdrawal) : (d.withdraw ws).timers.now = d.timers.now := by
  induction ws generalizing d with
  | nil => rfl
  | cons w ws ih => exact ih.trans w.now_apply

theorem nextHandle_withdraw (ws : List Withdrawal) :
    (d.withdraw ws).timers.nextHandle = d.timers.nextHandle := by
  induction ws generalizing d with
  | nil => rfl
  | cons w ws ih => exact ih.trans w.nextHandle_apply

/-- Neither the order of withdrawals nor their number matters. -/
theorem withdraw_eq_of_mem_iff (wf : d.timers.WF) (h : ∀ w, w ∈ ws ↔ w ∈ ws') :
    d.withdraw ws = d.withdraw ws' := by
  refine Desk.ext (Claims.ext_owner fun p => Option.ext fun id => ?_) ?_
  · simp only [owner?_withdraw, h]
  · refine (wf_withdraw ws wf).ext (wf_withdraw ws' wf) ?_ ?_ fun t => ?_
    · rw [now_withdraw, now_withdraw]
    · rw [nextHandle_withdraw, nextHandle_withdraw]
    · simp only [mem_withdraw wf, h]

theorem withdraw_comm (wf : d.timers.WF) (ws ws' : List Withdrawal) :
    (d.withdraw ws).withdraw ws' = (d.withdraw ws').withdraw ws := by
  rw [← withdraw_append, ← withdraw_append]
  refine withdraw_eq_of_mem_iff wf fun w => ?_
  rw [List.mem_append, List.mem_append, or_comm]

end Desk

/-! ## Calls on controls -/

/-- The call takes `ws` off the desk, whatever desk that is, and does nothing else with it. -/
def Withdraws {σ : Type} (f : Desk → Reaction σ) (ws : List Withdrawal) : Prop :=
  ∀ d, f d = { f {} with desk := d.withdraw ws }

namespace Withdraws
variable {σ τ : Type} {f : Desk → Reaction σ} {ws : List Withdrawal}

theorem map (hf : Withdraws f ws) (g : σ → τ) : Withdraws (fun d => (f d).map g) ws := by
  intro d
  show (f d).map g = _
  rw [hf d]
  rfl

theorem desk (hf : Withdraws f ws) (d : Desk) : (f d).desk = d.withdraw ws :=
  congrArg Reaction.desk (hf d)

end Withdraws

/-- What the end of a contact takes off the desk. -/
def Site.dropped (site : Site) (p : PointerId) : Withdrawal := .claim p site.id site.passThrough

section Calls
variable (sv : Services) (site : Site) (spot : Point) {p : PointerId}

theorem Touchpad.withdraws_slide (pad : Touchpad) (c : Contact) :
    ∃ ws, Withdraws (pad.slide sv site c spot) ws := by
  unfold slide
  cases pad.phase with
  | pending timer =>
    dsimp only
    split
    · exact ⟨[.timer timer], fun _ => rfl⟩
    · exact ⟨[], fun _ => rfl⟩
  | _ => exact ⟨[], fun _ => rfl⟩

namespace Behaviour
variable {b : Behaviour}

theorem withdraws_move (hp : b.pointer? = some p) :
    ∃ ws, Withdraws (b.move sv site p spot) ws := by
  cases b with
  | button b => exact ⟨[], fun _ => rfl⟩
  | directionPad pad =>
    have hp : pad.pointer? = some p := hp
    refine ⟨[], fun d => ?_⟩
    simp only [move, DirectionPad.move, hp, if_true]
    rfl
  | touchpad pad =>
    obtain ⟨c, hc, rfl⟩ := Option.map_eq_some_iff.1 hp
    obtain ⟨ws, hws⟩ := pad.withdraws_slide sv site spot c
    refine ⟨ws, fun d => ?_⟩
    simp only [move, Touchpad.move, hc, if_true]
    exact hws.map touchpad d

theorem withdraws_up (hp : b.pointer? = some p) : Withdraws (b.up site p) [site.dropped p] := by
  intro d
  cases b with
  | button b =>
    simp only [up, Button.up_of_pointer? hp]
    rfl
  | directionPad pad =>
    simp only [up, DirectionPad.up_of_pointer? hp]
    rfl
  | touchpad pad =>
    have hp : pad.pointer? = some p := hp
    simp only [up, Touchpad.up, hp, if_true]
    cases pad.phase <;> rfl

/-- What the end of a session takes off the desk: all that the session has there. -/
def withdrawals (b : Behaviour) : List Withdrawal := b.timers.map .timer ++ b.pointer?.toList.map site.dropped

theorem withdraws_detach (b : Behaviour) : Withdraws (b.detach site) (b.withdrawals site) := by
  intro d
  cases b with
  | button b =>
    simp only [detach, Button.detach, withdrawals, timers, pointer?]
    cases b.pointer? <;> rfl
  | directionPad pad =>
    simp only [detach, DirectionPad.detach, withdrawals, timers, pointer?]
    cases pad.pointer? <;> rfl
  | touchpad pad =>
    have hd : (pad.detach site d).desk = d.withdraw (pad.timers.map .timer ++
        pad.pointer?.toList.map site.dropped) := by
      unfold Touchpad.detach Touchpad.cancelTimers Touchpad.cancelClick Touchpad.timers
        Touchpad.idleTimer?
      cases pad.phase <;> cases pad.clickTimer? <;> cases pad.pointer? <;> rfl
    show (pad.detach site d).map touchpad = _
    rw [withdrawals, timers, pointer?, ← hd]
    rfl

end Behaviour
end Calls

namespace Control
variable (sv : Services) (size : SurfaceSize) (spot : Point) {p : PointerId} {c : Control}

theorem withdraws_move (hp : c.pointer? = some p) :
    ∃ ws, Withdraws (fun d => c.move sv size p d spot) ws := by
  obtain ⟨ws, hws⟩ :=
    Behaviour.withdraws_move sv (c.site size) (c.bounds.toLocal spot) (b := c.behaviour) hp
  exact ⟨ws, hws.map _⟩

theorem withdraws_up (hp : c.pointer? = some p) :
    Withdraws (fun d => c.up size p d) [(c.site size).dropped p] :=
  (Behaviour.withdraws_up (c.site size) (b := c.behaviour) hp).map _

theorem withdraws_detach (c : Control) :
    Withdraws (fun d => c.detach size d) (c.behaviour.withdrawals (c.site size)) :=
  (c.behaviour.withdraws_detach (c.site size)).map _

end Control

end TouchOverlay
