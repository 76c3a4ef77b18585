import Mathlib.Data.List.Perm.Basic
import TouchOverlay.Proofs.NotBefore
import TouchOverlay.Proofs.TimeSlicing
import TouchOverlay.Proofs.TimerOwnership

/-!
# An advance ends, and delivers on time

The pending timers are idle timers and click timers. An idle timer may be answered with a click timer,
a click timer with nothing, so the loop of an advance is over after two deliveries for each idle
timer and one for each click timer (`Tidy.pendingWork_eq`), however far the clock jumps.

`OnTime`: no pending deadline lies before the clock. So the clock only ever moves to the deadline of
a timer by going forward, and a time before the clock has nothing to deliver.
-/

namespace TouchOverlay

namespace Behaviour

def idleTimer? : Behaviour → Option TimerHandle
  | touchpad pad => pad.idleTimer?
  | _ => none

def clickTimer? : Behaviour → Option TimerHandle
  | touchpad pad => pad.clickTimer?
  | _ => none

theorem timers_eq (b : Behaviour) : b.timers = b.idleTimer?.toList ++ b.clickTimer?.toList := by
  cases b <;> rfl

theorem isPending_eq (b : Behaviour) : b.isPending = b.idleTimer?.isSome := by
  cases b with
  | touchpad pad =>
    show pad.phase.isPending = pad.idleTimer?.isSome
    unfold Touchpad.idleTimer?
    cases pad.phase <;> rfl
  | _ => rfl

end Behaviour

namespace Surface
open TimerQueue

def idleTimers (s : Surface) : List TimerHandle :=
  s.controls.filterMap (·.behaviour.idleTimer?)

def clickTimers (s : Surface) : List TimerHandle :=
  s.controls.filterMap (·.behaviour.clickTimer?)

/-- No pending deadline lies before the clock. -/
def OnTime (s : Surface) : Prop := s.desk.timers.NotBefore s.now

variable {sv : Services} {s s' : Surface} {is : List Issued} {K : ControlId → Prop} {q : TimerQueue}
  {now : Millis} {t : ExpiredTimer}

/-! ## The number of deliveries -/

theorem length_idleTimers (s : Surface) :
    s.idleTimers.length = s.controls.countP (·.behaviour.isPending) := by
  rw [idleTimers, List.length_filterMap_eq_countP]
  exact List.countP_congr fun c _ => by rw [c.behaviour.isPending_eq]

theorem heldTimers_perm (s : Surface) :
    (s.heldTimers.map (·.1)).Perm (s.idleTimers ++ s.clickTimers) := by
  have hheld : s.heldTimers.map (·.1) =
      s.controls.flatMap fun c => c.behaviour.idleTimer?.toList ++ c.behaviour.clickTimer?.toList := by
    simp [heldTimers, List.map_flatMap, Function.comp_def, Behaviour.timers_eq]
  rw [hheld, idleTimers, clickTimers, List.filterMap_eq_flatMap_toList,
    List.filterMap_eq_flatMap_toList]
  exact (List.flatMap_append_perm _ _ _).symm

theorem Tidy.pending_perm_timers (hs : s.Tidy q) :
    (s.desk.timers.pending.map (·.1)).Perm (s.idleTimers ++ s.clickTimers) :=
  (hs.pending_perm.map _).trans s.heldTimers_perm

/-- An idle timer counts twice, since a click timer may follow it. -/
theorem Tidy.pendingWork_eq (hs : s.Tidy q) :
    s.pendingWork = 2 * s.idleTimers.length + s.clickTimers.length := by
  have hsize : s.desk.timers.byDeadline.size = s.idleTimers.length + s.clickTimers.length := by
    have hlen := hs.pending_perm_timers.length_eq
    rw [List.length_map, pending, List.length_map, Std.ExtTreeMap.length_toList,
      List.length_append] at hlen
    exact hlen
  rw [pendingWork, hsize, ← length_idleTimers]
  omega

theorem delivered_deliverDue_le (sv : Services) (now : Millis) (limit : Nat) (s : Surface) :
    (deliverDue sv now limit s).delivered ≤ s.pendingWork := by
  induction limit generalizing s with
  | zero => exact Nat.zero_le _
  | succ limit ih =>
    rw [deliverDue]
    split
    · exact Nat.zero_le _
    · rename_i t s' hp
      have hlt := pendingWork_deliver_lt sv hp
      have hrest := ih (s'.deliver sv t).state
      show (deliverDue sv now limit (s'.deliver sv t).state).delivered + 1 ≤ s.pendingWork
      omega

theorem advance_eq_deliverDue {limit : Nat} (h : s.pendingWork ≤ limit) :
    s.advance sv now = { deliverDue sv now limit s with
      state := (deliverDue sv now limit s).state.tick now } := by
  rw [deliverDue_congr h (Nat.le_refl _)]
  rfl

/-! ## The clock -/

theorem now_deliver (sv : Services) (s : Surface) (t : ExpiredTimer) :
    (s.deliver sv t).state.now = s.now := by
  unfold deliver
  split
  · rename_i r hr
    obtain ⟨pre, c, post, -, -, rfl⟩ := updateFirst_eq_some hr
    obtain ⟨hs, hs', ht⟩ := c.behaviour.exists_turn_timer sv (c.site s.size) s.desk t.handle
    exact ht.now_eq
  · rfl

theorem now_advance (sv : Services) (s : Surface) (now : Millis) :
    (s.advance sv now).state.now = max s.now now := by
  induction s using advance_induction sv now with
  | idle s hp =>
    rw [advance_of_popExpired?_eq_none hp]
    rfl
  | pop s t s' hp ih =>
    -- a deadline that is due is not after `now`, so the stop there does not show
    obtain ⟨q, hq, rfl⟩ := popExpired?_eq_some hp
    obtain ⟨hnow, hdue⟩ := now_popExpired? hq
    have hnow : (s.withTimers q).now = max s.now t.deadline := hnow
    rw [now_deliver, hnow, Millis.max_max_of_le hdue] at ih
    rw [advance_of_popExpired? hp]
    exact ih

theorem now_contact (h : ContactStep sv s is s') : s'.now = s.now := by
  obtain ⟨id, hs, hs', ht⟩ := exists_turn_of_contact h
  exact ht.now_eq

theorem now_route (sv : Services) (s : Surface) (e : TouchEvent) :
    (s.route sv e).state.now = s.now :=
  (chain_route e).keeps (P := fun s' => s'.now = s.now)
    (fun _ _ _ h hs => (now_contact h).trans hs) rfl

theorem now_change (h : Change K s is s') : s'.now = s.now := by
  cases h with
  | @reset pre post c _ => exact (c.behaviour.keeps_resetToggle (c.site s.size) s.desk).turn.now_eq
  | @detach pre post c _ =>
    have ht := c.behaviour.turn_detach (c.site s.size) s.desk
    exact (now_removeAll _).trans ht.now_eq
  | mount _ _ _ => rfl
  | resize _ => rfl

theorem now_perform_of_layout (sv : Services) (s : Surface) {op : Operation}
    (hop : op.isInput = false) : (op.perform sv s).state.now = s.now := by
  have hchain {is s'} (h : Chain (Change fun _ => False) s is s') : s'.now = s.now :=
    h.keeps (P := fun s' => s'.now = s.now) (fun _ _ _ h hs => (now_change h).trans hs) rfl
  have hmount (s : Surface) (cfgs : List ControlConfig) : (s.mountAll cfgs).now = s.now := by
    rw [mountAll_eq]
    rfl
  have hdetach : s.detachAll.state.now = s.now := hchain chain_detachAll
  cases op with
  | addControl cfg =>
    rcases perform_addControl_cases sv s cfg with ⟨-, -, h⟩ | h <;> rw [h]
    rfl
  | removeControl id =>
    rcases perform_removeControl_cases sv s id with ⟨pre, c, post, hs, -, h⟩ | ⟨-, h⟩ <;> rw [h]
    exact hchain (.single (.detach hs))
  | replaceLayout cs =>
    rcases perform_replaceLayout_cases sv s cs with ⟨-, h⟩ | ⟨-, h⟩ <;> rw [h]
    exact (hmount _ cs).trans hdetach
  | resize size => exact (hmount _ _).trans hdetach
  | resetToggles => exact hchain chain_resetToggles
  | shutdown => exact hdetach
  | advance => cases hop
  | touch => cases hop

/-! ## No deadline before the clock -/

namespace OnTime

theorem empty (size : SurfaceSize) (cl : Claims) : ((empty size).withClaims cl).OnTime :=
  ⟨UInt64.le_refl _, fun _ hd => absurd hd Std.ExtTreeMap.not_mem_empty⟩

theorem of_now_eq (hq : s'.desk.timers.NotBefore s.now) (hnow : s'.now = s.now) :
    s'.OnTime := by
  rw [OnTime, hnow]
  exact hq

theorem pop (hs : s.OnTime) (hp : s.popExpired? now = some (t, s')) :
    s'.now = t.deadline ∧ s.now ≤ t.deadline ∧ s'.OnTime := by
  obtain ⟨q, hq, rfl⟩ := popExpired?_eq_some hp
  exact NotBefore.of_pop hs hq

theorem contact (hs : s.OnTime) (hc : ContactStep sv s is s') : s'.OnTime := by
  obtain ⟨_, _, _, ht⟩ := exists_turn_of_contact hc
  exact of_now_eq (NotBefore.turn ht hs) ht.now_eq

theorem deliver (hs : s.OnTime) (hp : s.popExpired? now = some (t, s')) :
    (s'.deliver sv t).state.OnTime := by
  obtain ⟨-, -, hleft⟩ := hs.pop hp
  refine of_now_eq ?_ (now_deliver sv s' t)
  unfold Surface.deliver
  split
  · rename_i r hr
    obtain ⟨pre, c, post, -, -, rfl⟩ := updateFirst_eq_some hr
    obtain ⟨_, _, ht⟩ := c.behaviour.exists_turn_timer sv (c.site s'.size) s'.desk t.handle
    exact NotBefore.turn ht hleft
  · exact hleft

theorem deliverDue (hs : s.OnTime) (limit : Nat) : (deliverDue sv now limit s).state.OnTime := by
  induction limit generalizing s with
  | zero => exact hs
  | succ limit ih =>
    rw [Surface.deliverDue]
    split
    · exact hs
    · rename_i t s' hp
      exact ih (hs.deliver hp)

theorem advance (hs : s.OnTime) (now : Millis) : (s.advance sv now).state.OnTime := by
  have hold : ((Operation.advance now).perform sv s).state.desk.timers.NotBefore s.now :=
    notBefore_perform _ hs
  -- what is left was not before the clock, and what was due by `now` is gone
  rw [OnTime, now_advance]
  refine ⟨(now_advance sv s now).symm ▸ UInt64.le_refl _, fun d hd => ?_⟩
  exact Millis.max_le.2 ⟨hold.deadline d hd, notBefore_advance.deadline d hd⟩

theorem touch (hs : s.OnTime) (e : TouchEvent) : (s.touch sv e).state.OnTime :=
  (chain_route e).keeps (P := OnTime) (fun _ _ _ hc hs => hs.contact hc) (hs.advance e.time)

theorem perform (hs : s.OnTime) (op : Operation) : (op.perform sv s).state.OnTime := by
  cases hop : op.isInput with
  | true =>
    cases op with
    | advance now => exact hs.advance now
    | touch e => exact hs.touch e
    | _ => cases hop
  | false => exact of_now_eq (notBefore_perform op hs) (now_perform_of_layout sv s hop)

theorem run (hs : s.OnTime) (sts : List Step) : (run sv sts s).state.OnTime := by
  induction sts generalizing s with
  | nil => exact hs
  | cons st sts ih =>
    cases st with
    | operation op => exact ih (hs.perform op)
    | foreign call => exact @ih (s.withClaims (call.apply s.claims)) hs

theorem now_of_pops (hs : s.OnTime) (hp : s.Pops sv now t s') : s'.now = t.deadline := by
  obtain ⟨limit, hp⟩ := hp
  exact ((hs.deliverDue limit).pop hp).1

/-- A time that the clock has passed delivers nothing and leaves the surface as it is. -/
theorem advance_of_lt (hs : s.OnTime) (sv : Services) (hlt : now < s.now) :
    s.advance sv now = { state := s } := by
  have hnone : s.desk.timers.popExpired? now = none :=
    popExpired?_eq_none_iff.2 fun d hd => UInt64.lt_of_lt_of_le hlt (hs.deadline d hd)
  exact advance_of_quiet (by rw [Surface.popExpired?, hnone]; rfl) (UInt64.le_of_lt hlt)

end OnTime

/-- **An advance ends and leaves nothing due**, in every state of a run, whatever the times in it
and the tuning. Its loop is over after two deliveries for each pending idle timer and one for each
pending click timer, and any limit from there on makes it the same. Every deadline that is left
lies after `now`, and the clock stands at the later one of `now` and the time before. At each
delivery the clock stands at the deadline of the timer. No deadline is ever behind the clock, so an
advance or a touch with a time that the clock has passed delivers nothing and leaves the clock. -/
theorem advance_ends_on_time (sv : Services) (size : SurfaceSize) (cl : Claims) (sts : List Step)
    (now : Millis) :
    let s := (run sv sts ((empty size).withClaims cl)).state
    let most := 2 * s.idleTimers.length + s.clickTimers.length
    let r := s.advance sv now
    ((s.desk.timers.pending.map (·.1)).Perm (s.idleTimers ++ s.clickTimers) ∧
      (∀ limit, (deliverDue sv now limit s).delivered ≤ most) ∧
      ∀ limit, most ≤ limit → (deliverDue sv now limit s).state.popExpired? now = none ∧
        r = { deliverDue sv now limit s with
          state := (deliverDue sv now limit s).state.tick now }) ∧
    (∀ d ∈ r.state.desk.timers.byDeadline, now < d.deadline) ∧ r.state.now = max s.now now ∧
    (∀ t s₁, s.Pops sv now t s₁ → s₁.now = t.deadline) ∧
    (∀ d ∈ s.desk.timers.byDeadline, s.now ≤ d.deadline) ∧
    (∀ past, past < s.now → s.advance sv past = { state := s }) ∧
    ∀ e : TouchEvent, e.time < s.now →
      s.touch sv e = s.route sv e ∧ (s.touch sv e).state.now = s.now := by
  intro s most r
  have htidy : s.Tidy .empty := (Tidy.empty size cl).run sv sts
  have hon : s.OnTime := (OnTime.empty size cl).run sts
  have hwork : s.pendingWork = most := htidy.pendingWork_eq
  refine ⟨⟨htidy.pending_perm_timers, ?_, ?_⟩, fun d hd => lt_deadline_of_mem_advance hd,
    now_advance sv s now, fun t s₁ hp => hon.now_of_pops hp, hon.deadline,
    fun past hlt => hon.advance_of_lt sv hlt, ?_⟩
  · intro limit
    exact hwork ▸ delivered_deliverDue_le sv now limit s
  · intro limit hle
    have hle : s.pendingWork ≤ limit := hwork ▸ hle
    have hnone := popExpired?_deliverDue sv now hle
    exact ⟨by rw [Surface.popExpired?, hnone]; rfl, advance_eq_deliverDue hle⟩
  · intro e hlt
    have htouch : s.touch sv e = s.route sv e := by
      unfold touch
      rw [hon.advance_of_lt sv hlt]
      rfl
    exact ⟨htouch, by rw [htouch, now_route]⟩

/-- A tap on a touchpad. -/
def oneTap : List Step :=
  [.operation (.addControl { id := .ofNat 1, placement := ⟨0, 0, 1, 1⟩, kind := .touchpad true }),
    .operation (.touch ⟨5, .down, ⟨10, 10⟩, 0⟩), .operation (.touch ⟨5, .up, ⟨10, 10⟩, 30⟩)]

/-- A jump over the window and the click of the tap takes both deliveries that its idle timer pays
for. An advance to a time before the tap was over takes none. -/
theorem advance_ends_on_time_of_oneTap :
    let s := (run {} oneTap ((empty ⟨100, 100⟩).withClaims .empty)).state
    (s.idleTimers.length = 1 ∧ s.clickTimers.length = 0) ∧
      ((s.advance {} 1000).delivered = 2 ∧ (s.advance {} 1000).state.now = max s.now 1000) ∧
      (29 : Millis) < s.now ∧ s.advance {} 29 = { state := s } := by
  obtain ⟨-, -, hnow, -, -, hpast, -⟩ := advance_ends_on_time {} ⟨100, 100⟩ .empty oneTap 1000
  have hlt : (29 : Millis) < (run {} oneTap ((empty ⟨100, 100⟩).withClaims .empty)).state.now := by
    decide +kernel
  exact ⟨by decide +kernel, ⟨by decide +kernel, hnow⟩, hlt, hpast 29 hlt⟩

end Surface
end TouchOverlay
