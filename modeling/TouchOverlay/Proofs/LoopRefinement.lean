import TouchOverlay.EventLoop
import TouchOverlay.Proofs.NotBefore
import TouchOverlay.Proofs.Settling

/-!
# The event loop refines the plain surface

The loop wakes up at every deadline, where a surface that is told the commands directly delivers
its timers within the next command. No wake-up is visible: what a command, or the wait for the
last timer, makes of a surface is the same before and after a wake-up (`wakeWhile_absorbed`).
`InStep` is what holds after each command. A wait ends, since every wake-up lowers the pending work.

A loop that is shut down delivers only what is due before that instant, and here it matters that
no deadline lies in the past of the loop's clock (`InStep.punctual`).
-/

namespace TouchOverlay

/-! ## The plain surface -/

namespace Operation

def isTouch : Operation → Bool
  | touch _ => true
  | _ => false

/-- Whether the operation is a touch that a control consumes. -/
def isConsumed (sv : Services) (s : Surface) : Operation → Bool
  | touch e => (s.touch sv e).consumed
  | _ => false

end Operation

namespace SurfaceCommand

/-- The operations that carry out a command at an instant. A touch carries its own time. -/
def operations (time : Millis) : SurfaceCommand → List Operation
  | touch e => [.touch e]
  | replaceLayout cs => [.advance time, .replaceLayout cs]
  | resize size => [.advance time, .resize size]
  | resetToggles => [.advance time, .resetToggles]
  | shutdown => []

end SurfaceCommand

/-- The operations that carry out commands without a loop. -/
def plainly (as : List (Arrival SurfaceCommand)) : List Operation :=
  as.flatMap fun a => a.item.operations a.time

namespace Surface

/-- Number of the touches among some operations that controls consume. -/
def consumedTouches (sv : Services) : List Operation → Surface → Nat
  | [], _ => 0
  | op :: ops, s => (op.isConsumed sv s).toNat + consumedTouches sv ops (op.perform sv s).state

theorem consumedTouches_append {sv : Services} {s : Surface} {ops ops' : List Operation} :
    consumedTouches sv (ops ++ ops') s = consumedTouches sv ops s +
      consumedTouches sv ops' (run sv (ops.map .operation) s).state := by
  induction ops generalizing s with
  | nil => simp [consumedTouches, run]
  | cons op ops ih =>
    rw [List.cons_append, consumedTouches, consumedTouches, ih, Nat.add_assoc]
    rfl

end Surface

/-! ## Wake-ups -/

namespace EventLoop
variable {sv : Services} {l l' : EventLoop} {early : Millis → Bool} {time due t : Millis}
  {f : Surface → AdvanceOutcome} {first : Bool}

theorem nextWake?_eq_some : l.nextWake? = some (time, due) ↔
    l.surface.nextDeadline? = some due ∧ time = max due l.clock := by
  simp only [nextWake?, Option.map_eq_some_iff, Prod.mk.injEq]
  constructor
  · rintro ⟨d, hd, rfl, rfl⟩
    exact ⟨hd, rfl⟩
  · rintro ⟨hd, rfl⟩
    exact ⟨due, hd, rfl, rfl⟩

/-- What a wake-up keeps holds at the end of a wait. -/
theorem wakeWhile_preserve {P : EventLoop → Prop}
    (hfire : ∀ l time due, l.nextWake? = some (time, due) → early time = true → P l →
      P (l.fire sv time due)) (hp : P l) : P (l.wakeWhile sv early) := by
  have hw : ∀ limit l, P l → P (wakeWithin sv early limit l) := by
    intro limit
    induction limit with
    | zero => exact fun _ hp => hp
    | succ limit ih =>
      intro l hp
      rw [wakeWithin]
      split
      · rename_i time due hd
        split
        · rename_i he
          exact ih _ (hfire l time due hd he hp)
        · exact hp
      · exact hp
  exact hw l.surface.pendingWork l hp

/-- A wait ends because the next wake-up is not early any more, and not at its limit. -/
theorem not_early_of_nextWake? (h : (l.wakeWhile sv early).nextWake? = some (time, due)) :
    early time = false := by
  have hw : ∀ limit (l : EventLoop), l.surface.pendingWork ≤ limit →
      (wakeWithin sv early limit l).nextWake? = some (time, due) → early time = false := by
    intro limit
    induction limit with
    | zero =>
      intro l hle hd
      have hlt := Surface.pendingWork_advance_lt sv (nextWake?_eq_some.1 hd).1
      have hl : (wakeWithin sv early 0 l).surface.pendingWork = l.surface.pendingWork := rfl
      omega
    | succ limit ih =>
      intro l hle hd
      rw [wakeWithin] at hd
      split at hd
      · rename_i time' due' hd'
        split at hd
        · have hlt := Surface.pendingWork_advance_lt sv (nextWake?_eq_some.1 hd').1
          refine ih (l.fire sv time' due') ?_ hd
          show (l.surface.advance sv due').state.pendingWork ≤ limit
          omega
        · rename_i he
          rw [hd'] at hd
          cases hd
          exact Bool.eq_false_iff.2 he
      · rename_i hnone
        rw [hnone] at hd
        cases hd
  exact hw l.surface.pendingWork l (Nat.le_refl _) h

/-- The loop `l'` comes from `l` by wake-ups that make no difference to what `f` makes of the
surface. -/
structure Absorbed (f : Surface → AdvanceOutcome) (l l' : EventLoop) : Prop where
  running : l'.running = l.running
  touches : l'.stats.touches = l.stats.touches
  consumed : l'.stats.consumed = l.stats.consumed
  state : (f l'.surface).state = (f l.surface).state
  issued : l'.issued ++ (f l'.surface).issued = l.issued ++ (f l.surface).issued

theorem Absorbed.fire (h : Absorbed f l l')
    (hf : (l'.surface.advance sv due).andThen f = f l'.surface) :
    Absorbed f l (l'.fire sv time due) := by
  have hissued : (l'.surface.advance sv due).issued ++
      (f (l'.surface.advance sv due).state).issued = (f l'.surface).issued :=
    congrArg AdvanceOutcome.issued hf
  have hstate : (f (l'.surface.advance sv due).state).state = (f l'.surface).state := by
    rw [← hf]
    rfl
  refine ⟨h.running, h.touches, h.consumed, hstate.trans h.state, ?_⟩
  rw [← h.issued, ← hissued, ← List.append_assoc]
  rfl

theorem wakeWhile_absorbed
    (hf : ∀ l' time due, l'.nextWake? = some (time, due) → early time = true → Absorbed f l l' →
      (l'.surface.advance sv due).andThen f = f l'.surface) :
    Absorbed f l (l.wakeWhile sv early) :=
  wakeWhile_preserve (P := Absorbed f l)
    (fun l' time due hd he h => h.fire (hf l' time due hd he h)) ⟨rfl, rfl, rfl, rfl, rfl⟩

/-- Waking up before an instant makes no difference to an advance to it. -/
theorem wakeWhile_absorbed_advance (he : ∀ w, early w = true → w ≤ t) :
    Absorbed (·.advance sv t) l (l.wakeWhile sv early) := by
  refine wakeWhile_absorbed fun l' time due hd hw _ => ?_
  obtain ⟨-, rfl⟩ := nextWake?_eq_some.1 hd
  exact Surface.advance_andThen_advance sv l'.surface (UInt64.le_trans Millis.le_max_left (he _ hw))

theorem wakeWhile_absorbed_settle (sv : Services) (l : EventLoop) (early : Millis → Bool) :
    Absorbed (·.settle sv) l (l.wakeWhile sv early) := by
  refine wakeWhile_absorbed fun l' time due hd _ _ => ?_
  simp only [Surface.settle_eq_settleWhile]
  exact (Surface.settleWhile_of_early (nextWake?_eq_some.1 hd).1 rfl).symm

theorem waitUntil_of_running (hr : l.running = true) : l.waitUntil sv first t =
    { l.wakeWhile sv fun w => w < max t l.clock || (first && w = max t l.clock) with
      clock := max t l.clock } := by
  rw [waitUntil, if_pos hr]

/-- The loop `l` has carried out `ops` on the surface `s₀`, and has no deadline in its past. -/
structure InStep (sv : Services) (s₀ : Surface) (ops : List Operation) (l : EventLoop) : Prop where
  running : l.running = true
  surface : l.surface = (Surface.run sv (ops.map .operation) s₀).state
  issued : l.issued = (Surface.run sv (ops.map .operation) s₀).issued
  touches : l.stats.touches = ops.countP (·.isTouch)
  consumed : l.stats.consumed = Surface.consumedTouches sv ops s₀
  punctual : ∀ d ∈ l.surface.desk.timers.byDeadline, l.clock ≤ d.deadline

namespace InStep
variable {s₀ : Surface} {ops : List Operation} {a : Arrival SurfaceCommand}

theorem start (sv : Services) (s₀ : Surface) : InStep sv s₀ [] { surface := s₀ } :=
  ⟨rfl, rfl, rfl, rfl, rfl, fun _ _ => UInt64.zero_le⟩

theorem run_append (hl : InStep sv s₀ ops l) (ops' : List Operation) :
    Surface.run sv ((ops ++ ops').map .operation) s₀ =
      { state := (Surface.run sv (ops'.map .operation) l.surface).state
        issued := l.issued ++ (Surface.run sv (ops'.map .operation) l.surface).issued } := by
  rw [List.map_append, Surface.run_append, ← hl.surface, ← hl.issued]

/-- The loop `l'` comes from `l` by wake-ups that a touch does not see, and carries it out. -/
theorem touch {e : TouchEvent} (hl : InStep sv s₀ ops l)
    (ha : Absorbed (·.advance sv e.time) l l') (ht : l'.clock = e.time) :
    InStep sv s₀ (ops ++ [Operation.touch e]) (l'.execute sv (.touch e)) := by
  -- the touch begins with an advance to its time, before and after the wake-ups
  obtain ⟨hstate, hconsumed, hissued⟩ :
      (l'.surface.touch sv e).state = (l.surface.touch sv e).state ∧
      (l'.surface.touch sv e).consumed = (l.surface.touch sv e).consumed ∧
      l'.issued ++ (l'.surface.touch sv e).issued = l.issued ++ (l.surface.touch sv e).issued := by
    simp only [Surface.touch, ha.state, ← List.append_assoc, ha.issued, and_self]
  have hrun := hl.run_append [Operation.touch e]
  refine ⟨ha.running.trans hl.running, ?_, ?_, ?_, ?_, ?_⟩
  · rw [hrun]
    exact hstate
  · rw [hrun]
    show l'.issued ++ (l'.surface.touch sv e).issued =
      l.issued ++ ((l.surface.touch sv e).issued ++ [])
    rw [hissued, List.append_nil]
  · show l'.stats.touches + 1 = _
    rw [ha.touches, hl.touches, List.countP_append]
    rfl
  · show l'.stats.consumed + (if (l'.surface.touch sv e).consumed then 1 else 0) = _
    rw [Surface.consumedTouches_append, ha.consumed, hl.consumed, hconsumed, hl.surface]
    cases h : ((Surface.run sv (ops.map .operation) s₀).state.touch sv e).consumed <;>
      simp [Surface.consumedTouches, Operation.isConsumed, h]
  · show ∀ d ∈ (l'.surface.touch sv e).state.desk.timers.byDeadline, l'.clock ≤ d.deadline
    rw [ht]
    exact (Surface.notBefore_touch sv l'.surface e).deadline

/-- The same for a change of the layout. -/
theorem relayout (op : Operation) (hl : InStep sv s₀ ops l)
    (ha : Absorbed (·.advance sv t) l l') (ht : l'.clock = t) (hop : op.isInput = false) :
    InStep sv s₀ (ops ++ [.advance t, op]) (l'.relayout sv (op.perform sv)) := by
  subst ht
  have hstate : (l'.relayout sv (op.perform sv)).surface =
      (op.perform sv (l.surface.advance sv l'.clock).state).state := by
    rw [← ha.state]
    rfl
  have hissued : (l'.relayout sv (op.perform sv)).issued =
      l.issued ++ ((l.surface.advance sv l'.clock).issued ++
        (op.perform sv (l.surface.advance sv l'.clock).state).issued) := by
    rw [← ha.state, ← List.append_assoc, ← ha.issued, List.append_assoc]
    rfl
  have hcounts : [Operation.advance l'.clock, op].countP (·.isTouch) = 0 ∧
      ∀ s, Surface.consumedTouches sv [.advance l'.clock, op] s = 0 := by
    cases op with
    | touch => cases hop
    | _ => exact ⟨rfl, fun _ => rfl⟩
  have hrun := hl.run_append [.advance l'.clock, op]
  refine ⟨ha.running.trans hl.running, ?_, ?_, ?_, ?_, ?_⟩
  · rw [hrun, hstate]
    rfl
  · rw [hrun, hissued]
    show _ = l.issued ++ ((l.surface.advance sv l'.clock).issued ++ (_ ++ []))
    rw [List.append_nil]
    rfl
  · rw [List.countP_append, hcounts.1, ← hl.touches, ← ha.touches]
    rfl
  · rw [Surface.consumedTouches_append, hcounts.2, ← hl.consumed, ← ha.consumed]
    rfl
  · exact (Surface.notBefore_perform op Surface.notBefore_advance).deadline

/-- A command is carried out on time, whether or not timers go first. -/
theorem receive (first : Bool) (hl : InStep sv s₀ ops l) (hle : l.clock ≤ a.time)
    (hstamp : ∀ e, a.item = .touch e → e.time = a.time) (hs : a.item ≠ .shutdown) :
    InStep sv s₀ (ops ++ a.item.operations a.time) (l.receive sv first a) ∧
      (l.receive sv first a).clock = a.time := by
  obtain ⟨time, item⟩ := a
  have hmax : max time l.clock = time := Millis.max_eq_left hle
  let l' : EventLoop :=
    { l.wakeWhile sv fun w => w < time || (first && w = time) with clock := time }
  have ha : Absorbed (·.advance sv time) l l' := by
    have h : Absorbed (·.advance sv time) l
        (l.wakeWhile sv fun w => w < time || (first && w = time)) := by
      refine wakeWhile_absorbed_advance fun w hw => ?_
      simp only [Bool.or_eq_true, Bool.and_eq_true, decide_eq_true_eq] at hw
      rcases hw with hw | ⟨-, rfl⟩
      · exact UInt64.le_of_lt hw
      · exact UInt64.le_refl _
    exact ⟨h.running, h.touches, h.consumed, h.state, h.issued⟩
  have hr : l.receive sv first ⟨time, item⟩ = l'.execute sv item := by
    have hrun : l'.running = true := ha.running.trans hl.running
    rw [EventLoop.receive, waitUntil_of_running hl.running, hmax]
    exact if_pos hrun
  rw [hr]
  cases item with
  | touch e =>
    obtain rfl := hstamp e rfl
    exact ⟨hl.touch ha rfl, rfl⟩
  | replaceLayout cs => exact ⟨hl.relayout (.replaceLayout cs) ha rfl rfl, rfl⟩
  | resize size => exact ⟨hl.relayout (.resize size) ha rfl rfl, rfl⟩
  | resetToggles => exact ⟨hl.relayout (.resetToggles) ha rfl rfl, rfl⟩
  | shutdown => exact absurd rfl hs

theorem receiveAll {as : List (Arrival SurfaceCommand)} (tie : Nat → Bool) (n : Nat)
    (hl : InStep sv s₀ ops l) (hle : ∀ a ∈ as, l.clock ≤ a.time)
    (hsorted : as.Pairwise (·.time ≤ ·.time))
    (hstamp : ∀ a ∈ as, ∀ e, a.item = .touch e → e.time = a.time)
    (hs : ∀ a ∈ as, a.item ≠ .shutdown) :
    InStep sv s₀ (ops ++ plainly as) (EventLoop.receiveAll sv tie n as l) ∧
      ∀ t, l.clock ≤ t → (∀ a ∈ as, a.time ≤ t) →
        (EventLoop.receiveAll sv tie n as l).clock ≤ t := by
  induction as generalizing n l ops with
  | nil => exact ⟨by simpa [plainly, EventLoop.receiveAll] using hl, fun t ht _ => ht⟩
  | cons a as ih =>
    obtain ⟨ha, has⟩ := List.pairwise_cons.1 hsorted
    obtain ⟨hl', hclock⟩ := hl.receive (tie n) (hle a (by simp)) (hstamp a (by simp))
      (hs a (by simp))
    obtain ⟨hrest, hend⟩ := ih (n + 1) hl' (fun b hb => hclock ▸ ha b hb) has
      (fun b hb => hstamp b (by simp [hb])) (fun b hb => hs b (by simp [hb]))
    rw [List.append_assoc] at hrest
    exact ⟨hrest, fun t _ hall =>
      hend t (hclock ▸ hall a (by simp)) fun b hb => hall b (by simp [hb])⟩

/-- When no more commands come, the loop settles the surface. -/
theorem finish (hl : InStep sv s₀ ops l) (closed : Millis) :
    let l' := l.finish sv closed
    l'.surface = (l.surface.settle sv).state ∧
      l'.issued = l.issued ++ (l.surface.settle sv).issued ∧
      l'.stats.touches = l.stats.touches ∧ l'.stats.consumed = l.stats.consumed ∧
      l'.surface.nextDeadline? = none := by
  intro l'
  -- the wait for the end of the commands, and the wait for the last timer
  let l₁ := l.waitUntil sv true closed
  let l₂ := l₁.wakeWhile sv fun _ => true
  have h₁ : Absorbed (·.settle sv) l l₁ := by
    have h := wakeWhile_absorbed_settle sv l
      fun w => w < max closed l.clock || (true && w = max closed l.clock)
    show Absorbed (·.settle sv) l (l.waitUntil sv true closed)
    rw [waitUntil_of_running hl.running]
    exact ⟨h.running, h.touches, h.consumed, h.state, h.issued⟩
  have h₂ : Absorbed (·.settle sv) l₁ l₂ := wakeWhile_absorbed_settle sv l₁ _
  have hl' : l' = { l₂ with running := false } := if_pos (h₁.running.trans hl.running)
  have hnone : l₂.surface.nextDeadline? = none := by
    cases hd : l₂.surface.nextDeadline? with
    | none => rfl
    | some due => exact absurd (not_early_of_nextWake? (nextWake?_eq_some.2 ⟨hd, rfl⟩)) (by simp)
  have hsettled : l₂.surface.settle sv = { state := l₂.surface } := by
    rw [Surface.settle_eq_settleWhile]
    exact Surface.settleWhile_of_late fun due hd => by rw [hnone] at hd; cases hd
  have hstate := h₂.state.trans h₁.state
  have hissued := h₂.issued.trans h₁.issued
  simp only [hsettled, List.append_nil] at hstate hissued
  rw [hl']
  exact ⟨hstate, hissued, h₂.touches.trans h₁.touches, h₂.consumed.trans h₁.consumed, hnone⟩

/-- A loop that wakes up on time has no deadline in its past. -/
theorem punctual_wakeWhile (hl : ∀ d ∈ l.surface.desk.timers.byDeadline, l.clock ≤ d.deadline) :
    let l' := l.wakeWhile sv early
    ∀ d ∈ l'.surface.desk.timers.byDeadline, l'.clock ≤ d.deadline := by
  refine wakeWhile_preserve
    (P := fun l => ∀ d ∈ l.surface.desk.timers.byDeadline, l.clock ≤ d.deadline)
    (fun l time due hw _ hl d hm => ?_) hl
  obtain ⟨hd, rfl⟩ := nextWake?_eq_some.1 hw
  obtain ⟨d', hm', rfl⟩ := Surface.mem_of_nextDeadline? hd
  have hmax : max d'.deadline l.clock = d'.deadline := Millis.max_eq_left (hl d' hm')
  show max d'.deadline l.clock ≤ d.deadline
  rw [hmax]
  exact UInt64.le_of_lt (Surface.lt_deadline_of_mem_advance hm)

/-- A loop that is shut down has delivered what was due before. -/
theorem shutdown (first : Bool) (hl : InStep sv s₀ ops l) (hle : l.clock ≤ t)
    (hfree : (l.surface.settleWhile sv (· < t)).state.nextDeadline? ≠ some t) :
    let l' := l.receive sv first ⟨t, .shutdown⟩
    l'.surface = (l.surface.settleWhile sv (· < t)).state ∧
      l'.issued = l.issued ++ (l.surface.settleWhile sv (· < t)).issued ∧
      l'.stats.touches = l.stats.touches ∧ l'.stats.consumed = l.stats.consumed ∧
      l'.running = false ∧ ∀ due, l'.surface.nextDeadline? = some due → t < due := by
  intro l'
  have hmax : max t l.clock = t := Millis.max_eq_left hle
  let l₁ := l.wakeWhile sv fun w => w < t || (first && w = t)
  have h₁ : Absorbed (·.settleWhile sv (· < t)) l l₁ := by
    refine wakeWhile_absorbed fun l₂ time due hw he h₂ => ?_
    obtain ⟨hd, rfl⟩ := nextWake?_eq_some.1 hw
    by_cases hlt : due < t
    · exact (Surface.settleWhile_of_early hd (by simpa using hlt)).symm
    · -- the only wake-up at `t` or later is one at `t`, where no timer is due
      have hdue : due = t := by
        simp only [Bool.or_eq_true, Bool.and_eq_true, decide_eq_true_eq] at he
        have hle' : due ≤ max due l₂.clock := Millis.le_max_left
        rcases he with he | ⟨-, he⟩
        · exact absurd (UInt64.lt_of_le_of_lt hle' he) hlt
        · exact UInt64.le_antisymm (he ▸ hle') (UInt64.not_lt.1 hlt)
      subst hdue
      have hlate : l₂.surface.settleWhile sv (· < due) = { state := l₂.surface } :=
        Surface.settleWhile_of_late fun u hu => by
          rw [hd] at hu
          cases hu
          simp
      have hstate := h₂.state
      simp only [hlate] at hstate
      rw [← hstate] at hfree
      exact absurd hd hfree
  have hr : l' = { l₁ with clock := t, running := false } := by
    show l.receive sv first ⟨t, .shutdown⟩ = _
    have hrun : l₁.running = true := h₁.running.trans hl.running
    rw [EventLoop.receive, waitUntil_of_running hl.running, hmax]
    exact if_pos hrun
  have hlate : ∀ due, l₁.surface.nextDeadline? = some due → ¬ due < t := fun due hd hlt => by
    obtain ⟨d, hm, rfl⟩ := Surface.mem_of_nextDeadline? hd
    have hclock : l₁.clock ≤ d.deadline := punctual_wakeWhile hl.punctual d hm
    have he := not_early_of_nextWake? (nextWake?_eq_some.2 ⟨hd, rfl⟩)
    rw [Millis.max_eq_left hclock] at he
    simp [hlt] at he
  have hsettled : l₁.surface.settleWhile sv (· < t) = { state := l₁.surface } :=
    Surface.settleWhile_of_late fun due hd => by simpa using hlate due hd
  have hstate := h₁.state
  have hissued := h₁.issued
  simp only [hsettled, List.append_nil] at hstate hissued
  rw [hr]
  refine ⟨hstate, hissued, h₁.touches, h₁.consumed, rfl, fun due hd => ?_⟩
  have hne : due ≠ t := fun he => hfree (by rw [← hstate, ← he]; exact hd)
  exact UInt64.lt_of_le_of_ne (UInt64.not_lt.1 (hlate due hd)) (Ne.symm hne)

end InStep

theorem receiveAll_append (tie : Nat → Bool) (n : Nat) (as : List (Arrival SurfaceCommand))
    (a : Arrival SurfaceCommand) (l : EventLoop) :
    receiveAll sv tie n (as ++ [a]) l =
      (receiveAll sv tie n as l).receive sv (tie (n + as.length)) a := by
  induction as generalizing n l with
  | nil => rfl
  | cons b as ih =>
    rw [List.cons_append, receiveAll, ih, List.length_cons, Nat.add_right_comm n 1, Nat.add_assoc n]
    rfl

/-- A loop that has ended takes no notice of the end of the commands. -/
theorem finish_of_not_running (hr : l.running = false) (closed : Millis) :
    l.finish sv closed = l := by
  simp [finish, waitUntil, hr]

/-- **The event loop refines the plain surface**, whatever goes first at an instant at which a
command arrives and a timer is due. The commands come in the order of their times, and touches are
stamped with the instant at which they are sent. When the commands are closed, the loop leaves the
surface, has sent the requests and has counted the touches as if the commands had been carried out
directly and the surface then settled, with no timer left. A shutdown at an instant at which no
timer is due leaves what is due later, and all else is as if the surface had been settled up to
that instant. -/
theorem loop_refines_surface (sv : Services) (tie : Nat → Bool) (s : Surface)
    (as : List (Arrival SurfaceCommand)) (closed : Millis) (hsorted : as.Pairwise (·.time ≤ ·.time))
    (hstamped : ∀ a ∈ as, ∀ e, a.item = .touch e → e.time = a.time)
    (hopen : ∀ a ∈ as, a.item ≠ .shutdown) :
    let ops := plainly as
    let plain := Surface.run sv (ops.map .operation) s
    (let l := run sv tie s as closed
      let rest := plain.state.settle sv
      l.surface = rest.state ∧ l.issued = plain.issued ++ rest.issued ∧
        l.stats.touches = ops.countP (·.isTouch) ∧
        l.stats.consumed = Surface.consumedTouches sv ops s ∧ l.surface.nextDeadline? = none) ∧
    ∀ t, (∀ a ∈ as, a.time ≤ t) →
      let l := run sv tie s (as ++ [⟨t, .shutdown⟩]) closed
      let rest := plain.state.settleWhile sv (· < t)
      rest.state.nextDeadline? ≠ some t →
        l.surface = rest.state ∧ l.issued = plain.issued ++ rest.issued ∧
          l.stats.touches = ops.countP (·.isTouch) ∧
          l.stats.consumed = Surface.consumedTouches sv ops s ∧
          ∀ due, l.surface.nextDeadline? = some due → t < due := by
  intro ops plain
  obtain ⟨hl, hclock⟩ := (InStep.start sv s).receiveAll tie 0 (fun _ _ => UInt64.zero_le) hsorted
    hstamped hopen
  have hplain : (receiveAll sv tie 0 as { surface := s }).surface = plain.state := hl.surface
  have hissued : (receiveAll sv tie 0 as { surface := s }).issued = plain.issued := hl.issued
  constructor
  · obtain ⟨hs, hi, htouches, hconsumed, hnone⟩ := hl.finish closed
    rw [hplain] at hs hi
    rw [hissued] at hi
    exact ⟨hs, hi, htouches.trans hl.touches, hconsumed.trans hl.consumed, hnone⟩
  · intro t ht l rest hfree
    have hfree : ((receiveAll sv tie 0 as { surface := s }).surface.settleWhile sv
        (· < t)).state.nextDeadline? ≠ some t := by
      rw [hplain]
      exact hfree
    obtain ⟨hs, hi, htouches, hconsumed, hr, hlater⟩ :=
      hl.shutdown (tie (0 + as.length)) (hclock t UInt64.zero_le ht) hfree
    have hrun : l = (receiveAll sv tie 0 as { surface := s }).receive sv (tie (0 + as.length))
        ⟨t, .shutdown⟩ := by
      show (receiveAll sv tie 0 (as ++ [_]) _).finish sv closed = _
      rw [receiveAll_append, finish_of_not_running hr]
    rw [hplain] at hs hi
    rw [hissued] at hi
    rw [hrun]
    exact ⟨hs, hi, htouches.trans hl.touches, hconsumed.trans hl.consumed, hlater⟩

/-- A tap whose click is due at 200, when a command arrives too. -/
def tapCommands : List (Arrival SurfaceCommand) :=
  [⟨0, .touch ⟨5, .down, ⟨10, 10⟩, 0⟩⟩, ⟨30, .touch ⟨5, .up, ⟨10, 10⟩, 30⟩⟩, ⟨200, .resetToggles⟩]

/-- The loop that is shut down at 240 leaves the release of the click, which is due at 250. -/
theorem loop_refines_surface_of_tap :
    let plain := Surface.run {} ((plainly tapCommands).map .operation) Surface.onePad
    let l := run {} (fun n => n = 2) Surface.onePad tapCommands 30
    let l' := run {} (fun _ => false) Surface.onePad (tapCommands ++ [⟨240, .shutdown⟩]) 30
    l.surface = (plain.state.settle {}).state ∧ l.stats.consumed = 2 ∧
      l'.surface = (plain.state.settleWhile {} (· < 240)).state ∧
      l'.surface.nextDeadline? = some 250 := by
  have hsorted : tapCommands.Pairwise (·.time ≤ ·.time) := by decide
  have hstamped : ∀ a ∈ tapCommands, ∀ e, a.item = .touch e → e.time = a.time := by
    simp [tapCommands]
  have hopen : ∀ a ∈ tapCommands, a.item ≠ .shutdown := by simp [tapCommands]
  have h := loop_refines_surface {} (fun n => n = 2) Surface.onePad tapCommands 30 hsorted hstamped
    hopen
  have h' := loop_refines_surface {} (fun _ => false) Surface.onePad tapCommands 30 hsorted hstamped
    hopen
  obtain ⟨hs, -, -, hconsumed, -⟩ := h.1
  obtain ⟨hs', -⟩ := h'.2 240 (by decide) (by decide +kernel)
  exact ⟨hs, hconsumed.trans (by decide +kernel), hs', by rw [hs']; decide +kernel⟩

end EventLoop
end TouchOverlay
