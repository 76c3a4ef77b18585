import TouchOverlay.Proofs.TimeSlicing

/-!
# Settling a surface

A surface settles by advances to its next deadline, one after the other. Each of them delivers a
timer, so it lowers the pending work, and the limit on their number is never reached.
`settleWhile` stops at the first deadline that is not early; with every deadline early it is
`settle`.
-/

namespace TouchOverlay
namespace Surface

/-- Advances to the next deadline as long as it is `early`, at most `limit` times. -/
def settleWhileWithin (sv : Services) (early : Millis → Bool) : Nat → Surface → AdvanceOutcome
  | 0, s => { state := s }
  | limit + 1, s =>
    match s.nextDeadline? with
    | none => { state := s }
    | some due =>
      if early due then (s.advance sv due).andThen (settleWhileWithin sv early limit)
      else { state := s }

/-- Advances to the next deadline as long as it is `early`. -/
def settleWhile (sv : Services) (s : Surface) (early : Millis → Bool) : AdvanceOutcome :=
  settleWhileWithin sv early s.pendingWork s

variable {sv : Services} {s : Surface} {due : Millis} {early : Millis → Bool} {n m : Nat}

/-! ## Each advance makes progress -/

theorem pendingWork_advance_le (sv : Services) (s : Surface) (now : Millis) :
    (s.advance sv now).state.pendingWork ≤ s.pendingWork := by
  induction s using advance_induction sv now with
  | idle s hp => rw [advance_of_popExpired?_eq_none hp]; exact Nat.le_refl _
  | pop s t s' hp ih =>
    have hlt := pendingWork_deliver_lt sv hp
    rw [advance_of_popExpired? hp]
    exact Nat.le_of_lt (Nat.lt_of_le_of_lt ih hlt)

theorem mem_of_nextDeadline? (h : s.nextDeadline? = some due) :
    ∃ d ∈ s.desk.timers.byDeadline, d.deadline = due := by
  obtain ⟨d, hd, rfl⟩ := Option.map_eq_some_iff.1 h
  exact ⟨d, (TimerQueue.first?_eq_some_iff.1 hd).1, rfl⟩

theorem pendingWork_advance_lt (sv : Services) (h : s.nextDeadline? = some due) :
    (s.advance sv due).state.pendingWork < s.pendingWork := by
  obtain ⟨d, hm, rfl⟩ := mem_of_nextDeadline? h
  cases hp : s.popExpired? d.deadline with
  | none =>
    have hnone : s.desk.timers.popExpired? d.deadline = none := Option.map_eq_none_iff.1 hp
    exact absurd (TimerQueue.popExpired?_eq_none_iff.1 hnone d hm) (UInt64.lt_irrefl _)
  | some x =>
    have hlt := pendingWork_deliver_lt sv hp
    have hle := pendingWork_advance_le sv (x.2.deliver sv x.1).state d.deadline
    rw [advance_of_popExpired? hp]
    exact Nat.lt_of_le_of_lt hle hlt

/-! ## Settling, one deadline at a time -/

theorem settleWhileWithin_of_late (h : ∀ due, s.nextDeadline? = some due → early due = false) :
    settleWhileWithin sv early n s = { state := s } := by
  cases n with
  | zero => rfl
  | succ n =>
    rw [settleWhileWithin]
    split
    · rfl
    · rename_i due hd
      rw [if_neg (by simp [h due hd])]

theorem settleWhileWithin_congr (hn : s.pendingWork ≤ n) (hm : s.pendingWork ≤ m) :
    settleWhileWithin sv early n s = settleWhileWithin sv early m s := by
  induction n generalizing m s with
  | zero =>
    have hlate : ∀ due, s.nextDeadline? = some due → early due = false := fun due hd => by
      have hlt := pendingWork_advance_lt sv hd
      omega
    rw [settleWhileWithin_of_late hlate, settleWhileWithin_of_late hlate]
  | succ n ih =>
    by_cases hd : ∃ due, s.nextDeadline? = some due ∧ early due = true
    · obtain ⟨due, hd, he⟩ := hd
      have hlt := pendingWork_advance_lt sv hd
      obtain ⟨m, rfl⟩ : ∃ k, m = k + 1 := Nat.exists_eq_succ_of_ne_zero (by omega)
      simp only [settleWhileWithin, hd, he, if_true]
      exact AdvanceOutcome.andThen_congr (ih (by omega) (by omega))
    · have hlate : ∀ due, s.nextDeadline? = some due → early due = false := fun due hd' =>
        Bool.eq_false_iff.2 fun he => hd ⟨due, hd', he⟩
      rw [settleWhileWithin_of_late hlate, settleWhileWithin_of_late hlate]

theorem settleWhile_of_late (h : ∀ due, s.nextDeadline? = some due → early due = false) :
    s.settleWhile sv early = { state := s } :=
  settleWhileWithin_of_late h

theorem settleWhile_of_early (hd : s.nextDeadline? = some due) (he : early due = true) :
    s.settleWhile sv early = (s.advance sv due).andThen (·.settleWhile sv early) := by
  have hlt := pendingWork_advance_lt sv hd
  obtain ⟨n, hn⟩ : ∃ n, s.pendingWork = n + 1 := Nat.exists_eq_succ_of_ne_zero (by omega)
  simp only [settleWhile, hn, settleWhileWithin, hd, he, if_true]
  exact AdvanceOutcome.andThen_congr (settleWhileWithin_congr (by omega) (Nat.le_refl _))

theorem settle_eq_settleWhile : s.settle sv = s.settleWhile sv fun _ => true := by
  have hw : ∀ limit s, settleWithin sv limit s = settleWhileWithin sv (fun _ => true) limit s := by
    intro limit
    induction limit with
    | zero => exact fun _ => rfl
    | succ limit ih =>
      intro s
      cases hd : s.nextDeadline? with
      | none => simp only [settleWithin, settleWhileWithin, hd]
      | some due =>
        simp only [settleWithin, settleWhileWithin, hd, if_true, ih]
        rfl
  exact hw s.pendingWork s

/-! ## Settling, all at once -/

/-- A surface that has settled has no timers left, and has missed nothing. -/
theorem settle_andThen_advance (sv : Services) (s : Surface) :
    (s.settle sv).state.nextDeadline? = none ∧
      (s.settle sv).andThen (·.advance sv 0xffffffffffffffff) = s.advance sv 0xffffffffffffffff := by
  rw [settle_eq_settleWhile]
  induction hn : s.pendingWork using Nat.strongRecOn generalizing s with
  | ind n ih =>
    cases hd : s.nextDeadline? with
    | none =>
      rw [settleWhile_of_late fun due hdue => by rw [hd] at hdue; cases hdue]
      exact ⟨hd, AdvanceOutcome.pure_andThen s⟩
    | some due =>
      obtain ⟨hnone, hrest⟩ := ih _ (hn ▸ pendingWork_advance_lt sv hd) (s.advance sv due).state rfl
      rw [settleWhile_of_early hd rfl, AdvanceOutcome.andThen_assoc]
      refine ⟨hnone, ?_⟩
      rw [AdvanceOutcome.andThen_congr (g := (·.advance sv 0xffffffffffffffff)) hrest]
      exact advance_andThen_advance sv s Millis.le_last

/-- To settle is to wait until the end of time, but for the clock. -/
theorem settle_eq_advance (sv : Services) (s : Surface) :
    (s.settle sv).issued = (s.advance sv 0xffffffffffffffff).issued ∧
      (s.settle sv).state.controls = (s.advance sv 0xffffffffffffffff).state.controls := by
  obtain ⟨hnone, hrest⟩ := settle_andThen_advance sv s
  have hp : (s.settle sv).state.popExpired? 0xffffffffffffffff = none := by
    have hf : (s.settle sv).state.desk.timers.first? = none := Option.map_eq_none_iff.1 hnone
    simp only [popExpired?, TimerQueue.popExpired?, hf]
    rfl
  rw [← hrest]
  simp [AdvanceOutcome.andThen, advance_of_popExpired?_eq_none hp, tick, withTimers]

end Surface
end TouchOverlay
