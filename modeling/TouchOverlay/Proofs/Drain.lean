import TouchOverlay.Proofs.Motion

/-!
# An advance leaves no timer that is due

An advance delivers at most `pendingWork` timers. That is enough: each delivery lowers the pending
work (`pendingWork_deliver_lt`), since the timer that is delivered leaves the queue, and one that
the touchpad schedules in response takes the place of the idle window that it closes.
-/

namespace TouchOverlay

namespace TimerQueue
variable {q q' : TimerQueue} {o : ControlId} {delay now : Millis} {d : Due} {h : TimerHandle}
  {t : ExpiredTimer}

theorem size_remove_le : (q.remove d).byDeadline.size ≤ q.byDeadline.size :=
  Std.ExtTreeMap.size_erase_le

theorem size_cancel_le : (q.cancel h).2.byDeadline.size ≤ q.byDeadline.size := by
  unfold cancel
  split
  · exact size_remove_le
  · exact Nat.le_refl _

theorem size_schedule_le :
    (q.schedule o delay).2.byDeadline.size ≤ q.byDeadline.size + 1 :=
  Std.ExtTreeMap.size_insert_le

theorem size_popExpired? (hp : q.popExpired? now = some (t, q')) :
    q'.byDeadline.size + 1 = q.byDeadline.size := by
  obtain ⟨hf, -, -, rfl⟩ := popExpired?_eq_some hp
  have hm := (first?_eq_some_iff.1 hf).1
  have hpos : q.byDeadline.size ≠ 0 := fun h => by
    rw [Std.ExtTreeMap.eq_empty_iff_size_eq_zero.2 h] at hm
    exact absurd hm Std.ExtTreeMap.not_mem_empty
  show (q.byDeadline.erase ⟨t.deadline, t.handle⟩).size + 1 = q.byDeadline.size
  rw [Std.ExtTreeMap.size_erase, if_pos (Std.ExtTreeMap.contains_iff_mem.2 hm)]
  omega

end TimerQueue

namespace Touchpad
open TimerQueue
variable {sv : Services} {site : Site} {pad : Touchpad} {d : Desk}

theorem size_resolveClick_le :
    (resolveClick sv site pad d).2.timers.byDeadline.size ≤ d.timers.byDeadline.size + 1 := by
  have hc : (pad.cancelClick d).timers.byDeadline.size ≤ d.timers.byDeadline.size := by
    unfold cancelClick
    cases pad.clickTimer? with
    | none => exact Nat.le_refl _
    | some h => exact size_cancel_le
  exact Nat.le_trans size_schedule_le (Nat.add_le_add_right hc 1)

/-- A timer is only ever scheduled in exchange for an open idle window. -/
theorem work_timer_le (sv : Services) (site : Site) (h : TimerHandle) (pad : Touchpad) (d : Desk) :
    (pad.timer sv site h d).desk.timers.byDeadline.size +
        (pad.timer sv site h d).state.phase.isPending.toNat ≤
      d.timers.byDeadline.size + pad.phase.isPending.toNat := by
  by_cases hc : pad.clickTimer? = some h
  · rewrite [timer_of_click hc]
    exact Nat.le_refl _
  · by_cases hp : pad.phase = .pending h
    · rw [timer_of_idle hc hp, hp]
      unfold closeWindow
      split
      · exact Nat.le_add_right _ _
      · exact size_resolveClick_le
    · rewrite [timer_of_not_mem (not_mem_timers hc hp)]
      exact Nat.le_refl _

end Touchpad

theorem Behaviour.work_timer_le (b : Behaviour) (sv : Services) (site : Site) (d : Desk)
    (h : TimerHandle) :
    (b.timer sv site d h).desk.timers.byDeadline.size +
        (b.timer sv site d h).state.isPending.toNat ≤
      d.timers.byDeadline.size + b.isPending.toNat := by
  cases b with
  | touchpad pad => exact Touchpad.work_timer_le sv site h pad d
  | _ => exact Nat.le_refl _

namespace Surface
open TimerQueue
variable {sv : Services} {s s' : Surface} {now : Millis} {t : ExpiredTimer} {d : Due}

theorem countP_isPending (pre post : List Control) (c : Control) :
    (pre ++ c :: post).countP (·.behaviour.isPending) =
      (pre ++ post).countP (·.behaviour.isPending) + c.behaviour.isPending.toNat := by
  rw [List.countP_append, List.countP_append, List.countP_cons]
  cases c.behaviour.isPending <;> simp [Nat.add_assoc]

theorem pendingWork_deliver_lt (sv : Services) (h : s.popExpired? now = some (t, s')) :
    (s'.deliver sv t).state.pendingWork < s.pendingWork := by
  obtain ⟨q, hq, rfl⟩ := popExpired?_eq_some h
  have hsize := size_popExpired? hq
  unfold deliver
  split
  · rename_i r hr
    obtain ⟨pre, c, post, hs, -, rfl⟩ := updateFirst_eq_some hr
    have hs : s.controls = pre ++ c :: post := hs
    have hw : (c.timer sv s.size (s.withTimers q).desk t.handle).desk.timers.byDeadline.size +
        (c.timer sv s.size (s.withTimers q).desk t.handle).state.behaviour.isPending.toNat ≤
          q.byDeadline.size + c.behaviour.isPending.toNat :=
      c.behaviour.work_timer_le sv (c.site s.size) (s.withTimers q).desk t.handle
    show (c.timer sv s.size (s.withTimers q).desk t.handle).desk.timers.byDeadline.size +
        (pre ++ (c.timer sv s.size (s.withTimers q).desk t.handle).state :: post).countP _ <
      s.desk.timers.byDeadline.size + s.controls.countP _
    rw [hs, countP_isPending, countP_isPending]
    omega
  · simp only [pendingWork, withTimers]
    omega

theorem popExpired?_deliverDue (sv : Services) (now : Millis) {limit : Nat}
    (h : s.pendingWork ≤ limit) :
    (deliverDue sv now limit s).state.desk.timers.popExpired? now = none := by
  induction limit generalizing s with
  | zero =>
    have hs : s.desk.timers.byDeadline.size = 0 := by
      unfold pendingWork at h
      omega
    rw [deliverDue, popExpired?_eq_none_iff, Std.ExtTreeMap.eq_empty_iff_size_eq_zero.2 hs]
    exact fun d hd => absurd hd Std.ExtTreeMap.not_mem_empty
  | succ limit ih =>
    -- the work that is left fits into what is left of the limit
    rw [deliverDue]
    split
    · rename_i hn
      exact Option.map_eq_none_iff.1 hn
    · rename_i t s' hp
      have hlt := pendingWork_deliver_lt sv hp
      exact ih (by omega)

/-- Whatever is pending after an advance is due later. -/
theorem lt_deadline_of_mem_advance (hd : d ∈ (s.advance sv now).state.desk.timers.byDeadline) :
    now < d.deadline :=
  popExpired?_eq_none_iff.1 (popExpired?_deliverDue sv now (Nat.le_refl s.pendingWork)) d hd

end Surface
end TouchOverlay
