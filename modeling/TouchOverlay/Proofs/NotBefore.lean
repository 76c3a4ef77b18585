import TouchOverlay.Proofs.Run
import TouchOverlay.Proofs.Drain

/-!
# No deadline in the past

Timers are scheduled from the present on, and only ever removed otherwise. So once an advance to an
instant has delivered what was due by then, no deadline before that instant comes up again,
whatever the surface does next.
-/

namespace TouchOverlay

namespace TimerQueue

/-- The clock and all deadlines are at an instant or after it. -/
structure NotBefore (t : Millis) (q : TimerQueue) : Prop where
  now : t ≤ q.now
  deadline : ∀ d ∈ q.byDeadline, t ≤ d.deadline

variable {q q' : TimerQueue} {id o : ControlId} {t now delay : Millis} {d : Due}
  {h : TimerHandle} {hs hs' : List TimerHandle} {x : ExpiredTimer}

namespace NotBefore

theorem advanceClock (hq : q.NotBefore t) (now : Millis) : (q.advanceClock now).NotBefore t :=
  ⟨UInt64.le_trans hq.now Millis.le_max_left, hq.deadline⟩

theorem schedule (hq : q.NotBefore t) : (q.schedule o delay).2.NotBefore t := by
  refine ⟨hq.now, fun d hd => ?_⟩
  obtain ⟨i, hi⟩ := mem_byDeadline_iff.1 hd
  rw [byDeadline_schedule] at hi
  split at hi
  · rename_i he
    rw [← he]
    exact UInt64.le_trans hq.now Millis.le_later
  · exact hq.deadline d (mem_byDeadline_iff.2 ⟨i, hi⟩)

theorem removeAll (hq : q.NotBefore t) (l : List Due) : (l.foldl remove q).NotBefore t := by
  refine ⟨by rw [now_removeAll]; exact hq.now, fun d hd => ?_⟩
  obtain ⟨i, hi⟩ := mem_byDeadline_iff.1 hd
  rw [byDeadline_removeAll] at hi
  split at hi
  · cases hi
  · exact hq.deadline d (mem_byDeadline_iff.2 ⟨i, hi⟩)

theorem cancel (hq : q.NotBefore t) : (q.cancel h).2.NotBefore t := by
  unfold TimerQueue.cancel
  split
  · rename_i u _
    exact hq.removeAll [⟨u, h⟩]
  · exact hq

theorem turn (ht : Turn id q hs q' hs') (hq : q.NotBefore t) : q'.NotBefore t := by
  induction ht with
  | done => exact hq
  | schedule _ _ ih => exact ih hq.schedule
  | cancel _ _ ih => exact ih hq.cancel

theorem popExpired? (hq : q.NotBefore t) (hp : q.popExpired? now = some (x, q')) :
    q'.NotBefore t := by
  obtain ⟨-, -, -, rfl⟩ := popExpired?_eq_some hp
  exact (hq.removeAll [_]).advanceClock _

/-- If no deadline has passed, the clock stands at the deadline of a timer that is taken. -/
theorem of_pop (hq : q.NotBefore q.now) (hp : q.popExpired? now = some (x, q')) :
    q'.now = x.deadline ∧ q.now ≤ x.deadline ∧ q'.NotBefore q'.now := by
  obtain ⟨hf, -, -, rfl⟩ := popExpired?_eq_some hp
  obtain ⟨hm, hmin⟩ := first?_eq_some_iff.1 hf
  have hle : q.now ≤ x.deadline := hq.deadline _ hm
  have hnow : max q.now x.deadline = x.deadline := Millis.max_eq_right hle
  refine ⟨hnow, hle, UInt64.le_refl _, fun e he => ?_⟩
  show max q.now x.deadline ≤ e.deadline
  rw [hnow]
  obtain ⟨o, ho⟩ := mem_byDeadline_iff.1 he
  have ho : (q.remove ⟨x.deadline, x.handle⟩).byDeadline[e]? = some o := ho
  rw [byDeadline_remove] at ho
  split at ho
  · cases ho
  · exact deadline_le_of_order (hmin e (mem_byDeadline_iff.2 ⟨o, ho⟩))

end NotBefore
end TimerQueue

/-- Whatever timer a control hears of, it has its turn on the queue. -/
theorem Behaviour.exists_turn_timer (b : Behaviour) (sv : Services) (site : Site) (d : Desk)
    (h : TimerHandle) :
    ∃ hs hs', TimerQueue.Turn site.id d.timers hs (b.timer sv site d h).desk.timers hs' := by
  cases b with
  | touchpad pad =>
    show ∃ hs hs', TimerQueue.Turn site.id d.timers hs (pad.timer sv site h d).desk.timers hs'
    by_cases hc : pad.clickTimer? = some h
    · rw [Touchpad.timer_of_click hc]
      exact ⟨[], [], .done (.refl _)⟩
    · by_cases hp : pad.phase = .pending h
      · rw [Touchpad.timer_of_idle hc hp]
        exact ⟨_, _, Touchpad.turn_closeWindow⟩
      · rw [Touchpad.timer_of_not_mem (Touchpad.not_mem_timers hc hp)]
        exact ⟨[], [], .done (.refl _)⟩
  | _ => exact ⟨[], [], .done (.refl _)⟩

namespace Surface
open TimerQueue
variable {sv : Services} {s s' : Surface} {is : List Issued} {K : ControlId → Prop} {t now : Millis}

/-- What a touch or a timer does to the queue is the turn of one control. -/
theorem exists_turn_of_contact (h : ContactStep sv s is s') :
    ∃ id hs hs', Turn id s.desk.timers hs s'.desk.timers hs' := by
  cases h with
  | @down pre post c p spot _ _ hcons => exact ⟨_, _, _, (Control.takes_down hcons).turn⟩
  | @move pre post c p spot _ _ =>
    exact ⟨_, _, _,
      (c.behaviour.keeps_move sv (c.site s.size) p (c.bounds.toLocal spot) s.desk).1.turn⟩
  | @up pre post c p _ _ =>
    by_cases hp : c.behaviour.pointer? = some p
    · exact ⟨_, _, _, (Behaviour.drops_up (c.site s.size) s.desk hp).turn⟩
    · have hu : (c.up s.size p s.desk).desk = s.desk := by
        rw [Control.up, Behaviour.up_of_ne (c.site s.size) s.desk hp]; rfl
      refine ⟨c.id, [], [], ?_⟩
      show Turn c.id s.desk.timers [] (c.up s.size p s.desk).desk.timers []
      rw [hu]
      exact .done (.refl _)
  | @stray _ id _ _ => exact ⟨id, [], [], .done (.refl _)⟩

theorem notBefore_of_motion (hm : Motion sv K s is s') (hs : s.desk.timers.NotBefore t) :
    s'.desk.timers.NotBefore t := by
  rcases hm with hi | hc
  · cases hi with
    | tick now => exact hs.advanceClock now
    | @fire s₁ pre post c now x hp _ _ =>
      obtain ⟨q, hq, rfl⟩ := popExpired?_eq_some hp
      obtain ⟨hs₀, hs₁, ht⟩ :=
        c.behaviour.exists_turn_timer sv (c.site s.size) (s.withTimers q).desk x.handle
      exact (hs.popExpired? hq).turn ht
    | lapse hp _ =>
      obtain ⟨q, hq, rfl⟩ := popExpired?_eq_some hp
      exact hs.popExpired? hq
    | contact h =>
      obtain ⟨id, hs₀, hs₁, ht⟩ := exists_turn_of_contact h
      exact hs.turn ht
  · cases hc with
    | @reset pre post c _ =>
      exact hs.turn (c.behaviour.keeps_resetToggle (c.site s.size) s.desk).turn
    | @detach pre post c _ =>
      exact (hs.turn (c.behaviour.turn_detach (c.site s.size) s.desk)).removeAll _
    | mount _ _ _ => exact hs
    | resize _ => exact hs

theorem notBefore_advance : (s.advance sv t).state.desk.timers.NotBefore t := by
  refine ⟨?_, fun d hd => UInt64.le_of_lt (lt_deadline_of_mem_advance hd)⟩
  show t ≤ max _ t
  exact Millis.le_max_right

/-- After an operation carried out at an instant no deadline lies before it. -/
theorem notBefore_perform (op : Operation) (hs : s.desk.timers.NotBefore t) :
    (op.perform sv s).state.desk.timers.NotBefore t := by
  refine perform_preserve_mounts (P := fun s _ => s.desk.timers.NotBefore t) op
    (fun hm hs => notBefore_of_motion hm hs) (fun {s₁ _ cfgs} _ hs => ?_) (fun hs => hs) [] hs
  rw [mountAll_eq]
  exact hs

theorem notBefore_touch (sv : Services) (s : Surface) (e : TouchEvent) :
    (s.touch sv e).state.desk.timers.NotBefore e.time :=
  (chain_route e).keeps (P := fun s => s.desk.timers.NotBefore e.time)
    (fun _ _ _ h hs => notBefore_of_motion (K := fun _ => False) (.inl (.contact h)) hs)
    notBefore_advance

end Surface

end TouchOverlay
