import TouchOverlay.Proofs.LeftButton

/-!
# What keeps the left button down during a drag

A drag presses the left button when it starts and releases it when it ends. In between only the
timer of an earlier click can release it, so all depends on whether a click can be outstanding when
a drag starts. `Touchpad.Held` is the law, and there are two ways to keep it. Without double tap
drags a drag starts when the idle window closes, and the timer of a click that was sent before the
window opened fires first if clicks are no longer than the window (`Touchpad.Ordered`). With double
tap drags the second press starts one at once, so a click must be over in the advance that sends it
(`Touchpad.Prompt`, with `Touchpad.Closing` for the time within the advance).
-/

namespace TouchOverlay

namespace Touchpad
variable {sv : Services} {site : Site} {p : PointerId} {spot : Point} {pad : Touchpad} {d : Desk}
  {h : TimerHandle} {c : Contact} {last : Option Bool}

/-- During a drag no click is outstanding and the button is down. -/
def Held (pad : Touchpad) (last : Option Bool) : Prop :=
  pad.phase.holdsButton = true → pad.clickTimer? = none ∧ last = some true

theorem held_beginContact
    (hc : pad.doubleTapDrag = true → pad.phase.isPending = true → pad.clickTimer? = none) :
    (beginContact sv site spot pad d).state.Held
      ((beginContact sv site spot pad d).left?.or last) := by
  unfold beginContact
  split
  · rename_i timer hp
    split
    · rename_i hdrag
      exact fun _ => ⟨hc hdrag (by rw [hp]; rfl), rfl⟩
    · exact fun hf => nomatch hf
  · exact fun hf => nomatch hf

theorem held_slide (hh : pad.Held last) :
    (slide sv site c spot pad d).state.Held ((slide sv site c spot pad d).left?.or last) := by
  cases hp : pad.phase with
  | pending timer =>
    simp only [slide, hp]
    split <;> exact fun hf => absurd hf Bool.false_ne_true
  | doubleClick target =>
    simp only [slide, hp]
    exact fun _ => hh (by rw [hp]; rfl)
  | pressMoving =>
    simp only [slide, hp]
    intro _
    exact hh (by rw [hp]; rfl)
  | _ =>
    simp only [slide, hp]
    exact fun hf => absurd hf Bool.false_ne_true

/-- No drag outlives its contact. -/
theorem held_up (hp : pad.pointer? = some p) (last : Option Bool) :
    (pad.up site p d).state.Held last := by
  intro hf
  unfold up at hf
  rw [if_pos hp] at hf
  cases hph : pad.phase <;> simp [hph, Phase.holdsButton] at hf

theorem held_timer
    (hc : pad.phase = .pending h → pad.contact?.isSome = true → pad.clickTimer? = none)
    (hh : pad.Held last) :
    (pad.timer sv site h d).state.Held ((pad.timer sv site h d).left?.or last) := by
  by_cases hk : pad.clickTimer? = some h
  · -- the timer of a click, and so not in a drag
    rw [timer_of_click hk]
    intro hf
    rw [(hh hf).1] at hk
    cases hk
  · by_cases hp : pad.phase = .pending h
    · rw [timer_of_idle hk hp]
      unfold closeWindow
      split
      · rename_i hcon
        exact fun _ => ⟨hc hp hcon, rfl⟩
      · exact fun hf => nomatch hf
    · rw [timer_of_not_mem (not_mem_timers hk hp)]
      exact hh

/-! ## Short clicks, without double tap drags -/

/-- Both timers are pending, and the first one fires before the other. -/
def Precedes (q : TimerQueue) (k h : TimerHandle) : Prop :=
  ∃ t u, q.deadlines[k]? = some t ∧ q.deadlines[h]? = some u ∧ Due.order ⟨t, k⟩ ⟨u, h⟩ = .lt

/-- A click will be over before a drag can start. -/
structure Ordered (sv : Services) (q : TimerQueue) (pad : Touchpad) : Prop where
  flag : pad.doubleTapDrag = false
  due : ∀ k, pad.clickTimer? = some k →
    ∃ t, q.deadlines[k]? = some t ∧ t ≤ Millis.later q.now sv.tuning.clickTimeout
  order : ∀ k h, pad.clickTimer? = some k → pad.phase = .pending h → Precedes q k h

theorem order_lt_of_le {t u : Millis} {k h : TimerHandle} (ht : t ≤ u) (hk : k < h) :
    Due.order ⟨t, k⟩ ⟨u, h⟩ = .lt := by
  simp only [Due.order, compareLex, compareOn, Ordering.then_eq_lt]
  rcases Ordering.isLE_iff_eq_lt_or_eq_eq.1 (Std.isLE_compare.2 ht) with hlt | heq
  · exact .inl hlt
  · exact .inr ⟨heq, Std.compare_eq_lt.2 hk⟩

namespace Precedes
variable {q q₁ : TimerQueue} {k : TimerHandle} {now : Millis} {t : ExpiredTimer}

theorem ne (hp : Precedes q k h) : k ≠ h := by
  rintro rfl
  obtain ⟨t, u, ht, hu, ho⟩ := hp
  rw [ht] at hu
  cases hu
  rw [show Due.order ⟨t, k⟩ ⟨t, k⟩ = .eq from Std.ReflCmp.compare_self] at ho
  cases ho

/-- A timer that is taken from the queue is preceded by no other. -/
theorem not_popExpired? (hp : Precedes q k t.handle) (wf : q.WF)
    (hpop : q.popExpired? now = some (t, q₁)) : False := by
  obtain ⟨tk, u, hk, hu, ho⟩ := hp
  rw [(TimerQueue.deadlines_popExpired? wf hpop).1] at hu
  cases hu
  have hmin := (TimerQueue.first?_eq_some_iff.1 (TimerQueue.popExpired?_eq_some hpop).1).2
    ⟨tk, k⟩ ((wf.agree _).2 hk)
  rw [Std.OrientedCmp.gt_of_lt ho] at hmin
  cases hmin

theorem of_deadlines (hp : Precedes q k h)
    (hk : ∀ t, q.deadlines[k]? = some t → q₁.deadlines[k]? = some t)
    (hh : ∀ t, q.deadlines[h]? = some t → q₁.deadlines[h]? = some t) : Precedes q₁ k h := by
  obtain ⟨t, u, ht, hu, ho⟩ := hp
  exact ⟨t, u, hk t ht, hh u hu, ho⟩

end Precedes

/-- The timer of a new click is due one click later. -/
theorem due_resolveClick {k : TimerHandle}
    (hk : (resolveClick sv site pad d).1.clickTimer? = some k) :
    ∃ t, (resolveClick sv site pad d).2.timers.deadlines[k]? = some t ∧
      t ≤ Millis.later (resolveClick sv site pad d).2.timers.now sv.tuning.clickTimeout := by
  have hk : some (pad.cancelClick d).timers.nextHandle = some k := hk
  cases hk
  refine ⟨Millis.later (pad.cancelClick d).timers.now sv.tuning.clickTimeout, ?_, UInt64.le_refl _⟩
  exact TimerQueue.deadlines_schedule.trans (if_pos rfl)

namespace Ordered
variable {q q₁ : TimerQueue} {now : Millis} {t : ExpiredTimer}

/-- Only the flag, the phase and the timer of the click matter. -/
theorem of_contact (ho : Ordered sv q pad) (con : Option Contact) :
    Ordered sv q { pad with contact? := con } :=
  ⟨ho.flag, ho.due, ho.order⟩

theorem of_no_click {pad : Touchpad} (hf : pad.doubleTapDrag = false)
    (hc : pad.clickTimer? = none) : Ordered sv q pad :=
  ⟨hf, fun _ hk => absurd (hc.symm.trans hk) nofun, fun _ _ hk => absurd (hc.symm.trans hk) nofun⟩

theorem advanceClock (ho : Ordered sv q pad) (now : Millis) :
    Ordered sv (q.advanceClock now) pad := by
  refine ⟨ho.flag, fun k hk => ?_, ho.order⟩
  obtain ⟨t, ht, hle⟩ := ho.due k hk
  exact ⟨t, ht, UInt64.le_trans hle (Millis.later_mono Millis.le_max_left (UInt64.le_refl _))⟩

theorem startPending (hshort : sv.tuning.clickTimeout ≤ sv.tuning.idleTimeout) (wf : d.timers.WF)
    (hf : pad.doubleTapDrag = false)
    (hdue : ∀ k, pad.clickTimer? = some k → ∃ t, d.timers.deadlines[k]? = some t ∧
      t ≤ Millis.later d.timers.now sv.tuning.clickTimeout) :
    Ordered sv (Touchpad.startPending sv site pad d).2.timers
      (Touchpad.startPending sv site pad d).1 := by
  have hd : ∀ h, (Touchpad.startPending sv site pad d).2.timers.deadlines[h]? =
      if d.timers.nextHandle = h then some (Millis.later d.timers.now sv.tuning.idleTimeout)
      else d.timers.deadlines[h]? := fun _ => TimerQueue.deadlines_schedule
  refine ⟨hf, fun k hk => ?_, fun k h hk hp => ?_⟩
  · obtain ⟨t, ht, hle⟩ := hdue k hk
    refine ⟨t, ?_, hle⟩
    rw [hd, if_neg (Nat.ne_of_gt (wf.fresh k t ht))]
    exact ht
  · obtain ⟨t, ht, hle⟩ := hdue k hk
    have hlt := wf.fresh k t ht
    have hp : Phase.pending d.timers.nextHandle = .pending h := hp
    cases hp
    refine ⟨t, _, ?_, ?_, order_lt_of_le (UInt64.le_trans hle
      (Millis.later_mono (UInt64.le_refl _) hshort)) hlt⟩
    · rw [hd, if_neg (Nat.ne_of_gt hlt)]
      exact ht
    · rw [hd, if_pos rfl]

theorem beginContact (hshort : sv.tuning.clickTimeout ≤ sv.tuning.idleTimeout) (wf : d.timers.WF)
    (ho : Ordered sv d.timers pad) :
    Ordered sv (Touchpad.beginContact sv site spot pad d).desk.timers
      (Touchpad.beginContact sv site spot pad d).state := by
  unfold Touchpad.beginContact
  split
  · rename_i timer hp
    rw [if_neg (by rw [ho.flag]; exact Bool.false_ne_true)]
    have hwf : (resolveClick sv site pad (d.cancel timer)).2.timers.WF :=
      (turn_resolveClick (d := d.cancel timer)).wf (wf.cancel timer)
    exact startPending hshort hwf ho.flag fun k hk => due_resolveClick hk
  · exact startPending hshort wf ho.flag ho.due

theorem slide (ho : Ordered sv d.timers pad) :
    Ordered sv (Touchpad.slide sv site c spot pad d).desk.timers
      (Touchpad.slide sv site c spot pad d).state := by
  cases hp : pad.phase with
  | pending timer =>
    simp only [Touchpad.slide, hp]
    split
    · refine ⟨ho.flag, fun k hk => ?_, fun k h _ hf => Phase.noConfusion hf⟩
      obtain ⟨t, ht, hle⟩ := ho.due k hk
      refine ⟨t, ?_, ?_⟩
      · rw [Desk.timers_cancel, TimerQueue.deadlines_cancel,
          if_neg (ho.order k timer hk hp).ne.symm]
        exact ht
      · rw [Desk.timers_cancel, TimerQueue.now_cancel]
        exact hle
    · exact ⟨ho.flag, ho.due, fun k h hk hf => ho.order k h hk (hp.trans hf)⟩
  | _ =>
    simp only [Touchpad.slide, hp]
    exact ⟨ho.flag, ho.due, fun k h _ hf => Phase.noConfusion hf⟩

theorem up (ho : Ordered sv q pad) : Ordered sv q (pad.up site p d).state := by
  by_cases h : pad.pointer? = some p
  · unfold Touchpad.up
    rw [if_pos h]
    cases hp : pad.phase with
    | pending timer => exact ⟨ho.flag, ho.due, fun k h hk hf => ho.order k h hk (hp.trans hf)⟩
    | _ => exact ⟨ho.flag, ho.due, fun k h _ hf => nomatch hf⟩
  · rw [up_of_ne h]
    exact ho

theorem click_of_popExpired? (ho : Ordered sv q pad) (wf : q.WF)
    (hpop : q.popExpired? now = some (t, q₁)) (hp : pad.phase = .pending t.handle) :
    pad.clickTimer? = none := by
  cases hk : pad.clickTimer? with
  | none => rfl
  | some k => exact ((ho.order k _ hk hp).not_popExpired? wf hpop).elim

theorem timer (ho : Ordered sv q pad) (wf : q.WF) (hpop : q.popExpired? now = some (t, q₁))
    (hd : d.timers = q₁) :
    Ordered sv (pad.timer sv site t.handle d).desk.timers (pad.timer sv site t.handle d).state := by
  subst hd
  -- the timer of the click, that of the window, or neither
  by_cases hk : pad.clickTimer? = some t.handle
  · rw [timer_of_click hk]
    exact of_no_click ho.flag rfl
  · by_cases hp : pad.phase = .pending t.handle
    · rw [timer_of_idle hk hp]
      unfold closeWindow
      split
      · exact of_no_click ho.flag (ho.click_of_popExpired? wf hpop hp)
      · exact ⟨ho.flag, fun k hk => due_resolveClick hk, fun k h _ hf => nomatch hf⟩
    · rw [timer_of_not_mem (not_mem_timers hk hp)]
      have hdl := (TimerQueue.deadlines_popExpired? wf hpop).2
      have hnow := (TimerQueue.now_popExpired? hpop).1
      refine ⟨ho.flag, fun k hk' => ?_, fun k h hk' hp' => ?_⟩
      · obtain ⟨u, hu, hle⟩ := ho.due k hk'
        have hne : t.handle ≠ k := fun he => hk (he ▸ hk')
        refine ⟨u, ?_, UInt64.le_trans hle (Millis.later_mono ?_ (UInt64.le_refl _))⟩
        · show d.timers.deadlines[k]? = some u
          rw [hdl, if_neg hne]
          exact hu
        · show q.now ≤ d.timers.now
          rw [hnow]
          exact Millis.le_max_left
      · have hne : t.handle ≠ k := fun he => hk (he ▸ hk')
        have hne' : t.handle ≠ h := fun he => hp (he ▸ hp')
        refine (ho.order k h hk' hp').of_deadlines (fun u hu => ?_) fun u hu => ?_
        · show d.timers.deadlines[k]? = some u
          rw [hdl, if_neg hne]
          exact hu
        · show d.timers.deadlines[h]? = some u
          rw [hdl, if_neg hne']
          exact hu

end Ordered

/-! ## Clicks that are over at once, with double tap drags -/

/-- The idle window is due later, at the last instant at any rate if that is its length. -/
def WindowDue (sv : Services) (q : TimerQueue) (pad : Touchpad) : Prop :=
  ∀ h, pad.phase = .pending h → ∃ t, q.deadlines[h]? = some t ∧
    (q.now < t ∨ t = 0xffffffffffffffff) ∧
    (sv.tuning.idleTimeout = 0xffffffffffffffff → t = 0xffffffffffffffff)

/-- Between two operations no click is outstanding. -/
structure Prompt (sv : Services) (q : TimerQueue) (pad : Touchpad) : Prop where
  flag : pad.doubleTapDrag = true
  click : pad.clickTimer? = none
  window : WindowDue sv q pad

/-- Within an advance to `now` a click may be outstanding, if it is due and the window is closed. -/
structure Closing (sv : Services) (now : Millis) (q : TimerQueue) (pad : Touchpad) : Prop where
  flag : pad.doubleTapDrag = true
  click : ∀ k, pad.clickTimer? = some k →
    pad.phase.isPending = false ∧ ∃ t, q.deadlines[k]? = some t ∧ t ≤ now
  window : WindowDue sv q pad

theorem WindowDue.of_not_pending {q : TimerQueue} {pad : Touchpad}
    (hp : pad.phase.isPending = false) : WindowDue sv q pad := by
  intro h hp'
  rw [hp'] at hp
  cases hp

namespace Prompt
variable {q : TimerQueue}

theorem of_contact (hp : Prompt sv q pad) (con : Option Contact) :
    Prompt sv q { pad with contact? := con } :=
  ⟨hp.flag, hp.click, hp.window⟩

theorem beginContact (hidle : sv.tuning.idleTimeout ≠ 0) (hp : Prompt sv d.timers pad) :
    Prompt sv (Touchpad.beginContact sv site spot pad d).desk.timers
      (Touchpad.beginContact sv site spot pad d).state := by
  unfold Touchpad.beginContact
  split
  · rw [if_pos hp.flag]
    exact ⟨hp.flag, hp.click, .of_not_pending rfl⟩
  · refine ⟨hp.flag, hp.click, fun h hph => ?_⟩
    have hph : Phase.pending d.timers.nextHandle = .pending h := hph
    cases hph
    refine ⟨Millis.later d.timers.now sv.tuning.idleTimeout, ?_, Millis.lt_later hidle,
      fun hl => ?_⟩
    · exact TimerQueue.deadlines_schedule.trans (if_pos rfl)
    · rw [hl, Millis.later_last]

theorem slide (hp : Prompt sv d.timers pad) :
    Prompt sv (Touchpad.slide sv site c spot pad d).desk.timers
      (Touchpad.slide sv site c spot pad d).state := by
  cases hph : pad.phase with
  | pending timer =>
    simp only [Touchpad.slide, hph]
    split
    · exact ⟨hp.flag, hp.click, .of_not_pending rfl⟩
    · exact ⟨hp.flag, hp.click, fun h hf => hp.window h (hph.trans hf)⟩
  | _ =>
    simp only [Touchpad.slide, hph]
    exact ⟨hp.flag, hp.click, .of_not_pending rfl⟩

theorem up (hp : Prompt sv q pad) : Prompt sv q (pad.up site p d).state := by
  by_cases h : pad.pointer? = some p
  · unfold Touchpad.up
    rw [if_pos h]
    cases hph : pad.phase with
    | pending timer => exact ⟨hp.flag, hp.click, fun h hf => hp.window h (hph.trans hf)⟩
    | _ => exact ⟨hp.flag, hp.click, .of_not_pending rfl⟩
  · rw [up_of_ne h]
    exact hp

theorem closing (hp : Prompt sv q pad) (now : Millis) : Closing sv now q pad :=
  ⟨hp.flag, fun _ hk => absurd (hp.click.symm.trans hk) nofun, hp.window⟩

end Prompt

namespace Closing
variable {q q₁ : TimerQueue} {now : Millis} {t : ExpiredTimer}

theorem click_of_pending (hc : Closing sv now q pad) (hp : pad.phase = .pending h) :
    pad.clickTimer? = none := by
  cases hk : pad.clickTimer? with
  | none => rfl
  | some k =>
    have hn := (hc.click k hk).1
    rw [hp] at hn
    cases hn

/-- A click that is sent in the course of an advance is due in that advance. -/
theorem later_le_of_popExpired? (hc : Closing sv now q pad)
    (hprompt : sv.tuning.clickTimeout = 0 ∨ sv.tuning.idleTimeout = 0xffffffffffffffff)
    (wf : q.WF) (hpop : q.popExpired? now = some (t, q₁)) (hp : pad.phase = .pending t.handle) :
    Millis.later q₁.now sv.tuning.clickTimeout ≤ now := by
  obtain ⟨u, hu, hdue, hlast⟩ := hc.window _ hp
  rw [(TimerQueue.deadlines_popExpired? wf hpop).1] at hu
  cases hu
  obtain ⟨hnow, hle⟩ := TimerQueue.now_popExpired? hpop
  -- once a timer with the last deadline fires, every deadline has passed
  have hend (hl : t.deadline = 0xffffffffffffffff) (u : Millis) : u ≤ now :=
    UInt64.le_trans Millis.le_last (hl ▸ hle)
  rcases hprompt with hz | hl
  · rw [hz, Millis.later_zero, hnow]
    rcases hdue with hlt | hl
    · exact Millis.max_le.2 ⟨UInt64.le_trans (UInt64.le_of_lt hlt) hle, hle⟩
    · exact hend hl _
  · exact hend (hlast hl) _

theorem timer (hc : Closing sv now q pad)
    (hprompt : sv.tuning.clickTimeout = 0 ∨ sv.tuning.idleTimeout = 0xffffffffffffffff)
    (wf : q.WF) (hpop : q.popExpired? now = some (t, q₁)) (hm : t.handle ∈ pad.timers)
    (hd : d.timers = q₁) :
    Closing sv now (pad.timer sv site t.handle d).desk.timers
      (pad.timer sv site t.handle d).state := by
  subst hd
  by_cases hk : pad.clickTimer? = some t.handle
  · rw [timer_of_click hk]
    exact ⟨hc.flag, nofun, .of_not_pending (hc.click _ hk).1⟩
  · have hp := (mem_timers.1 hm).resolve_right hk
    rw [timer_of_idle hk hp]
    unfold closeWindow
    split
    · exact ⟨hc.flag, fun k hk => absurd ((hc.click_of_pending hp).symm.trans hk) nofun,
        .of_not_pending rfl⟩
    · refine ⟨hc.flag, fun k hk => ⟨rfl, ?_⟩, .of_not_pending rfl⟩
      obtain ⟨u, hu, hle⟩ := due_resolveClick hk
      refine ⟨u, hu, UInt64.le_trans hle ?_⟩
      rw [now_resolveClick]
      exact hc.later_le_of_popExpired? hprompt wf hpop hp

/-- When no timer is due any more, no click is outstanding. -/
theorem prompt (hc : Closing sv now q pad) (wf : q.WF) (hdrained : q.popExpired? now = none) :
    Prompt sv (q.advanceClock now) pad := by
  have hlt : ∀ h t, q.deadlines[h]? = some t → now < t := fun h t ht =>
    TimerQueue.popExpired?_eq_none_iff.1 hdrained ⟨t, h⟩ ((wf.agree ⟨t, h⟩).2 ht)
  refine ⟨hc.flag, ?_, fun h hp => ?_⟩
  · cases hk : pad.clickTimer? with
    | none => rfl
    | some k =>
      obtain ⟨-, t, ht, hle⟩ := hc.click k hk
      exact absurd (hlt k t ht) (UInt64.not_lt.2 hle)
  · obtain ⟨t, ht, hdue, hlast⟩ := hc.window h hp
    exact ⟨t, ht, hdue.imp_left fun hn => Millis.max_lt.2 ⟨hn, hlt h t ht⟩, hlast⟩

end Closing

end Touchpad
end TouchOverlay
