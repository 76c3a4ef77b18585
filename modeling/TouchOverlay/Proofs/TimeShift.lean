import TouchOverlay.Proofs.History
import TouchOverlay.Proofs.Isolation
import TouchOverlay.Proofs.SideBySide

/-!
# Only elapsed time matters

The same touches, all of them later by the same amount. A new surface starts with its clock at zero in
both runs, but it has no timers then, so nothing is measured from that zero: the first touch sets both
clocks, and from then on every deadline and the clock are apart by the same amount (`LaterBy`). Each
of the queue's operations keeps that, as long as no deadline reaches the end of time.
-/

namespace TouchOverlay

def Millis.LaterBy (delta : Nat) (t t' : Millis) : Prop := t'.toNat = t.toNat + delta

/-- The same timers under the same handles, with every deadline and the clock later. -/
structure TimerQueue.LaterBy (delta : Nat) (q q' : TimerQueue) : Prop where
  now : Millis.LaterBy delta q.now q'.now
  nextHandle : q.nextHandle = q'.nextHandle
  deadlines : ∀ h : TimerHandle,
    Option.Rel (Millis.LaterBy delta) q.deadlines[h]? q'.deadlines[h]?
  owner : ∀ h, q.ownerOf? h = q'.ownerOf? h

variable {delta : Nat}

namespace Millis.LaterBy
variable {t t' u u' delay : Millis}

theorem le_iff (h : LaterBy delta t t') (h' : LaterBy delta u u') : t ≤ u ↔ t' ≤ u' := by
  unfold LaterBy at h h'
  rw [UInt64.le_iff_toNat_le, UInt64.le_iff_toNat_le]
  omega

theorem lt_iff (h : LaterBy delta t t') (h' : LaterBy delta u u') : t < u ↔ t' < u' := by
  rw [← UInt64.not_le, ← UInt64.not_le, h'.le_iff h]

theorem max (h : LaterBy delta t t') (h' : LaterBy delta u u') :
    LaterBy delta (max t u) (max t' u') := by
  unfold LaterBy at h h' ⊢
  rw [toNat_max, toNat_max]
  omega

theorem later (h : LaterBy delta t t')
    (hroom : t.toNat + delta + delay.toNat ≤ 0xffffffffffffffff) :
    LaterBy delta (Millis.later t delay) (Millis.later t' delay) := by
  unfold LaterBy at h ⊢
  rw [toNat_later, toNat_later]
  omega

end Millis.LaterBy

/-! ## The queue -/

namespace TimerQueue.LaterBy
variable {q q' : TimerQueue} {id : ControlId} {delay now now' : Millis} {h : TimerHandle} {d e : Due}

theorem advanceClock (hq : q.LaterBy delta q') (hn : Millis.LaterBy delta now now') :
    (q.advanceClock now).LaterBy delta (q'.advanceClock now') :=
  ⟨hq.now.max hn, hq.nextHandle, hq.deadlines, hq.owner⟩

theorem schedule (hq : q.LaterBy delta q')
    (hroom : q.now.toNat + delta + delay.toNat ≤ 0xffffffffffffffff) :
    (q.schedule id delay).2.LaterBy delta (q'.schedule id delay).2 := by
  refine ⟨hq.now, congrArg (· + 1) hq.nextHandle, ?_, ?_⟩
  · intro h
    rw [deadlines_schedule, deadlines_schedule, ← hq.nextHandle]
    split
    · exact .some (hq.now.later hroom)
    · exact hq.deadlines h
  · intro h
    rw [ownerOf?_schedule, ownerOf?_schedule, ← hq.nextHandle, hq.owner]

theorem cancel (hq : q.LaterBy delta q') : (q.cancel h).2.LaterBy delta (q'.cancel h).2 := by
  refine ⟨?_, ?_, ?_, ?_⟩
  · rw [now_cancel, now_cancel]
    exact hq.now
  · rw [nextHandle_cancel, nextHandle_cancel, hq.nextHandle]
  · intro k
    rw [deadlines_cancel, deadlines_cancel]
    split
    · exact .none
    · exact hq.deadlines k
  · intro k
    rw [ownerOf?_cancel, ownerOf?_cancel, hq.owner]

theorem exists_later (hq : q.LaterBy delta q') (wf : q.WF) (wf' : q'.WF) (hd : d ∈ q.byDeadline) :
    ∃ d' ∈ q'.byDeadline, d'.handle = d.handle ∧ Millis.LaterBy delta d.deadline d'.deadline := by
  have hr := hq.deadlines d.handle
  rw [(wf.agree d).1 hd] at hr
  cases ht : q'.deadlines[d.handle]? with
  | none =>
    rw [ht] at hr
    cases hr
  | some t' =>
    rw [ht] at hr
    cases hr with
    | some hr => exact ⟨⟨t', d.handle⟩, (wf'.agree ⟨t', d.handle⟩).2 ht, rfl, hr⟩

theorem exists_earlier (hq : q.LaterBy delta q') (wf : q.WF) (wf' : q'.WF)
    (hd : e ∈ q'.byDeadline) :
    ∃ d ∈ q.byDeadline, e.handle = d.handle ∧ Millis.LaterBy delta d.deadline e.deadline := by
  have hr := hq.deadlines e.handle
  rw [(wf'.agree e).1 hd] at hr
  cases ht : q.deadlines[e.handle]? with
  | none =>
    rw [ht] at hr
    cases hr
  | some t =>
    rw [ht] at hr
    cases hr with
    | some hr => exact ⟨⟨t, e.handle⟩, (wf.agree ⟨t, e.handle⟩).2 ht, rfl, hr⟩

theorem isLE_order {d' e' : Due} (hh : d'.handle = d.handle) (hk : e'.handle = e.handle)
    (hd : Millis.LaterBy delta d.deadline d'.deadline)
    (he : Millis.LaterBy delta e.deadline e'.deadline) :
    (Due.order d e).isLE ↔ (Due.order d' e').isLE := by
  simp only [Due.order, compareLex, compareOn, Ordering.isLE_then_iff_and, Std.isLE_compare,
    Std.compare_eq_lt, hh, hk]
  rw [hd.le_iff he, hd.lt_iff he]

theorem first? (hq : q.LaterBy delta q') (wf : q.WF) (wf' : q'.WF) (hf : q.first? = some d) :
    ∃ d', q'.first? = some d' ∧ d'.handle = d.handle ∧
      Millis.LaterBy delta d.deadline d'.deadline := by
  obtain ⟨hd, hmin⟩ := first?_eq_some_iff.1 hf
  obtain ⟨d', hd', hh, ht⟩ := hq.exists_later wf wf' hd
  refine ⟨d', first?_eq_some_iff.2 ⟨hd', ?_⟩, hh, ht⟩
  intro e' he'
  obtain ⟨e, he, hk, hu⟩ := hq.exists_earlier wf wf' he'
  exact (isLE_order hh hk ht hu).1 (hmin e he)

/-- A timer that is taken, as it is taken later. -/
theorem popExpired? (hq : q.LaterBy delta q') (wf : q.WF) (wf' : q'.WF)
    (hn : Millis.LaterBy delta now now') :
    Option.Rel (fun x x' => x.1.owner = x'.1.owner ∧ x.1.handle = x'.1.handle ∧
        x.2.LaterBy delta x'.2)
      (q.popExpired? now) (q'.popExpired? now') := by
  cases hp : q.popExpired? now with
  | none =>
    have hnone : q'.popExpired? now' = none := by
      rw [popExpired?_eq_none_iff] at hp ⊢
      intro e he
      obtain ⟨d, hd, -, ht⟩ := hq.exists_earlier wf wf' he
      exact (hn.lt_iff ht).1 (hp d hd)
    rw [hnone]
    exact .none
  | some x =>
    obtain ⟨t, q₁⟩ := x
    obtain ⟨hf, hle, -, -⟩ := popExpired?_eq_some hp
    obtain ⟨d', hf', hh, ht⟩ := hq.first? wf wf' hf
    have hle' : d'.deadline ≤ now' := (ht.le_iff hn).1 hle
    obtain ⟨t', q₁', hp', hh', ht'⟩ := popExpired?_of_first? hf' hle'
    have hhandle : t.handle = t'.handle := (hh'.trans hh).symm
    have hdeadline : Millis.LaterBy delta t.deadline t'.deadline := ht' ▸ ht
    rw [hp']
    refine .some ⟨?_, hhandle, ?_, ?_, ?_, ?_⟩
    · have ho := wf.ownerOf?_of_popExpired? hp
      rw [hq.owner, hhandle, wf'.ownerOf?_of_popExpired? hp'] at ho
      exact (Option.some.inj ho).symm
    · show Millis.LaterBy delta q₁.now q₁'.now
      rw [(now_popExpired? hp).1, (now_popExpired? hp').1]
      exact hq.now.max hdeadline
    · show q₁.nextHandle = q₁'.nextHandle
      rw [nextHandle_popExpired? hp, nextHandle_popExpired? hp', hq.nextHandle]
    · intro h
      rw [(deadlines_popExpired? wf hp).2, (deadlines_popExpired? wf' hp').2, hhandle]
      split
      · exact .none
      · exact hq.deadlines h
    · intro h
      rw [ownerOf?_popExpired? hp, ownerOf?_popExpired? hp', hhandle, hq.owner]

end TimerQueue.LaterBy

/-! ## Desks -/

/-- The desk at a later time, while the clock has not gone beyond `last`. -/
structure Desk.LaterBy (delta : Nat) (last : Millis) (d d' : Desk) : Prop where
  claims : d.claims = d'.claims
  timers : d.timers.LaterBy delta d'.timers
  wf : d.timers.WF
  wf' : d'.timers.WF
  now_le : d.timers.now ≤ last

/-- What a touchpad schedules up to `last` is not cut off at the end of time. -/
def Services.HasRoom (sv : Services) (delta : Nat) (last : Millis) : Prop :=
  last.toNat + delta + sv.tuning.idleTimeout.toNat + sv.tuning.clickTimeout.toNat ≤
    0xffffffffffffffff

namespace Desk.LaterBy
variable {sv : Services} {d d' : Desk} {last last' : Millis} {site : Site}

theorem mono (hl : last ≤ last') (hd : d.LaterBy delta last d') : d.LaterBy delta last' d' :=
  ⟨hd.claims, hd.timers, hd.wf, hd.wf', UInt64.le_trans hd.now_le hl⟩

theorem parallel (hroom : sv.HasRoom delta last) :
    site.Parallel sv (Desk.LaterBy delta last) site where
  id := rfl
  bounds := rfl
  surface := rfl
  schedule {d d' delay} hdelay hd := by
    have hle := UInt64.le_iff_toNat_le.1 hd.now_le
    have hfits : d.timers.now.toNat + delta + delay.toNat ≤ 0xffffffffffffffff := by
      unfold Services.HasRoom at hroom
      rcases hdelay with rfl | rfl <;> omega
    exact ⟨hd.timers.nextHandle, hd.claims, hd.timers.schedule hfits, hd.wf.schedule _ _,
      hd.wf'.schedule _ _, hd.now_le⟩
  cancel {d d'} h hd := by
    refine ⟨hd.claims, hd.timers.cancel, hd.wf.cancel h, hd.wf'.cancel h, ?_⟩
    show (d.timers.cancel h).2.now ≤ last
    rw [TimerQueue.now_cancel]
    exact hd.now_le
  drop {d d'} p hd :=
    ⟨congrArg (fun c : Claims => c.drop p site.id site.passThrough) hd.claims, hd.timers, hd.wf,
      hd.wf', hd.now_le⟩

theorem pairing (hroom : sv.HasRoom delta last) :
    Control.Pairing sv Eq (Desk.LaterBy delta last) where
  behaviour h := congrArg Control.behaviour h
  update b h := congrArg (fun c : Control => ({ c with behaviour := b } : Control)) h
  parallel _ h := h ▸ parallel hroom

theorem paced (hl : Millis.LaterBy delta last last') :
    Desk.Paced (Desk.LaterBy delta last) last last' where
  pop {d d'} hd := by
    have hp := hd.timers.popExpired? hd.wf hd.wf' hl
    cases h : d.timers.popExpired? last with
    | none =>
      rw [h] at hp
      generalize d'.timers.popExpired? last' = o at hp ⊢
      cases hp
      exact .none
    | some x =>
      rw [h] at hp
      cases h' : d'.timers.popExpired? last' with
      | none =>
        rw [h'] at hp
        cases hp
      | some x' =>
        rw [h'] at hp
        obtain ⟨t, q⟩ := x
        obtain ⟨t', q'⟩ := x'
        obtain ⟨ho, hh, hq⟩ := hp
        refine .some ⟨ho, hh, hd.claims, hq, hd.wf.popExpired? h, hd.wf'.popExpired? h', ?_⟩
        obtain ⟨hnow, hle⟩ := TimerQueue.now_popExpired? h
        show q.now ≤ last
        rw [hnow]
        exact Millis.max_le.2 ⟨hd.now_le, hle⟩
  tick {d d'} hd :=
    ⟨hd.claims, hd.timers.advanceClock hl, hd.wf.advanceClock _, hd.wf'.advanceClock _,
      Millis.max_le.2 ⟨hd.now_le, UInt64.le_refl _⟩⟩

end Desk.LaterBy

/-! ## Histories -/

/-- A touch that happens later. -/
def TouchEvent.later (delay : Millis) (e : TouchEvent) : TouchEvent :=
  { e with time := e.time + delay }

/-- The same moment at a later time. -/
structure Moment.LaterBy (delta : Nat) (m m' : Moment) : Prop where
  answer : m.answer = m'.answer
  issued : m.issued = m'.issued
  controls : m.surface.controls = m'.surface.controls
  routes : m.surface.routes = m'.surface.routes
  claims : m.surface.claims = m'.surface.claims
  timers : m.surface.desk.timers.LaterBy delta m'.surface.desk.timers

namespace Surface
variable {sv : Services} {s s' : Surface} {last now' : Millis} {e : TouchEvent}
  {es : List TouchEvent} {delay : Millis}

abbrev LaterAlike (delta : Nat) (last : Millis) (s s' : Surface) : Prop :=
  s.Alike Eq (Desk.LaterBy delta last) s'

namespace LaterAlike

theorem mono {last' : Millis} (hl : last ≤ last') (h : s.LaterAlike delta last s') :
    s.LaterAlike delta last' s' :=
  ⟨h.size, h.desk.mono hl, h.controls, h.routes⟩

/-- Both sides have the same claims, so they take the same contacts. -/
theorem take? {d d' : Desk} {site : Site} {p : PointerId} (h : d.LaterBy delta last d') :
    Option.Rel (Desk.LaterBy delta last) (site.take? p d) (site.take? p d') := by
  unfold Site.take?
  rw [h.claims]
  cases d'.claims.take? p site.id site.passThrough with
  | none => exact .none
  | some c => exact .some ⟨rfl, h.timers, h.wf, h.wf', h.now_le⟩

theorem route (hroom : sv.HasRoom delta last) (h : s.LaterAlike delta last s') (e : TouchEvent) :
    (s.route sv e).state.LaterAlike delta last (s'.route sv e).state ∧
      (s.route sv e).issued = (s'.route sv e).issued ∧
      (s.route sv e).consumed = (s'.route sv e).consumed :=
  Alike.route (Desk.LaterBy.pairing hroom) h fun _ _ _ hc => hc ▸ take? h.desk

/-- If the sides are alike after the timers that come before a touch, they are alike after it. -/
theorem moment_of_advance (hroom : sv.HasRoom delta e.time)
    (ha : (s.advance sv e.time).state.LaterAlike delta e.time
      (s'.advance sv (e.later delay).time).state)
    (hi : (s.advance sv e.time).issued = (s'.advance sv (e.later delay).time).issued) :
    (s.moment sv (.touch e)).LaterBy delta (s'.moment sv (.touch (e.later delay))) ∧
      (s.touch sv e).state.LaterAlike delta e.time (s'.touch sv (e.later delay)).state := by
  obtain ⟨hstate, hissued, hc⟩ := ha.route hroom e
  have hcontrols := hstate.controls
  rw [List.forall₂_eq_eq_eq] at hcontrols
  refine ⟨⟨congrArg Answer.touched hc, ?_, hcontrols, hstate.routes, ?_, ?_⟩, hstate⟩
  · exact congrArg₂ (· ++ ·) hi hissued
  · exact hstate.desk.claims
  · exact hstate.desk.timers

/-- Before the first touch nothing is measured from a clock, so it does not matter what it shows. -/
theorem first_advance (sv : Services) (hq : s.desk.timers = .empty)
    (hl : Millis.LaterBy delta e.time (e.later delay).time) :
    (s.advance sv e.time).state.LaterAlike delta e.time (s.advance sv (e.later delay).time).state ∧
      (s.advance sv e.time).issued = (s.advance sv (e.later delay).time).issued := by
  have hp (now : Millis) : s.popExpired? now = none := by
    refine Option.map_eq_none_iff.2 ?_
    rw [hq, TimerQueue.popExpired?_eq_none_iff]
    intro d hd
    exact absurd hd Std.ExtTreeMap.not_mem_empty
  have hzero (t : Millis) : max 0 t = t :=
    Millis.max_eq_right (UInt64.le_iff_toNat_le.2 (Nat.zero_le _))
  rw [advance_of_popExpired?_eq_none (hp _), advance_of_popExpired?_eq_none (hp _)]
  refine ⟨⟨rfl, ?_, ?_, rfl⟩, rfl⟩
  · have hdesk (now : Millis) : (s.tick now).desk =
        { s.desk with timers := TimerQueue.empty.advanceClock now } := by
      rw [← hq]
      rfl
    rw [hdesk, hdesk]
    refine ⟨rfl, ⟨?_, rfl, ?_, fun _ => rfl⟩, TimerQueue.WF.empty.advanceClock _,
      TimerQueue.WF.empty.advanceClock _, ?_⟩
    · show Millis.LaterBy delta (max 0 e.time) (max 0 (e.later delay).time)
      rwa [hzero, hzero]
    · intro h
      have hnone : TimerQueue.empty.deadlines[h]? = none := Std.ExtTreeMap.getElem?_empty
      show Option.Rel _ TimerQueue.empty.deadlines[h]? TimerQueue.empty.deadlines[h]?
      rw [hnone]
      exact .none
    · show max 0 e.time ≤ e.time
      rw [hzero]
      exact UInt64.le_refl _
  · exact List.forall₂_eq_eq_eq ▸ rfl

theorem laterBy_time (hroom : sv.HasRoom delay.toNat e.time) :
    Millis.LaterBy delay.toNat e.time (e.later delay).time := by
  unfold Services.HasRoom at hroom
  show (e.time + delay).toNat = e.time.toNat + delay.toNat
  rw [UInt64.toNat_add, Nat.mod_eq_of_lt (by omega)]

theorem history (h : s.LaterAlike delay.toNat last s') (hle : ∀ e ∈ es, last ≤ e.time)
    (hes : es.Pairwise fun e e' => e.time ≤ e'.time)
    (hroom : ∀ e ∈ es, sv.HasRoom delay.toNat e.time) :
    List.Forall₂ (Moment.LaterBy delay.toNat) (s.history sv (es.map .touch))
      (s'.history sv (es.map fun e => .touch (e.later delay))) := by
  induction es generalizing s s' last with
  | nil => exact .nil
  | cons e es ih =>
    obtain ⟨hfirst, hrest⟩ := List.pairwise_cons.1 hes
    have hroom₁ := hroom e List.mem_cons_self
    obtain ⟨ha, hi, -⟩ := Alike.advance (Desk.LaterBy.pairing hroom₁)
      (Desk.LaterBy.paced (laterBy_time hroom₁)) (h.mono (hle e List.mem_cons_self))
    obtain ⟨hm, hs⟩ := moment_of_advance hroom₁ ha hi
    exact .cons hm (ih hs hfirst hrest fun e' he' => hroom e' (List.mem_cons_of_mem _ he'))

end LaterAlike

theorem timers_laidOut (sv : Services) (size : SurfaceSize) (cfgs : List ControlConfig) :
    (laidOut sv size cfgs).desk.timers = .empty := by
  unfold laidOut
  rcases perform_replaceLayout_cases sv (empty size) cfgs with ⟨-, h⟩ | ⟨-, h⟩
  · rw [h, mountAll_eq]
    rfl
  · rw [h]
    rfl

/-- **Only elapsed time matters.** The touches come with times that do not decrease, and all of them
later by the same delay, which leaves room for the timers before the end of time. Each touch has the
same answer, the same requests and so the same events, and it leaves the same controls, routes and
claims, and the same timers with the same owners, with each deadline and the clock later by exactly
the delay. -/
theorem only_elapsed_time_matters (sv : Services) (size : SurfaceSize) (cfgs : List ControlConfig)
    (es : List TouchEvent) (delay : Millis) (hes : es.Pairwise fun e e' => e.time ≤ e'.time)
    (hroom : ∀ e ∈ es, e.time.toNat + delay.toNat + sv.tuning.idleTimeout.toNat +
      sv.tuning.clickTimeout.toNat ≤ 0xffffffffffffffff) :
    let start := laidOut sv size cfgs
    let ops := es.map Operation.touch
    let ops' := es.map fun e => Operation.touch (e.later delay)
    List.Forall₂ (Moment.LaterBy delay.toNat) (start.history sv ops) (start.history sv ops') ∧
      start.recorded sv ops = start.recorded sv ops' := by
  intro start ops ops'
  have hroom : ∀ e ∈ es, sv.HasRoom delay.toNat e.time := hroom
  have hms : List.Forall₂ (Moment.LaterBy delay.toNat) (start.history sv ops)
      (start.history sv ops') := by
    cases es with
    | nil => exact .nil
    | cons e es =>
      obtain ⟨hfirst, hrest⟩ := List.pairwise_cons.1 hes
      have hroom₁ := hroom e List.mem_cons_self
      obtain ⟨ha, hi⟩ := LaterAlike.first_advance sv (timers_laidOut sv size cfgs)
        (LaterAlike.laterBy_time hroom₁)
      obtain ⟨hm, hs⟩ := LaterAlike.moment_of_advance hroom₁ ha hi
      exact .cons hm (hs.history hfirst hrest fun e' he' => hroom e' (List.mem_cons_of_mem _ he'))
  refine ⟨hms, recorded_congr ?_⟩
  rw [← List.forall₂_eq_eq_eq, List.forall₂_map_left_iff, List.forall₂_map_right_iff]
  exact hms.imp fun _ _ h => h.issued

/-- Two taps. The second press comes at the very deadline of the window that the first one opened. -/
def pressAtDeadline : List TouchEvent :=
  [⟨5, .down, ⟨10, 10⟩, 0⟩, ⟨5, .up, ⟨10, 10⟩, 30⟩, ⟨5, .down, ⟨10, 10⟩, 200⟩,
    ⟨5, .up, ⟨10, 10⟩, 220⟩]

/-- In both runs the window closes before the press, with a click whose release is due then. -/
theorem only_elapsed_time_matters_of_pressAtDeadline :
    let start := laidOut {} ⟨100, 100⟩ [lowerPad]
    let early := start.history {} (pressAtDeadline.map Operation.touch)
    let late := start.history {} (pressAtDeadline.map fun e => Operation.touch (e.later 7000))
    List.Forall₂ (Moment.LaterBy 7000) early late ∧
      early.map (·.surface.nextDeadline?) = [some 200, some 200, some 250, some 250] ∧
      late.map (·.surface.nextDeadline?) = [some 7200, some 7200, some 7250, some 7250] :=
  ⟨(only_elapsed_time_matters {} ⟨100, 100⟩ [lowerPad] pressAtDeadline 7000 (by decide +kernel)
    (by decide +kernel)).1, by decide +kernel, by decide +kernel⟩

end Surface
end TouchOverlay
