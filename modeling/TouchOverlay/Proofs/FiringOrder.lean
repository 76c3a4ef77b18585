import Mathlib.Data.List.Induction
import TouchOverlay.Proofs.TimerQueue

/-!
# The order in which timers fire

A client schedules timers, cancels them, moves the clock and takes expired timers from the queue, in
any order. `t ∈ q` says that both tables hold the timer `t`, and `mem_apply_iff` says of every call
which timers are pending after it.

Two things follow for the calls to come. A timer that a call takes from the queue is `Gone`, since no
handle is given out twice. And when a timer `t` fires, everything still to fire is `After t`: what is
pending comes after it in the queue, and what is yet to be scheduled gets a deadline that is not
before the clock and a handle above all others.
-/

namespace TouchOverlay

namespace ExpiredTimer

def due (t : ExpiredTimer) : Due := ⟨t.deadline, t.handle⟩

/-- The earlier deadline fires first, and of two equal ones the earlier handle. -/
def Before (t u : ExpiredTimer) : Prop :=
  t.deadline < u.deadline ∨ t.deadline = u.deadline ∧ t.handle < u.handle

end ExpiredTimer

namespace TimerQueue

instance : Membership ExpiredTimer TimerQueue where
  mem q t := q.deadlines[t.handle]? = some t.deadline ∧ q.byDeadline[t.due]? = some t.owner

variable {q q' : TimerQueue} {t u : ExpiredTimer} {o : ControlId} {delay now : Millis}
  {h : TimerHandle} {d : Due}

theorem mem_def :
    t ∈ q ↔ q.deadlines[t.handle]? = some t.deadline ∧ q.byDeadline[t.due]? = some t.owner :=
  Iff.rfl

theorem WF.mem_iff (wf : q.WF) : t ∈ q ↔ q.byDeadline[t.due]? = some t.owner := by
  refine ⟨And.right, fun ht => ⟨?_, ht⟩⟩
  exact (wf.agree t.due).1 (mem_byDeadline_iff.2 ⟨t.owner, ht⟩)

theorem WF.lt_of_mem (wf : q.WF) (ht : t ∈ q) : t.handle < q.nextHandle := wf.fresh _ _ ht.1

theorem eq_of_mem (ht : t ∈ q) (hu : u ∈ q) (hh : t.handle = u.handle) : t = u := by
  obtain ⟨htd, hto⟩ := ht
  obtain ⟨hud, huo⟩ := hu
  rw [hh, hud] at htd
  have hdue : t.due = u.due := by
    rw [ExpiredTimer.due, ExpiredTimer.due, hh, Option.some.inj htd]
  rw [hdue, huo] at hto
  cases t; cases u
  simp_all

theorem WF.ownerOf?_of_mem (wf : q.WF) (ht : t ∈ q) : q.ownerOf? t.handle = some t.owner :=
  wf.ownerOf?_eq_some_iff.2 ⟨t.deadline, ht.2⟩

/-- Well-formed queues differ in their clock, their next handle or a timer. -/
theorem WF.ext (wf : q.WF) (wf' : q'.WF) (hnow : q.now = q'.now)
    (hnext : q.nextHandle = q'.nextHandle) (hmem : ∀ t, t ∈ q ↔ t ∈ q') : q = q' := by
  have hdue : q.byDeadline = q'.byDeadline := by
    refine Std.ExtTreeMap.ext_getElem? fun d => Option.ext fun o => ?_
    have h := hmem ⟨d.handle, o, d.deadline⟩
    rwa [wf.mem_iff, wf'.mem_iff] at h
  refine TimerQueue.ext hnow hnext hdue ?_
  refine Std.ExtTreeMap.ext_getElem? fun h => Option.ext fun u => ?_
  rw [← wf.agree ⟨u, h⟩, ← wf'.agree ⟨u, h⟩, hdue]

theorem isLE_order_iff {e : Due} : (Due.order d e).isLE ↔
    d.deadline < e.deadline ∨ d.deadline = e.deadline ∧ d.handle ≤ e.handle := by
  rw [Due.order, compareLex, Ordering.isLE_then_iff_and]
  simp only [compareOn, Std.isLE_compare, Std.compare_eq_lt]
  constructor
  · rintro ⟨hle, hlt | hh⟩
    · exact .inl hlt
    · by_cases he : d.deadline = e.deadline
      · exact .inr ⟨he, hh⟩
      · exact .inl (UInt64.lt_of_le_of_ne hle he)
  · rintro (hlt | ⟨he, hh⟩)
    · exact ⟨UInt64.le_of_lt hlt, .inl hlt⟩
    · exact ⟨UInt64.le_of_eq he, .inr hh⟩

/-! ## Pending timers after each operation -/

theorem not_mem_empty : t ∉ TimerQueue.empty := fun ht => by
  have ht := ht.1
  simp [TimerQueue.empty] at ht

theorem mem_removeAll (l : List Due) :
    t ∈ l.foldl remove q ↔ t ∈ q ∧ t.handle ∉ l.map Due.handle := by
  rw [mem_def, mem_def, deadlines_removeAll, byDeadline_removeAll]
  by_cases hh : t.handle ∈ l.map Due.handle
  · simp [hh]
  · have hd : t.due ∉ l := fun hd => hh (List.mem_map.2 ⟨t.due, hd, rfl⟩)
    simp [hh, hd]

theorem WF.mem_schedule (wf : q.WF) : t ∈ (q.schedule o delay).2 ↔
    t ∈ q ∨ t = ⟨q.nextHandle, o, Millis.later q.now delay⟩ := by
  rw [mem_def, deadlines_schedule, byDeadline_schedule]
  obtain ⟨h, o', u⟩ := t
  by_cases hh : q.nextHandle = h
  · subst hh
    have hnew : (⟨q.nextHandle, o', u⟩ : ExpiredTimer) ∉ q := fun ht =>
      Nat.lt_irrefl _ (wf.lt_of_mem ht)
    by_cases hu : Millis.later q.now delay = u
    · subst hu
      simp [hnew, ExpiredTimer.due, eq_comm]
    · simp [hnew, hu, Ne.symm hu]
  · -- the new handle is not in question
    simp [mem_def, ExpiredTimer.due, hh, Ne.symm hh]

theorem mem_cancel : t ∈ (q.cancel h).2 ↔ t ∈ q ∧ t.handle ≠ h := by
  unfold cancel
  split
  · rename_i u _
    exact (mem_removeAll [⟨u, h⟩]).trans (by simp)
  · rename_i hnone
    refine ⟨fun ht => ⟨ht, fun hh => ?_⟩, And.left⟩
    rw [← hh, ht.1] at hnone
    cases hnone

theorem WF.mem_cancelOwnedBy (wf : q.WF) : t ∈ (q.cancelOwnedBy o).2 ↔ t ∈ q ∧ t.owner ≠ o := by
  refine (mem_removeAll (q.ownedBy o)).trans (and_congr_right fun ht => not_congr ?_)
  constructor
  · intro hh
    obtain ⟨d, hd, hdh⟩ := List.mem_map.1 hh
    have hd := mem_ownedBy.1 hd
    have hdt : d = t.due :=
      wf.eq_of_handle (mem_byDeadline_iff.2 ⟨o, hd⟩) (mem_byDeadline_iff.2 ⟨t.owner, ht.2⟩) hdh
    rw [hdt, ht.2] at hd
    exact Option.some.inj hd
  · rintro rfl
    exact List.mem_map.2 ⟨t.due, mem_ownedBy.2 ht.2, rfl⟩

/-- A turn of one control leaves the timers of the others, with their deadlines. -/
theorem Turn.mem_iff {id : ControlId} {hs hs' : List TimerHandle} (ht : Turn id q hs q' hs')
    (wf : q.WF) (hq : q.Holds id hs) (hne : t.owner ≠ id) : t ∈ q' ↔ t ∈ q := by
  induction ht with
  | done => rfl
  | schedule delay _ ih =>
    rw [ih (wf.schedule id delay) (hq.schedule wf delay), wf.mem_schedule]
    exact or_iff_left fun he => hne (congrArg ExpiredTimer.owner he)
  | cancel hm _ ih =>
    rw [ih (wf.cancel _) (hq.erase _ fun _ => ownerOf?_cancel), mem_cancel]
    refine and_iff_left_of_imp fun ht hh => hne ?_
    have ho := wf.ownerOf?_of_mem ht
    rw [hh, (hq.owner _).2 hm] at ho
    exact (Option.some.inj ho).symm

theorem mem_popExpired? (hp : q.popExpired? now = some (t, q')) :
    u ∈ q' ↔ u ∈ q ∧ u.handle ≠ t.handle := by
  obtain ⟨-, -, -, rfl⟩ := popExpired?_eq_some hp
  exact (mem_removeAll [⟨t.deadline, t.handle⟩]).trans (by simp)

/-- The timer that is taken is pending and due, and comes before all others that are pending. -/
theorem WF.first_of_popExpired? (wf : q.WF) (hp : q.popExpired? now = some (t, q')) :
    t ∈ q ∧ t.deadline ≤ now ∧ ∀ u ∈ q, u = t ∨ t.Before u := by
  obtain ⟨hf, hle, ho, -⟩ := popExpired?_eq_some hp
  have ht : t ∈ q := wf.mem_iff.2 ho
  refine ⟨ht, hle, fun u hu => ?_⟩
  have hle : (Due.order t.due u.due).isLE :=
    (first?_eq_some_iff.1 hf).2 u.due (mem_byDeadline_iff.2 ⟨u.owner, hu.2⟩)
  rcases isLE_order_iff.1 hle with hlt | ⟨hd, hh⟩
  · exact .inr (.inl hlt)
  · rcases Nat.eq_or_lt_of_le hh with hh | hlt
    · exact .inl (eq_of_mem hu ht hh.symm)
    · exact .inr (.inr ⟨hd, hlt⟩)

theorem WF.isSome_popExpired?_iff (wf : q.WF) :
    (q.popExpired? now).isSome = true ↔ ∃ t ∈ q, t.deadline ≤ now := by
  constructor
  · intro hp
    obtain ⟨⟨t, q'⟩, hp⟩ := Option.isSome_iff_exists.1 hp
    obtain ⟨ht, hle, -⟩ := wf.first_of_popExpired? hp
    exact ⟨t, ht, hle⟩
  · rintro ⟨t, ht, hle⟩
    rw [Option.isSome_iff_ne_none]
    intro hnone
    have hlt := popExpired?_eq_none_iff.1 hnone t.due (mem_byDeadline_iff.2 ⟨t.owner, ht.2⟩)
    exact UInt64.not_lt.2 hle hlt

/-! ## Calls -/

/-- A call of a client. Delays are in nanoseconds. -/
inductive Call
  | schedule (owner : ControlId) (nanoseconds : Nat)
  | cancel (h : TimerHandle)
  | cancelOwnedBy (owner : ControlId)
  | advanceClock (now : Millis)
  | popExpired (now : Millis)

namespace Call

def apply (q : TimerQueue) : Call → TimerQueue
  | schedule owner nanoseconds => (q.schedule owner (.ofNanoseconds nanoseconds)).2
  | cancel h => (q.cancel h).2
  | cancelOwnedBy owner => (q.cancelOwnedBy owner).2
  | advanceClock now => q.advanceClock now
  | popExpired now => ((q.popExpired? now).map (·.2)).getD q

def fired? (q : TimerQueue) : Call → Option ExpiredTimer
  | popExpired now => (q.popExpired? now).map (·.1)
  | _ => none

/-- The timer that a call adds to the queue. -/
def scheduled? (q : TimerQueue) : Call → Option ExpiredTimer
  | schedule owner nanoseconds =>
    some ⟨q.nextHandle, owner, Millis.later q.now (.ofNanoseconds nanoseconds)⟩
  | _ => none

/-- A call takes the timer with the handle from the queue: it cancels it, by its handle or with all
timers of its owner, or it returns it. -/
def Removes (q : TimerQueue) (h : TimerHandle) : Call → Prop
  | cancel h' => h' = h ∧ (q.cancel h').1 = true
  | cancelOwnedBy owner => ∃ t ∈ q, t.handle = h ∧ t.owner = owner
  | popExpired now => ∃ t q', q.popExpired? now = some (t, q') ∧ t.handle = h
  | _ => False

end Call

def run (calls : List Call) (q : TimerQueue) : TimerQueue := calls.foldl Call.apply q

/-- The timers that calls return, in order. -/
def fired : List Call → TimerQueue → List ExpiredTimer
  | [], _ => []
  | c :: calls, q => (c.fired? q).toList ++ fired calls (c.apply q)

variable {c : Call} {calls : List Call}

theorem run_concat (calls : List Call) (c : Call) (q : TimerQueue) :
    run (calls ++ [c]) q = c.apply (run calls q) := by
  rw [run, List.foldl_append]
  rfl

theorem fired?_eq_some (hf : c.fired? q = some t) :
    ∃ now, c = .popExpired now ∧ q.popExpired? now = some (t, c.apply q) := by
  cases c with
  | popExpired now =>
    obtain ⟨⟨t', q'⟩, hp, rfl⟩ := Option.map_eq_some_iff.1 hf
    exact ⟨now, rfl, by simp [Call.apply, hp]⟩
  | _ => cases hf

theorem WF.apply (wf : q.WF) (c : Call) : (c.apply q).WF := by
  cases c with
  | schedule owner nanoseconds => exact wf.schedule owner _
  | cancel h => exact wf.cancel h
  | cancelOwnedBy owner => exact wf.cancelOwnedBy owner
  | advanceClock now => exact wf.advanceClock now
  | popExpired now =>
    cases hp : q.popExpired? now with
    | none => simpa [Call.apply, hp] using wf
    | some r => simpa [Call.apply, hp] using wf.popExpired? hp

theorem WF.run (wf : q.WF) (calls : List Call) : (run calls q).WF := by
  induction calls generalizing q with
  | nil => exact wf
  | cons c calls ih => exact ih (wf.apply c)

theorem now_le_apply (q : TimerQueue) (c : Call) : q.now ≤ (c.apply q).now := by
  cases c with
  | schedule owner nanoseconds => exact UInt64.le_refl _
  | cancel h => exact UInt64.le_of_eq now_cancel.symm
  | cancelOwnedBy owner => exact UInt64.le_of_eq (now_removeAll _).symm
  | advanceClock now => exact Millis.le_max_left
  | popExpired now =>
    cases hp : q.popExpired? now with
    | none => simp [Call.apply, hp]
    | some r =>
      simp only [Call.apply, hp, Option.map_some, Option.getD_some, (now_popExpired? hp).1]
      exact Millis.le_max_left

theorem nextHandle_le_apply (q : TimerQueue) (c : Call) :
    q.nextHandle ≤ (c.apply q).nextHandle := by
  cases c with
  | schedule owner nanoseconds => exact Nat.le_succ _
  | cancel h => exact Nat.le_of_eq nextHandle_cancel.symm
  | cancelOwnedBy owner => exact Nat.le_of_eq nextHandle_cancelOwnedBy.symm
  | advanceClock now => exact Nat.le_refl _
  | popExpired now =>
    cases hp : q.popExpired? now with
    | none => simp [Call.apply, hp]
    | some r => simp [Call.apply, hp, nextHandle_popExpired? hp]

/-- The timers that are pending after a call: those it has left, and the one it has scheduled. -/
theorem WF.mem_apply_iff (wf : q.WF) :
    t ∈ c.apply q ↔ t ∈ q ∧ ¬ c.Removes q t.handle ∨ c.scheduled? q = some t := by
  cases c with
  | schedule owner nanoseconds =>
    show t ∈ (q.schedule owner (.ofNanoseconds nanoseconds)).2 ↔ _
    rw [wf.mem_schedule]
    simp [Call.Removes, Call.scheduled?, eq_comm]
  | cancel h =>
    show t ∈ (q.cancel h).2 ↔ _
    rw [mem_cancel]
    simp only [Call.Removes, Call.scheduled?, reduceCtorEq, or_false]
    refine and_congr_right fun ht => not_congr ⟨fun hh => ⟨hh.symm, ?_⟩, fun hr => hr.1.symm⟩
    rw [← hh, TimerQueue.cancel, ht.1]
  | cancelOwnedBy owner =>
    show t ∈ (q.cancelOwnedBy owner).2 ↔ _
    rw [wf.mem_cancelOwnedBy]
    simp only [Call.Removes, Call.scheduled?, reduceCtorEq, or_false]
    refine and_congr_right fun ht => not_congr ⟨fun ho => ⟨t, ht, rfl, ho⟩, ?_⟩
    rintro ⟨u, hu, hh, ho⟩
    rwa [← eq_of_mem hu ht hh]
  | advanceClock now =>
    show t ∈ q ↔ _
    simp [Call.Removes, Call.scheduled?]
  | popExpired now =>
    simp only [Call.Removes, Call.scheduled?, reduceCtorEq, or_false, Call.apply]
    cases hp : q.popExpired? now with
    | none => simp
    | some r =>
      obtain ⟨u, q'⟩ := r
      simp only [Option.map_some, Option.getD_some, mem_popExpired? hp]
      refine and_congr_right fun _ => not_congr ⟨fun hh => ⟨u, q', rfl, hh.symm⟩, ?_⟩
      rintro ⟨_, _, he, hh⟩
      cases he
      exact hh.symm

/-! ## Timers that have left the queue -/

/-- The timer with the handle has been scheduled and is pending no more. -/
structure Gone (h : TimerHandle) (q : TimerQueue) : Prop where
  lt : h < q.nextHandle
  not_mem : ∀ t ∈ q, t.handle ≠ h

theorem Gone.apply (wf : q.WF) (hg : q.Gone h) (c : Call) : (c.apply q).Gone h := by
  refine ⟨Nat.lt_of_lt_of_le hg.lt (nextHandle_le_apply q c), fun t ht => ?_⟩
  rcases wf.mem_apply_iff.1 ht with ⟨ht, -⟩ | hs
  · exact hg.not_mem t ht
  · cases c with
    | schedule owner nanoseconds =>
      cases hs
      exact Nat.ne_of_gt hg.lt
    | _ => cases hs

theorem WF.gone_of_removes (wf : q.WF) (hr : c.Removes q h) : (c.apply q).Gone h := by
  obtain ⟨t, ht, rfl⟩ : ∃ t ∈ q, t.handle = h := by
    cases c with
    | cancel h' =>
      obtain ⟨rfl, hc⟩ := hr
      unfold TimerQueue.cancel at hc
      split at hc
      · rename_i deadline hd
        obtain ⟨o, ho⟩ := mem_byDeadline_iff.1 ((wf.agree ⟨deadline, h'⟩).2 hd)
        exact ⟨⟨h', o, deadline⟩, ⟨hd, ho⟩, rfl⟩
      · cases hc
    | cancelOwnedBy owner =>
      obtain ⟨t, ht, hh, -⟩ := hr
      exact ⟨t, ht, hh⟩
    | popExpired now =>
      obtain ⟨t, q', hp, hh⟩ := hr
      exact ⟨t, (wf.first_of_popExpired? hp).1, hh⟩
    | _ => exact hr.elim
  have hlt := wf.lt_of_mem ht
  refine ⟨Nat.lt_of_lt_of_le hlt (nextHandle_le_apply q c), fun u hu hh => ?_⟩
  rcases wf.mem_apply_iff.1 hu with ⟨-, hn⟩ | hs
  · exact hn (hh ▸ hr)
  · cases c with
    | schedule owner nanoseconds => exact hr
    | _ => cases hs

theorem Gone.not_fired (wf : q.WF) (hg : q.Gone h) (calls : List Call) :
    ∀ t ∈ fired calls q, t.handle ≠ h := by
  induction calls generalizing q with
  | nil => exact fun t ht => absurd ht List.not_mem_nil
  | cons c calls ih =>
    intro t ht
    rcases List.mem_append.1 ht with ht | ht
    · obtain ⟨now, -, hp⟩ := fired?_eq_some (Option.mem_toList.1 ht)
      exact hg.not_mem t (wf.first_of_popExpired? hp).1
    · exact ih (wf.apply c) (hg.apply wf c) t ht

/-! ## Timers that are still to fire -/

/-- Whatever is pending comes after the timer `t`, and so will whatever is scheduled. -/
structure After (t : ExpiredTimer) (q : TimerQueue) : Prop where
  now : t.deadline ≤ q.now
  handle : t.handle < q.nextHandle
  before : ∀ u ∈ q, t.Before u

theorem WF.after_popExpired? (wf : q.WF) (hp : q.popExpired? now = some (t, q')) : q'.After t := by
  obtain ⟨ht, -, hfirst⟩ := wf.first_of_popExpired? hp
  refine ⟨?_, ?_, fun u hu => ?_⟩
  · rw [(now_popExpired? hp).1]
    exact Millis.le_max_right
  · rw [nextHandle_popExpired? hp]
    exact wf.lt_of_mem ht
  · obtain ⟨hu, hne⟩ := (mem_popExpired? hp).1 hu
    exact (hfirst u hu).resolve_left fun he => hne (congrArg ExpiredTimer.handle he)

theorem After.apply (wf : q.WF) (ha : q.After t) (c : Call) : (c.apply q).After t := by
  refine ⟨UInt64.le_trans ha.now (now_le_apply q c),
    Nat.lt_of_lt_of_le ha.handle (nextHandle_le_apply q c), fun u hu => ?_⟩
  rcases wf.mem_apply_iff.1 hu with ⟨hu, -⟩ | hs
  · exact ha.before u hu
  · cases c with
    | schedule owner nanoseconds =>
      cases hs
      -- the deadline may be that of `t`, and then the new handle decides
      have hle : t.deadline ≤ Millis.later q.now (.ofNanoseconds nanoseconds) :=
        UInt64.le_trans ha.now Millis.le_later
      by_cases he : t.deadline = Millis.later q.now (.ofNanoseconds nanoseconds)
      · exact .inr ⟨he, ha.handle⟩
      · exact .inl (UInt64.lt_of_le_of_ne hle he)
    | _ => cases hs

theorem After.fired (wf : q.WF) (ha : q.After t) (calls : List Call) :
    ∀ u ∈ fired calls q, t.Before u := by
  induction calls generalizing q with
  | nil => exact fun u hu => absurd hu List.not_mem_nil
  | cons c calls ih =>
    intro u hu
    rcases List.mem_append.1 hu with hu | hu
    · obtain ⟨now, -, hp⟩ := fired?_eq_some (Option.mem_toList.1 hu)
      exact ha.before u (wf.first_of_popExpired? hp).1
    · exact ih (wf.apply c) (ha.apply wf c) u hu

theorem WF.pairwise_fired (wf : q.WF) (calls : List Call) :
    (fired calls q).Pairwise ExpiredTimer.Before := by
  induction calls generalizing q with
  | nil => exact .nil
  | cons c calls ih =>
    rw [fired]
    cases hf : c.fired? q with
    | none => exact ih (wf.apply c)
    | some t =>
      obtain ⟨now, -, hp⟩ := fired?_eq_some hf
      exact List.pairwise_cons.2
        ⟨(wf.after_popExpired? hp).fired (wf.apply c) calls, ih (wf.apply c)⟩

/-! ## Where a pending timer comes from -/

theorem toNat_ofNanoseconds (n : Nat) :
    (Millis.ofNanoseconds n).toNat = min (n / 1000000) 0xffffffffffffffff := by
  unfold Millis.ofNanoseconds
  rw [UInt64.toNat_ofNat']
  omega

/-- A pending timer has been scheduled, for the owner that it has and with the deadline that it has
got then. -/
theorem exists_schedule_of_mem (calls : List Call) (ht : t ∈ run calls .empty) :
    ∃ past nanoseconds, past ++ [.schedule t.owner nanoseconds] <+: calls ∧
      t.handle = ((run past .empty).schedule t.owner (.ofNanoseconds nanoseconds)).1 ∧
      t.deadline.toNat =
        min ((run past .empty).now.toNat + nanoseconds / 1000000) 0xffffffffffffffff := by
  induction calls using List.reverseRecOn with
  | nil => exact absurd ht not_mem_empty
  | append_singleton calls c ih =>
    rw [run_concat] at ht
    rcases (WF.empty.run calls).mem_apply_iff.1 ht with ⟨ht, -⟩ | hs
    · obtain ⟨past, nanoseconds, hpast, hrest⟩ := ih ht
      exact ⟨past, nanoseconds, hpast.trans (List.prefix_append _ _), hrest⟩
    · cases c with
      | schedule owner nanoseconds =>
        cases hs
        refine ⟨calls, nanoseconds, List.prefix_refl _, rfl, ?_⟩
        rw [Millis.toNat_later, toNat_ofNanoseconds]
        omega
      | _ => cases hs

/-- **Timers fire in order, on time and at most once**, whatever a client of a new queue does. The
timers that it gets back come in the order of their deadlines and handles over the whole run. It
gets one just if one is due, and then the first of those that are pending. That one has been
scheduled for the owner that it carries, and its deadline is the clock of that time and the delay in
whole milliseconds, or the last instant. A timer that has been returned or cancelled never comes
back. -/
theorem timers_fire_in_order (calls : List Call) :
    let q := run calls .empty
    (fired calls .empty).Pairwise ExpiredTimer.Before ∧
    (∀ now, (q.popExpired? now).isSome = true ↔ ∃ t ∈ q, t.deadline ≤ now) ∧
    (∀ now t q', q.popExpired? now = some (t, q') →
      (t ∈ q ∧ ∀ u ∈ q, u = t ∨ t.Before u) ∧
      ∃ past nanoseconds, past ++ [.schedule t.owner nanoseconds] <+: calls ∧
        t.handle = ((run past .empty).schedule t.owner (.ofNanoseconds nanoseconds)).1 ∧
        t.deadline.toNat =
          min ((run past .empty).now.toNat + nanoseconds / 1000000) 0xffffffffffffffff) ∧
    ∀ past c rest h, calls = past ++ c :: rest → c.Removes (run past .empty) h →
      ∀ t ∈ fired rest (run (past ++ [c]) .empty), t.handle ≠ h := by
  intro q
  have wf : q.WF := WF.empty.run calls
  refine ⟨WF.empty.pairwise_fired calls, fun now => wf.isSome_popExpired?_iff,
    fun now t q' hp => ?_, fun past c rest h _ hr => ?_⟩
  · obtain ⟨ht, -, hfirst⟩ := wf.first_of_popExpired? hp
    exact ⟨⟨ht, hfirst⟩, exists_schedule_of_mem calls ht⟩
  · have wfp : (run past .empty).WF := WF.empty.run past
    rw [run_concat]
    exact (wfp.gone_of_removes hr).not_fired (wfp.apply c) rest

/-- Two timers of one deadline, one of which is cancelled, and a later one that is due earlier. The
last is scheduled after the first of them has fired, without a delay. -/
def fourTimers : List Call :=
  [.schedule (.ofNat 1) 5000000, .schedule (.ofNat 2) 5999999, .schedule (.ofNat 3) 1000000,
    .cancel 1, .popExpired 9, .popExpired 9, .schedule (.ofNat 2) 0, .popExpired 9]

theorem timers_fire_in_order_of_fourTimers :
    (fired fourTimers .empty).map ExpiredTimer.due = [⟨1, 2⟩, ⟨5, 0⟩, ⟨5, 3⟩] ∧
      (fired fourTimers .empty).Pairwise ExpiredTimer.Before ∧
      Call.Removes (run (fourTimers.take 3) .empty) 1 (.cancel 1) ∧
      ∀ t ∈ fired (fourTimers.drop 4) (run (fourTimers.take 4) .empty), t.handle ≠ 1 := by
  obtain ⟨horder, -, -, hgone⟩ := timers_fire_in_order fourTimers
  have hr : Call.Removes (run (fourTimers.take 3) .empty) 1 (.cancel 1) :=
    ⟨rfl, by decide +kernel⟩
  exact ⟨by decide +kernel, horder, hr, hgone (fourTimers.take 3) _ (fourTimers.drop 4) 1 rfl hr⟩

end TimerQueue
end TouchOverlay
