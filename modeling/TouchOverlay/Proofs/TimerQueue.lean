import TouchOverlay.TimerQueue

/-!
# The two tables of a timer queue

`WF`: the table by deadline and the table by handle hold the same timers, and every handle to come
is above theirs. Through it the queue reads as one map, `ownerOf?`, from the handles of the pending
timers to their owners, and each operation is one line about that map.

`Turn` is what a control does to the queue while it handles one call: it schedules timers of its
own and cancels timers that it holds. Whatever holds of every turn (`Turn.wf`, `Turn.holds`,
`Turn.frame`, `Turn.fresh`) is proved here once.
-/

namespace TouchOverlay

/-! ## Deadlines -/

namespace Millis
variable {t u delay : Millis}

theorem toNat_last : (0xffffffffffffffff : Millis).toNat = 0xffffffffffffffff := rfl

theorem toNat_later (t delay : Millis) :
    (later t delay).toNat = min (t.toNat + delay.toNat) 0xffffffffffffffff := by
  unfold later
  split
  · rename_i h
    rw [UInt64.toNat_add, Nat.mod_eq_of_lt h]
    omega
  · rw [toNat_last]
    omega

theorem later_mono {delay' : Millis} (ht : t ≤ u) (hd : delay ≤ delay') :
    later t delay ≤ later u delay' := by
  rw [UInt64.le_iff_toNat_le] at *
  rw [toNat_later, toNat_later]
  omega

theorem later_zero : later t 0 = t := by
  have ht := t.toNat_lt
  rw [← UInt64.toNat_inj, toNat_later, UInt64.toNat_zero]
  omega

theorem le_last : t ≤ 0xffffffffffffffff := by
  have ht := t.toNat_lt
  rw [UInt64.le_iff_toNat_le, toNat_last]
  omega

theorem later_last : later t 0xffffffffffffffff = 0xffffffffffffffff := by
  rw [← UInt64.toNat_inj, toNat_later, toNat_last]
  omega

theorem le_later : t ≤ later t delay := by
  have ht := t.toNat_lt
  rw [UInt64.le_iff_toNat_le, toNat_later]
  omega

theorem toNat_max (t u : Millis) : (max t u).toNat = max t.toNat u.toNat := by
  show (if t ≤ u then u else t).toNat = _
  split <;> simp only [UInt64.le_iff_toNat_le] at * <;> omega

theorem le_max_left : t ≤ max t u := by
  rw [UInt64.le_iff_toNat_le, toNat_max]
  exact Nat.le_max_left _ _

theorem le_max_right : u ≤ max t u := by
  rw [UInt64.le_iff_toNat_le, toNat_max]
  exact Nat.le_max_right _ _

theorem max_eq_left (h : u ≤ t) : max t u = t := by
  rw [UInt64.le_iff_toNat_le] at h
  rw [← UInt64.toNat_inj, toNat_max]
  omega

theorem max_eq_right (h : t ≤ u) : max t u = u := by
  rw [UInt64.le_iff_toNat_le] at h
  rw [← UInt64.toNat_inj, toNat_max]
  omega

theorem max_max_of_le {v : Millis} (h : u ≤ v) : max (max t u) v = max t v := by
  rw [UInt64.le_iff_toNat_le] at h
  rw [← UInt64.toNat_inj, toNat_max, toNat_max, toNat_max]
  omega

theorem max_le {v : Millis} : max t u ≤ v ↔ t ≤ v ∧ u ≤ v := by
  simp only [UInt64.le_iff_toNat_le, toNat_max]
  exact Nat.max_le

theorem max_lt {v : Millis} : max t u < v ↔ t < v ∧ u < v := by
  simp only [UInt64.lt_iff_toNat_lt, toNat_max]
  exact Nat.max_lt

/-- A positive delay leads beyond the present, or to the last instant. -/
theorem lt_later (hd : delay ≠ 0) : t < later t delay ∨ later t delay = 0xffffffffffffffff := by
  rw [Ne, ← UInt64.toNat_inj, UInt64.toNat_zero] at hd
  rw [UInt64.lt_iff_toNat_lt, ← UInt64.toNat_inj, toNat_later, toNat_last]
  omega

end Millis

namespace TimerQueue

/-- Both tables hold the same timers, and no handle of theirs is still to be given out. -/
structure WF (q : TimerQueue) : Prop where
  agree : ∀ d, d ∈ q.byDeadline ↔ q.deadlines[d.handle]? = some d.deadline
  fresh : ∀ h t, q.deadlines[h]? = some t → h < q.nextHandle

def ownerOf? (q : TimerQueue) (h : TimerHandle) : Option ControlId :=
  q.deadlines[h]?.bind fun t => q.byDeadline[(⟨t, h⟩ : Due)]?

variable {q q' : TimerQueue} {o o' : ControlId} {delay now : Millis} {d e : Due}
  {h h' : TimerHandle} {t : ExpiredTimer}

theorem isPending_eq : q.isPending h = q.deadlines[h]?.isSome := by
  rw [isPending, Std.ExtTreeMap.contains_eq_isSome_getElem?]

theorem mem_byDeadline_iff : d ∈ q.byDeadline ↔ ∃ o, q.byDeadline[d]? = some o := by
  rw [Std.ExtTreeMap.mem_iff_isSome_getElem?, Option.isSome_iff_exists]

theorem mem_ownedBy : d ∈ q.ownedBy o ↔ q.byDeadline[d]? = some o := by
  simp only [ownedBy, List.mem_map, List.mem_filter, decide_eq_true_eq, Prod.exists]
  constructor
  · rintro ⟨d', o', ⟨hm, rfl⟩, rfl⟩
    exact Std.ExtTreeMap.mem_toList_iff_getElem?_eq_some.1 hm
  · intro hd
    exact ⟨d, o, ⟨Std.ExtTreeMap.mem_toList_iff_getElem?_eq_some.2 hd, rfl⟩, rfl⟩

/-! ## The first timer -/

theorem first?_eq_some_iff :
    q.first? = some d ↔ d ∈ q.byDeadline ∧ ∀ e ∈ q.byDeadline, (Due.order d e).isLE := by
  rw [first?, ← Std.ExtTreeMap.minKey?_eq_head?_keys,
    Std.ExtTreeMap.minKey?_eq_some_iff_mem_and_forall]

theorem first?_eq_none_iff : q.first? = none ↔ ∀ d, d ∉ q.byDeadline := by
  rw [first?, ← Std.ExtTreeMap.minKey?_eq_head?_keys, Std.ExtTreeMap.minKey?_eq_none_iff,
    Std.ExtTreeMap.eq_empty_iff_forall_not_mem]

theorem deadline_le_of_order (hd : (Due.order d e).isLE) : d.deadline ≤ e.deadline := by
  rw [Due.order, compareLex, Ordering.isLE_then_iff_and] at hd
  exact Std.isLE_compare.1 hd.1

/-- Taking a timer: it is the first one, it is due, and it leaves both tables. -/
theorem popExpired?_eq_some (hp : q.popExpired? now = some (t, q')) :
    q.first? = some ⟨t.deadline, t.handle⟩ ∧ t.deadline ≤ now ∧
      q.byDeadline[(⟨t.deadline, t.handle⟩ : Due)]? = some t.owner ∧
      q' = (q.remove ⟨t.deadline, t.handle⟩).advanceClock t.deadline := by
  obtain ⟨d, hd, hp⟩ := Option.bind_eq_some_iff.1 hp
  split at hp
  · cases hp
  · rename_i hle
    obtain ⟨o, ho, hp⟩ := Option.map_eq_some_iff.1 hp
    cases hp
    exact ⟨hd, UInt64.not_lt.1 hle, ho, rfl⟩

theorem popExpired?_eq_none_iff :
    q.popExpired? now = none ↔ ∀ d ∈ q.byDeadline, now < d.deadline := by
  unfold popExpired?
  cases hf : q.first? with
  | none => simp [first?_eq_none_iff.1 hf]
  | some d =>
    obtain ⟨hd, hmin⟩ := first?_eq_some_iff.1 hf
    obtain ⟨o, ho⟩ := mem_byDeadline_iff.1 hd
    simp only [Option.bind_some, ho, Option.map_some, ite_eq_left_iff, reduceCtorEq, imp_false,
      Decidable.not_not]
    exact ⟨fun hlt e he => UInt64.lt_of_lt_of_le hlt (deadline_le_of_order (hmin e he)),
      fun hall => hall d hd⟩

/-! ## Removing timers -/

theorem byDeadline_removeAll (l : List Due) :
    (l.foldl remove q).byDeadline[e]? = if e ∈ l then none else q.byDeadline[e]? := by
  induction l generalizing q with
  | nil => simp
  | cons d l ih =>
    rw [List.foldl_cons, ih, byDeadline_remove]
    by_cases hl : e ∈ l <;> by_cases hd : d = e <;> simp [hl, hd, Ne.symm]

theorem deadlines_removeAll (l : List Due) :
    (l.foldl remove q).deadlines[h]? =
      if h ∈ l.map Due.handle then none else q.deadlines[h]? := by
  induction l generalizing q with
  | nil => simp
  | cons d l ih =>
    rw [List.foldl_cons, ih, deadlines_remove]
    by_cases hd : h = d.handle
    · subst hd; simp
    · simp [hd, Ne.symm hd]

theorem nextHandle_removeAll (l : List Due) : (l.foldl remove q).nextHandle = q.nextHandle := by
  induction l generalizing q with
  | nil => rfl
  | cons d l ih => exact ih

theorem now_removeAll (l : List Due) : (l.foldl remove q).now = q.now := by
  induction l generalizing q with
  | nil => rfl
  | cons d l ih => exact ih

theorem WF.eq_of_handle (wf : q.WF) (hd : d ∈ q.byDeadline) (he : e ∈ q.byDeadline)
    (hh : d.handle = e.handle) : d = e := by
  have hd := (wf.agree d).1 hd
  rw [hh, (wf.agree e).1 he] at hd
  cases d; cases e
  simp_all

theorem WF.removeAll {l : List Due} (wf : q.WF) (hl : ∀ d ∈ l, d ∈ q.byDeadline) :
    (l.foldl remove q).WF := by
  refine ⟨fun e => ?_, fun h t ht => ?_⟩
  · rw [Std.ExtTreeMap.mem_iff_isSome_getElem?, byDeadline_removeAll, deadlines_removeAll]
    by_cases he : e ∈ l
    · simp [he, List.mem_map_of_mem (f := Due.handle) he]
    · by_cases hh : e.handle ∈ l.map Due.handle
      · obtain ⟨d, hd, hde⟩ := List.mem_map.1 hh
        have hn : e ∉ q.byDeadline := fun hq => he (wf.eq_of_handle (hl d hd) hq hde ▸ hd)
        simp [he, hh, hn]
      · simpa [he, hh] using wf.agree e
  · rw [deadlines_removeAll] at ht
    rw [nextHandle_removeAll]
    split at ht
    · cases ht
    · exact wf.fresh h t ht

/-! ## The operations keep the tables in step -/

theorem WF.empty : TimerQueue.empty.WF :=
  ⟨fun d => by simp [TimerQueue.empty], fun h t ht => by simp [TimerQueue.empty] at ht⟩

theorem WF.advanceClock (wf : q.WF) (t : Millis) : (q.advanceClock t).WF := ⟨wf.agree, wf.fresh⟩

theorem WF.schedule (wf : q.WF) (o : ControlId) (delay : Millis) : (q.schedule o delay).2.WF := by
  refine ⟨fun d => ?_, fun h t ht => ?_⟩
  · rw [Std.ExtTreeMap.mem_iff_isSome_getElem?, byDeadline_schedule, deadlines_schedule]
    by_cases hh : q.nextHandle = d.handle
    · have hn : d ∉ q.byDeadline := fun hd =>
        absurd (wf.fresh _ _ ((wf.agree d).1 hd)) (by rw [hh]; exact Nat.lt_irrefl _)
      obtain ⟨t, h⟩ := d
      subst hh
      by_cases ht : Millis.later q.now delay = t <;> simp [ht, hn]
    · have hne : (⟨Millis.later q.now delay, q.nextHandle⟩ : Due) ≠ d := fun h => hh (by rw [← h])
      simpa [hh, hne] using wf.agree d
  · rw [deadlines_schedule] at ht
    show h < q.nextHandle + 1
    split at ht
    · rename_i hh
      exact hh ▸ Nat.lt_succ_self _
    · exact Nat.lt_succ_of_lt (wf.fresh h t ht)

theorem WF.remove (wf : q.WF) (hd : d ∈ q.byDeadline) : (q.remove d).WF :=
  wf.removeAll (l := [d]) (by simpa using hd)

theorem WF.cancel (wf : q.WF) (h : TimerHandle) : (q.cancel h).2.WF := by
  unfold TimerQueue.cancel
  split
  · rename_i t ht
    exact wf.remove ((wf.agree ⟨t, h⟩).2 ht)
  · exact wf

theorem WF.cancelOwnedBy (wf : q.WF) (o : ControlId) : (q.cancelOwnedBy o).2.WF :=
  wf.removeAll fun _ hd => mem_byDeadline_iff.2 ⟨o, mem_ownedBy.1 hd⟩

theorem WF.popExpired? (wf : q.WF) (hp : q.popExpired? now = some (t, q')) : q'.WF := by
  obtain ⟨hf, -, -, rfl⟩ := popExpired?_eq_some hp
  exact (wf.remove (first?_eq_some_iff.1 hf).1).advanceClock _

/-! ## Owners after each operation -/

theorem WF.ownerOf?_eq_some_iff (wf : q.WF) :
    q.ownerOf? h = some o ↔ ∃ t, q.byDeadline[(⟨t, h⟩ : Due)]? = some o := by
  rw [ownerOf?, Option.bind_eq_some_iff]
  exact ⟨fun ⟨t, _, ht⟩ => ⟨t, ht⟩,
    fun ⟨t, ht⟩ => ⟨t, (wf.agree ⟨t, h⟩).1 (mem_byDeadline_iff.2 ⟨o, ht⟩), ht⟩⟩

theorem WF.lt_of_ownerOf? (wf : q.WF) (ho : q.ownerOf? h = some o) : h < q.nextHandle := by
  obtain ⟨t, ht, -⟩ := Option.bind_eq_some_iff.1 ho
  exact wf.fresh h t ht

@[simp] theorem ownerOf?_empty : TimerQueue.empty.ownerOf? h = none := by
  simp [TimerQueue.empty, ownerOf?]

@[simp] theorem ownerOf?_advanceClock {t : Millis} : (q.advanceClock t).ownerOf? h = q.ownerOf? h :=
  rfl

theorem ownerOf?_schedule : (q.schedule o delay).2.ownerOf? h =
    if q.nextHandle = h then some o else q.ownerOf? h := by
  rw [ownerOf?, deadlines_schedule]
  by_cases hh : q.nextHandle = h
  · simp [hh, byDeadline_schedule]
  · simp [hh, byDeadline_schedule, ownerOf?]

theorem ownerOf?_remove :
    (q.remove d).ownerOf? h = if d.handle = h then none else q.ownerOf? h := by
  rw [ownerOf?, deadlines_remove]
  by_cases hh : d.handle = h
  · simp [hh]
  · have hne : ∀ t, d ≠ ⟨t, h⟩ := fun t ht => hh (by rw [ht])
    simp [hh, byDeadline_remove, hne, ownerOf?]

theorem ownerOf?_cancel :
    (q.cancel h').2.ownerOf? h = if h' = h then none else q.ownerOf? h := by
  unfold cancel
  split
  · rw [ownerOf?_remove]
  · rename_i hn
    split
    · subst h'; simp [ownerOf?, hn]
    · rfl

theorem deadlines_cancel :
    (q.cancel h').2.deadlines[h]? = if h' = h then none else q.deadlines[h]? := by
  unfold cancel
  split
  · rw [deadlines_remove]
  · rename_i hn
    split
    · subst h'; exact hn
    · rfl

@[simp] theorem now_cancel : (q.cancel h).2.now = q.now := by
  unfold cancel; split <;> rfl

theorem deadlines_popExpired? (wf : q.WF) (hp : q.popExpired? now = some (t, q')) :
    q.deadlines[t.handle]? = some t.deadline ∧
      ∀ h, q'.deadlines[h]? = if t.handle = h then none else q.deadlines[h]? := by
  obtain ⟨hf, -, -, rfl⟩ := popExpired?_eq_some hp
  exact ⟨(wf.agree ⟨t.deadline, t.handle⟩).1 (first?_eq_some_iff.1 hf).1, fun _ => deadlines_remove⟩

theorem now_popExpired? (hp : q.popExpired? now = some (t, q')) :
    q'.now = max q.now t.deadline ∧ t.deadline ≤ now := by
  obtain ⟨-, hle, -, rfl⟩ := popExpired?_eq_some hp
  exact ⟨rfl, hle⟩

theorem WF.ownerOf?_cancelOwnedBy (wf : q.WF) : (q.cancelOwnedBy o).2.ownerOf? h =
    if q.ownerOf? h = some o then none else q.ownerOf? h := by
  -- a timer is removed if its place is on the list, and the places on the list are those of `o`
  have hr : (q.cancelOwnedBy o).2.ownerOf? h =
      if h ∈ (q.ownedBy o).map Due.handle then none else q.ownerOf? h := by
    show ((q.ownedBy o).foldl TimerQueue.remove q).ownerOf? h = _
    rw [ownerOf?, deadlines_removeAll]
    split
    · rfl
    · rename_i hm
      have hn : ∀ t, (⟨t, h⟩ : Due) ∉ q.ownedBy o := fun t ht => hm (List.mem_map.2 ⟨_, ht, rfl⟩)
      simp [byDeadline_removeAll, hn, ownerOf?]
  rw [hr]
  by_cases ho : q.ownerOf? h = some o
  · obtain ⟨t, ht⟩ := wf.ownerOf?_eq_some_iff.1 ho
    have hm : h ∈ (q.ownedBy o).map Due.handle := List.mem_map.2 ⟨⟨t, h⟩, mem_ownedBy.2 ht, rfl⟩
    simp [ho, hm]
  · have hm : h ∉ (q.ownedBy o).map Due.handle := fun hm => by
      obtain ⟨⟨t, _⟩, hd, rfl⟩ := List.mem_map.1 hm
      exact ho (wf.ownerOf?_eq_some_iff.2 ⟨t, mem_ownedBy.1 hd⟩)
    simp [ho, hm]

theorem WF.ownerOf?_of_popExpired? (wf : q.WF) (hp : q.popExpired? now = some (t, q')) :
    q.ownerOf? t.handle = some t.owner :=
  wf.ownerOf?_eq_some_iff.2 ⟨_, (popExpired?_eq_some hp).2.2.1⟩

theorem ownerOf?_popExpired? (hp : q.popExpired? now = some (t, q')) :
    q'.ownerOf? h = if t.handle = h then none else q.ownerOf? h := by
  obtain ⟨-, -, -, rfl⟩ := popExpired?_eq_some hp
  rw [ownerOf?_advanceClock, ownerOf?_remove]

theorem nextHandle_cancel : (q.cancel h).2.nextHandle = q.nextHandle := by
  unfold cancel; split <;> rfl

theorem nextHandle_cancelOwnedBy : (q.cancelOwnedBy o).2.nextHandle = q.nextHandle :=
  nextHandle_removeAll _

theorem nextHandle_popExpired? (hp : q.popExpired? now = some (t, q')) :
    q'.nextHandle = q.nextHandle := by
  obtain ⟨-, -, -, rfl⟩ := popExpired?_eq_some hp
  rfl

/-! ## Turns -/

/-- The pending timers of a control are the given ones, each of them once. -/
structure Holds (q : TimerQueue) (id : ControlId) (hs : List TimerHandle) : Prop where
  nodup : hs.Nodup
  owner : ∀ h, q.ownerOf? h = some id ↔ h ∈ hs

/-- What a control that holds the timers `hs` does to the queue `q` in one call, which leaves it
the timers `hs'`: it schedules timers of its own and cancels timers that it holds. -/
inductive Turn (id : ControlId) :
    TimerQueue → List TimerHandle → TimerQueue → List TimerHandle → Prop
  | done {q : TimerQueue} {hs hs' : List TimerHandle} : hs.Perm hs' → Turn id q hs q hs'
  | schedule {q q' : TimerQueue} {hs hs' : List TimerHandle} (delay : Millis) :
      Turn id (q.schedule id delay).2 (q.nextHandle :: hs) q' hs' → Turn id q hs q' hs'
  | cancel {q q' : TimerQueue} {hs hs' : List TimerHandle} {h : TimerHandle} :
      h ∈ hs → Turn id (q.cancel h).2 (hs.erase h) q' hs' → Turn id q hs q' hs'

section Holds
variable {id : ControlId} {hs : List TimerHandle}

theorem Holds.schedule (wf : q.WF) (hq : q.Holds id hs) (delay : Millis) :
    (q.schedule id delay).2.Holds id (q.nextHandle :: hs) := by
  refine ⟨List.nodup_cons.2 ⟨fun hm => ?_, hq.nodup⟩, fun h => ?_⟩
  · exact Nat.lt_irrefl _ (wf.lt_of_ownerOf? ((hq.owner _).2 hm))
  · rw [ownerOf?_schedule, List.mem_cons, ← hq.owner h]
    by_cases hh : q.nextHandle = h
    · simp [hh]
    · simp [hh, Ne.symm hh]

/-- A held timer that leaves the queue, by a cancel or because it fires. -/
theorem Holds.erase (hq : q.Holds id hs) (h' : TimerHandle)
    (ho : ∀ h, q'.ownerOf? h = if h' = h then none else q.ownerOf? h) :
    q'.Holds id (hs.erase h') := by
  refine ⟨hq.nodup.erase h', fun h => ?_⟩
  rw [ho h, hq.nodup.mem_erase_iff, ← hq.owner h]
  by_cases hh : h' = h
  · simp [hh]
  · simp [hh, Ne.symm hh]

end Holds

/-- The timers are distinct, and the queue has given them out. It may have lost some of them. -/
structure Issued (q : TimerQueue) (hs : List TimerHandle) : Prop where
  nodup : hs.Nodup
  lt : ∀ h ∈ hs, h < q.nextHandle

section Issued
variable {hs : List TimerHandle}

theorem Issued.schedule (hi : q.Issued hs) (id : ControlId) (delay : Millis) :
    (q.schedule id delay).2.Issued (q.nextHandle :: hs) := by
  refine ⟨List.nodup_cons.2 ⟨fun hm => Nat.lt_irrefl _ (hi.lt _ hm), hi.nodup⟩, ?_⟩
  exact List.forall_mem_cons.2 ⟨Nat.lt_succ_self _, fun h hm => Nat.lt_succ_of_lt (hi.lt h hm)⟩

theorem Issued.erase (hi : q.Issued hs) (h' : TimerHandle) : q.Issued (hs.erase h') :=
  ⟨hi.nodup.erase h', fun h hm => hi.lt h (List.mem_of_mem_erase hm)⟩

theorem Issued.of_le (hi : q.Issued hs) (hle : q.nextHandle ≤ q'.nextHandle) : q'.Issued hs :=
  ⟨hi.nodup, fun h hm => Nat.lt_of_lt_of_le (hi.lt h hm) hle⟩

theorem Issued.cancel (hi : q.Issued hs) (h' : TimerHandle) :
    (q.cancel h').2.Issued (hs.erase h') :=
  (hi.erase h').of_le (Nat.le_of_eq nextHandle_cancel.symm)

end Issued

namespace Turn
variable {id : ControlId} {hs hs' : List TimerHandle}

theorem perm {hs₀ : List TimerHandle} (hp : hs₀.Perm hs) (ht : Turn id q hs q' hs') :
    Turn id q hs₀ q' hs' := by
  induction ht generalizing hs₀ with
  | done hp' => exact .done (hp.trans hp')
  | schedule delay _ ih => exact .schedule delay (ih (hp.cons _))
  | cancel hm _ ih => exact .cancel (hp.mem_iff.2 hm) (ih (hp.erase _))

theorem trans {q'' : TimerQueue} {hs'' : List TimerHandle} (ht : Turn id q hs q' hs')
    (ht' : Turn id q' hs' q'' hs'') : Turn id q hs q'' hs'' := by
  induction ht with
  | done hp => exact ht'.perm hp
  | schedule delay _ ih => exact .schedule delay (ih ht')
  | cancel hm _ ih => exact .cancel hm (ih ht')

theorem wf (ht : Turn id q hs q' hs') (wf : q.WF) : q'.WF := by
  induction ht with
  | done => exact wf
  | schedule delay _ ih => exact ih (wf.schedule id delay)
  | cancel _ _ ih => exact ih (wf.cancel _)

/-- After a turn the control's pending timers are those it holds then. -/
theorem holds (ht : Turn id q hs q' hs') (wf : q.WF) (hq : q.Holds id hs) : q'.Holds id hs' := by
  induction ht with
  | done hp => exact ⟨hp.nodup_iff.1 hq.nodup, fun h => (hq.owner h).trans hp.mem_iff⟩
  | schedule delay _ ih => exact ih (wf.schedule id delay) (hq.schedule wf delay)
  | cancel _ _ ih => exact ih (wf.cancel _) (hq.erase _ fun _ => ownerOf?_cancel)

/-- A turn leaves the timers of other controls alone. -/
theorem frame (ht : Turn id q hs q' hs') (wf : q.WF) (hq : q.Holds id hs) (hne : o ≠ id) :
    q'.ownerOf? h = some o ↔ q.ownerOf? h = some o := by
  induction ht with
  | done => rfl
  | @schedule q _ _ _ delay _ ih =>
    rw [ih (wf.schedule id delay) (hq.schedule wf delay), ownerOf?_schedule]
    by_cases hh : q.nextHandle = h
    · have hn : q.ownerOf? h ≠ some o := fun ho =>
        Nat.lt_irrefl _ (hh ▸ wf.lt_of_ownerOf? ho)
      simp [hh, hn, hne.symm]
    · simp [hh]
  | @cancel q _ _ _ h' hm _ ih =>
    rw [ih (wf.cancel _) (hq.erase _ fun _ => ownerOf?_cancel), ownerOf?_cancel]
    by_cases hh : h' = h
    · have ho := (hq.owner h).2 (hh ▸ hm)
      simp [hh, ho, hne.symm]
    · simp [hh]

theorem nextHandle_le (ht : Turn id q hs q' hs') : q.nextHandle ≤ q'.nextHandle := by
  induction ht with
  | done => exact Nat.le_refl _
  | schedule _ _ ih => exact Nat.le_of_succ_le ih
  | cancel _ _ ih => exact nextHandle_cancel ▸ ih

theorem now_eq (ht : Turn id q hs q' hs') : q'.now = q.now := by
  induction ht with
  | done => rfl
  | schedule _ _ ih => exact ih
  | cancel _ _ ih => exact ih.trans now_cancel

/-- A timer that is pending after a turn was pending before or is new. -/
theorem fresh (ht : Turn id q hs q' hs') (ho : q'.ownerOf? h = some o) :
    q.ownerOf? h = some o ∨ q.nextHandle ≤ h := by
  induction ht with
  | done => exact .inl ho
  | @schedule q _ _ _ _ _ ih =>
    rcases ih ho with hq | hle
    · rw [ownerOf?_schedule] at hq
      split at hq
      · rename_i hh
        exact .inr (Nat.le_of_eq hh)
      · exact .inl hq
    · exact .inr (Nat.le_of_succ_le hle)
  | cancel _ _ ih =>
    rcases ih ho with hq | hle
    · rw [ownerOf?_cancel] at hq
      split at hq
      · cases hq
      · exact .inl hq
    · exact .inr (nextHandle_cancel ▸ hle)

/-- A timer that a control holds after a turn is one that it held before, or new. -/
theorem mem_or_fresh (ht : Turn id q hs q' hs') (hm : h ∈ hs') : h ∈ hs ∨ q.nextHandle ≤ h := by
  induction ht with
  | done hp => exact .inl (hp.mem_iff.2 hm)
  | schedule _ _ ih =>
    rcases ih hm with hm | hle
    · exact (List.mem_cons.1 hm).elim (fun he => .inr (Nat.le_of_eq he.symm)) .inl
    · exact .inr (Nat.le_of_succ_le hle)
  | cancel _ _ ih =>
    rcases ih hm with hm | hle
    · exact .inl (List.mem_of_mem_erase hm)
    · exact .inr (nextHandle_cancel ▸ hle)

theorem issued (ht : Turn id q hs q' hs') (hi : q.Issued hs) : q'.Issued hs' := by
  induction ht with
  | done hp => exact ⟨hp.nodup_iff.1 hi.nodup, fun h hm => hi.lt h (hp.mem_iff.2 hm)⟩
  | schedule delay _ ih => exact ih (hi.schedule id delay)
  | cancel _ _ ih => exact ih (hi.cancel _)

/-- Of the timers from before, a turn cancels those that the control holds no longer. -/
theorem deadlines (ht : Turn id q hs q' hs') (hi : q.Issued hs) (hlt : h < q.nextHandle) :
    q'.deadlines[h]? = if h ∈ hs ∧ h ∉ hs' then none else q.deadlines[h]? := by
  induction ht with
  | done hp => simp [hp.mem_iff]
  | @schedule q q' hs hs' delay _ ih =>
    have hne : h ≠ q.nextHandle := Nat.ne_of_lt hlt
    rw [ih (hi.schedule id delay) (Nat.lt_succ_of_lt hlt), deadlines_schedule, if_neg hne.symm]
    simp [hne]
  | @cancel q q' hs hs' h' hm ht ih =>
    rw [ih (hi.cancel h') (by rwa [nextHandle_cancel]), deadlines_cancel]
    by_cases he : h = h'
    · subst he
      have hgone : h ∉ hs' := fun hm' => by
        rcases ht.mem_or_fresh hm' with hm' | hle
        · exact (hi.nodup.mem_erase_iff.1 hm').1 rfl
        · rw [nextHandle_cancel] at hle
          exact Nat.not_lt.2 hle hlt
      simp [hm, hgone]
    · simp [hi.nodup.mem_erase_iff, he, Ne.symm he]

end Turn

end TimerQueue
end TouchOverlay
