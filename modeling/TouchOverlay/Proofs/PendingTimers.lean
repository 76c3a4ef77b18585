import Mathlib.Data.Finset.Card
import TouchOverlay.Proofs.FiringOrder

/-!
# One set of pending timers

`TimerQueue.waiting` is the set of timers that the table by deadline lists. In a well-formed queue
the table by handle lists the same ones, and the handle alone tells them apart, so the sizes agree
(`WF.size_eq_card`). Each question that a queue answers is then a question about the set, and each
way of cancelling is a filter of it.
-/

namespace TouchOverlay

theorem ExpiredTimer.due_injective {t u : ExpiredTimer} (hd : t.due = u.due)
    (ho : t.owner = u.owner) : t = u := by
  cases t; cases u
  simp_all [ExpiredTimer.due]

namespace TimerQueue

/-- The pending timers. -/
def waiting (q : TimerQueue) : Finset ExpiredTimer :=
  (q.byDeadline.toList.map fun e => (⟨e.1.handle, e.2, e.1.deadline⟩ : ExpiredTimer)).toFinset

variable {q : TimerQueue} {t : ExpiredTimer} {o : ControlId} {u : Millis} {h : TimerHandle}
  {d : Due}

theorem mem_waiting : t ∈ q.waiting ↔ q.byDeadline[t.due]? = some t.owner := by
  rw [waiting, List.mem_toFinset, List.mem_map]
  constructor
  · rintro ⟨⟨d, o⟩, hm, rfl⟩
    exact Std.ExtTreeMap.mem_toList_iff_getElem?_eq_some.1 hm
  · intro ht
    exact ⟨(t.due, t.owner), Std.ExtTreeMap.mem_toList_iff_getElem?_eq_some.2 ht, rfl⟩

theorem WF.mem_waiting_iff (wf : q.WF) : t ∈ q.waiting ↔ t ∈ q :=
  mem_waiting.trans wf.mem_iff.symm

theorem exists_waiting_iff : (∃ t ∈ q.waiting, t.due = d) ↔ d ∈ q.byDeadline := by
  rw [mem_byDeadline_iff]
  constructor
  · rintro ⟨t, ht, rfl⟩
    exact ⟨t.owner, mem_waiting.1 ht⟩
  · rintro ⟨o, ho⟩
    exact ⟨⟨d.handle, o, d.deadline⟩, mem_waiting.2 ho, rfl⟩

theorem waiting_eq_empty_iff : q.waiting = ∅ ↔ ∀ d, d ∉ q.byDeadline := by
  rw [Finset.eq_empty_iff_forall_notMem]
  constructor
  · intro hnone d hd
    obtain ⟨t, ht, -⟩ := exists_waiting_iff.2 hd
    exact hnone t ht
  · intro hnone t ht
    exact hnone t.due (exists_waiting_iff.1 ⟨t, ht, rfl⟩)

/-! ## What a queue says about itself -/

theorem WF.isPending_iff_waiting (wf : q.WF) :
    q.isPending h = true ↔ ∃ t ∈ q.waiting, t.handle = h := by
  rw [isPending_eq, Option.isSome_iff_exists]
  constructor
  · rintro ⟨u, hu⟩
    obtain ⟨t, ht, hd⟩ := exists_waiting_iff.2 ((wf.agree ⟨u, h⟩).2 hu)
    exact ⟨t, ht, congrArg Due.handle hd⟩
  · rintro ⟨t, ht, rfl⟩
    exact ⟨t.deadline, (wf.mem_waiting_iff.1 ht).1⟩

/-- The handle tells pending timers apart. -/
theorem WF.injOn_handle (wf : q.WF) : Set.InjOn ExpiredTimer.handle q.waiting :=
  fun _ ht _ hu => eq_of_mem (wf.mem_waiting_iff.1 ht) (wf.mem_waiting_iff.1 hu)

theorem WF.size_eq_card (wf : q.WF) : q.size = q.waiting.card := by
  have hkeys : q.waiting.image ExpiredTimer.handle = q.deadlines.keys.toFinset := by
    ext h
    rw [Finset.mem_image, List.mem_toFinset, Std.ExtTreeMap.mem_keys,
      ← Std.ExtTreeMap.contains_iff_mem]
    exact wf.isPending_iff_waiting.symm
  rw [← Finset.card_image_of_injOn wf.injOn_handle, hkeys,
    List.toFinset_card_of_nodup Std.ExtTreeMap.nodup_keys, Std.ExtTreeMap.length_keys, size]

theorem WF.isEmpty_iff (wf : q.WF) : q.isEmpty = true ↔ q.waiting = ∅ := by
  rw [← Finset.card_eq_zero, ← wf.size_eq_card, isEmpty, Std.ExtTreeMap.isEmpty_iff, size,
    Std.ExtTreeMap.eq_empty_iff_size_eq_zero]

theorem nextDeadline?_eq_none_iff : q.nextDeadline? = none ↔ q.waiting = ∅ := by
  rw [nextDeadline?, Option.map_eq_none_iff, first?_eq_none_iff, waiting_eq_empty_iff]

theorem nextDeadline?_eq_some_iff :
    q.nextDeadline? = some u ↔
      (∃ t ∈ q.waiting, t.deadline = u) ∧ ∀ t ∈ q.waiting, u ≤ t.deadline := by
  constructor
  · intro hu
    obtain ⟨d, hd, rfl⟩ := Option.map_eq_some_iff.1 hu
    obtain ⟨hm, hfirst⟩ := first?_eq_some_iff.1 hd
    obtain ⟨t, ht, rfl⟩ := exists_waiting_iff.2 hm
    refine ⟨⟨t, ht, rfl⟩, fun t' ht' => ?_⟩
    exact deadline_le_of_order (hfirst t'.due (exists_waiting_iff.1 ⟨t', ht', rfl⟩))
  · rintro ⟨⟨t, ht, rfl⟩, hleast⟩
    cases hn : q.nextDeadline? with
    | none =>
      rw [nextDeadline?_eq_none_iff.1 hn] at ht
      exact absurd ht (Finset.notMem_empty t)
    | some v =>
      -- both are deadlines of pending timers, and neither is after the other
      obtain ⟨d, hd, rfl⟩ := Option.map_eq_some_iff.1 hn
      obtain ⟨hm, hfirst⟩ := first?_eq_some_iff.1 hd
      obtain ⟨t', ht', rfl⟩ := exists_waiting_iff.2 hm
      have hle := deadline_le_of_order (hfirst t.due (exists_waiting_iff.1 ⟨t, ht, rfl⟩))
      exact congrArg some (UInt64.le_antisymm hle (hleast t' ht'))

/-! ## What cancelling leaves -/

theorem cancel_fst : (q.cancel h).1 = q.isPending h := by
  rw [isPending_eq, cancel]
  split <;> simp_all

theorem WF.waiting_cancel (wf : q.WF) (h : TimerHandle) :
    (q.cancel h).2.waiting = q.waiting.filter (·.handle ≠ h) := by
  ext t
  rw [Finset.mem_filter, (wf.cancel h).mem_waiting_iff, wf.mem_waiting_iff, mem_cancel]

theorem WF.waiting_cancelOwnedBy (wf : q.WF) (o : ControlId) :
    (q.cancelOwnedBy o).2.waiting = q.waiting.filter (·.owner ≠ o) := by
  ext t
  rw [Finset.mem_filter, (wf.cancelOwnedBy o).mem_waiting_iff, wf.mem_waiting_iff,
    wf.mem_cancelOwnedBy]

theorem nodup_ownedBy : (q.ownedBy o).Nodup := by
  refine List.Nodup.sublist (List.filter_sublist.map Prod.fst) ?_
  rw [Std.ExtTreeMap.map_fst_toList_eq_keys]
  exact Std.ExtTreeMap.nodup_keys

/-- The number that is given back is that of the timers of the control. -/
theorem cancelOwnedBy_fst (q : TimerQueue) (o : ControlId) :
    (q.cancelOwnedBy o).1 = (q.waiting.filter (·.owner = o)).card := by
  have hdoomed : (q.waiting.filter (·.owner = o)).image ExpiredTimer.due =
      (q.ownedBy o).toFinset := by
    ext d
    rw [Finset.mem_image, List.mem_toFinset, mem_ownedBy]
    constructor
    · rintro ⟨t, ht, rfl⟩
      obtain ⟨hw, ho⟩ := Finset.mem_filter.1 ht
      rw [← ho]
      exact mem_waiting.1 hw
    · intro hd
      exact ⟨⟨d.handle, o, d.deadline⟩, Finset.mem_filter.2 ⟨mem_waiting.2 hd, rfl⟩, rfl⟩
  have hinj : Set.InjOn ExpiredTimer.due (q.waiting.filter (·.owner = o)) := by
    intro t ht u hu hd
    rw [Finset.mem_coe, Finset.mem_filter] at ht hu
    exact ExpiredTimer.due_injective hd (ht.2.trans hu.2.symm)
  show (q.ownedBy o).length = _
  rw [← Finset.card_image_of_injOn hinj, hdoomed, List.toFinset_card_of_nodup nodup_ownedBy]

/-- **The two tables describe one set of timers**, whatever calls a new queue has had, and the
handles of all of them have been given out. The size, the test for emptiness, the test of a handle
and the next deadline are those of the set. Cancelling a timer says whether it was pending and
takes it alone; cancelling those of a control takes these alone and says how many they were. -/
theorem tables_describe_one_set (calls : List Call) :
    let q := run calls .empty
    (∀ d, d ∈ q.byDeadline ↔ q.deadlines[d.handle]? = some d.deadline) ∧
    (∀ d ∈ q.byDeadline, d.handle < q.nextHandle) ∧
    (∀ t, t ∈ q.waiting ↔ q.byDeadline[t.due]? = some t.owner) ∧
    q.size = q.waiting.card ∧
    (q.isEmpty = true ↔ q.waiting = ∅) ∧
    (∀ h, q.isPending h = true ↔ ∃ t ∈ q.waiting, t.handle = h) ∧
    (q.nextDeadline? = none ↔ q.waiting = ∅) ∧
    (∀ u, q.nextDeadline? = some u ↔
      (∃ t ∈ q.waiting, t.deadline = u) ∧ ∀ t ∈ q.waiting, u ≤ t.deadline) ∧
    (∀ h, ((q.cancel h).1 = true ↔ ∃ t ∈ q.waiting, t.handle = h) ∧
      (q.cancel h).2.waiting = q.waiting.filter (·.handle ≠ h) ∧
      (q.cancel h).2.now = q.now ∧ (q.cancel h).2.nextHandle = q.nextHandle) ∧
    ∀ o, (q.cancelOwnedBy o).1 = (q.waiting.filter (·.owner = o)).card ∧
      (q.cancelOwnedBy o).2.waiting = q.waiting.filter (·.owner ≠ o) ∧
      (q.cancelOwnedBy o).2.now = q.now ∧ (q.cancelOwnedBy o).2.nextHandle = q.nextHandle := by
  intro q
  have wf : q.WF := WF.empty.run calls
  refine ⟨wf.agree, fun d hd => wf.fresh _ _ ((wf.agree d).1 hd), fun t => mem_waiting,
    wf.size_eq_card, wf.isEmpty_iff, fun h => wf.isPending_iff_waiting,
    nextDeadline?_eq_none_iff, fun u => nextDeadline?_eq_some_iff, fun h => ?_, fun o => ?_⟩
  · refine ⟨?_, wf.waiting_cancel h, now_cancel, nextHandle_cancel⟩
    rw [cancel_fst]
    exact wf.isPending_iff_waiting
  · exact ⟨q.cancelOwnedBy_fst o, wf.waiting_cancelOwnedBy o, now_removeAll _,
      nextHandle_cancelOwnedBy⟩

end TimerQueue
end TouchOverlay
