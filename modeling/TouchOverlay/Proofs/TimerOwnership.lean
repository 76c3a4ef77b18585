import TouchOverlay.Proofs.Run

/-!
# Timers and sessions agree

A `Ledger` lists controls with the timers that each of them holds. `TimerQueue.Balanced` says that
the pending timers of a queue are the entries of a ledger. A turn of one control moves the queue
and the entry of that control alike (`Balanced.turn`), so the ledger of a surface balances after
every elementary change (`balanced_of_motion`), in the middle of an advance as well.

Handles are never reused, so of the timers of a session that has ended none can fire later, even
for a new control of the same identifier. `TimerQueue.Follows` is what is needed of the queues of
a run for that.
-/

namespace TouchOverlay

/-- Controls, each with the timers that it holds. -/
abbrev Ledger := List (ControlId × List TimerHandle)

def Control.entry (c : Control) : ControlId × List TimerHandle := (c.id, c.behaviour.timers)

namespace TimerQueue

/-- The pending timers with their owners, in the order in which they will fire. -/
def pending (q : TimerQueue) : List (TimerHandle × ControlId) :=
  q.byDeadline.toList.map fun e => (e.1.handle, e.2)

/-- The pending timers are those in the ledger, which lists none of them twice for one control. -/
structure Balanced (q : TimerQueue) (l : Ledger) : Prop where
  wf : q.WF
  nodup : ∀ e ∈ l, e.2.Nodup
  owner : ∀ h o, q.ownerOf? h = some o ↔ ∃ e ∈ l, e.1 = o ∧ h ∈ e.2

variable {q q' q'' : TimerQueue} {l pre post : Ledger} {id o : ControlId}
  {h h' : TimerHandle} {hs hs' : List TimerHandle} {now : Millis} {t : ExpiredTimer}

theorem WF.mem_pending (wf : q.WF) : (h, o) ∈ q.pending ↔ q.ownerOf? h = some o := by
  rw [wf.ownerOf?_eq_some_iff, pending, List.mem_map]
  constructor
  · rintro ⟨⟨d, o'⟩, hm, he⟩
    cases he
    exact ⟨d.deadline, Std.ExtTreeMap.mem_toList_iff_getElem?_eq_some.1 hm⟩
  · rintro ⟨t, ht⟩
    exact ⟨(⟨t, h⟩, o), Std.ExtTreeMap.mem_toList_iff_getElem?_eq_some.2 ht, rfl⟩

theorem WF.nodup_handles (wf : q.WF) : (q.pending.map (·.1)).Nodup := by
  rw [pending, List.map_map, List.Nodup, List.pairwise_map]
  refine Std.ExtTreeMap.distinct_keys_toList.imp_of_mem fun ha hb hne he => hne ?_
  have ha := mem_byDeadline_iff.2 ⟨_, Std.ExtTreeMap.mem_toList_iff_getElem?_eq_some.1 ha⟩
  have hb := mem_byDeadline_iff.2 ⟨_, Std.ExtTreeMap.mem_toList_iff_getElem?_eq_some.1 hb⟩
  rw [wf.eq_of_handle ha hb he]
  exact Std.ReflCmp.compare_self

theorem WF.nodup_pending (wf : q.WF) : q.pending.Nodup :=
  (List.pairwise_map.1 wf.nodup_handles).imp fun hne he => hne (congrArg Prod.fst he)

theorem WF.isPending_iff (wf : q.WF) : q.isPending h = true ↔ ∃ o, q.ownerOf? h = some o := by
  rw [isPending_eq, Option.isSome_iff_exists]
  constructor
  · rintro ⟨t, ht⟩
    obtain ⟨o, ho⟩ := mem_byDeadline_iff.1 ((wf.agree ⟨t, h⟩).2 ht)
    exact ⟨o, wf.ownerOf?_eq_some_iff.2 ⟨t, ho⟩⟩
  · rintro ⟨o, ho⟩
    obtain ⟨t, ht, -⟩ := Option.bind_eq_some_iff.1 ho
    exact ⟨t, ht⟩

/-! ## Balanced ledgers -/

theorem mem_ledger_iff (hk : ∀ e ∈ pre ++ post, e.1 ≠ id) :
    (∃ e ∈ pre ++ (id, hs) :: post, e.1 = o ∧ h ∈ e.2) ↔
      o = id ∧ h ∈ hs ∨ o ≠ id ∧ ∃ e ∈ pre ++ post, e.1 = o ∧ h ∈ e.2 :=
  Surface.exists_keyed_iff (x := (id, hs)) hk

namespace Balanced

theorem of_owner (hb : q.Balanced l) (wf : q'.WF) (ho : ∀ h, q'.ownerOf? h = q.ownerOf? h) :
    q'.Balanced l :=
  ⟨wf, hb.nodup, fun h o => by rw [ho h]; exact hb.owner h o⟩

theorem holds (hk : ∀ e ∈ pre ++ post, e.1 ≠ id) (hb : q.Balanced (pre ++ (id, hs) :: post)) :
    q.Holds id hs :=
  ⟨hb.nodup (id, hs) (by simp), fun h => by rw [hb.owner, mem_ledger_iff hk]; simp⟩

/-- One control holds other timers than before, and the queue has changed accordingly. -/
theorem replace (hk : ∀ e ∈ pre ++ post, e.1 ≠ id) (hb : q.Balanced (pre ++ (id, hs) :: post))
    (wf : q'.WF) (hq : q'.Holds id hs')
    (hf : ∀ h o, o ≠ id → (q'.ownerOf? h = some o ↔ q.ownerOf? h = some o)) :
    q'.Balanced (pre ++ (id, hs') :: post) := by
  refine ⟨wf, fun e he => ?_, fun h o => ?_⟩
  · rcases List.mem_append.1 he with he | he
    · exact hb.nodup e (by simp [he])
    · rcases List.mem_cons.1 he with rfl | he
      · exact hq.nodup
      · exact hb.nodup e (by simp [he])
  · rw [mem_ledger_iff hk]
    by_cases ho : o = id
    · subst ho
      simpa using hq.owner h
    · rw [hf h o ho, hb.owner, mem_ledger_iff hk]
      simp [ho]

theorem turn (hk : ∀ e ∈ pre ++ post, e.1 ≠ id) (hb : q.Balanced (pre ++ (id, hs) :: post))
    (ht : Turn id q hs q' hs') : q'.Balanced (pre ++ (id, hs') :: post) :=
  have hq := hb.holds hk
  hb.replace hk (ht.wf hb.wf) (ht.holds hb.wf hq) fun _ _ => ht.frame hb.wf hq

/-- A timer that fires leaves the queue and the entry of its owner. -/
theorem pop (hk : ∀ e ∈ pre ++ post, e.1 ≠ t.owner)
    (hb : q.Balanced (pre ++ (t.owner, hs) :: post)) (hp : q.popExpired? now = some (t, q')) :
    q'.Balanced (pre ++ (t.owner, hs.erase t.handle) :: post) := by
  refine hb.replace hk (hb.wf.popExpired? hp)
    ((hb.holds hk).erase _ fun _ => ownerOf?_popExpired? hp) fun h o hne => ?_
  rw [ownerOf?_popExpired? hp]
  split
  · rename_i hh
    subst hh
    rw [hb.wf.ownerOf?_of_popExpired? hp]
    simp [hne.symm]
  · rfl

theorem nil_iff : q.Balanced (pre ++ (id, []) :: post) ↔ q.Balanced (pre ++ post) := by
  constructor
  · intro hb
    refine ⟨hb.wf, fun e he => hb.nodup e ?_, fun h o => ?_⟩
    · rcases List.mem_append.1 he with he | he <;> simp [he]
    · rw [hb.owner]
      simp [or_and_right, exists_or]
  · intro hb
    refine ⟨hb.wf, fun e he => ?_, fun h o => ?_⟩
    · simp only [List.mem_append, List.mem_cons] at he
      rcases he with he | rfl | he
      · exact hb.nodup e (by simp [he])
      · exact .nil
      · exact hb.nodup e (by simp [he])
    · rw [hb.owner]
      simp [or_and_right, exists_or]

end Balanced

/-! ## Later queues -/

/-- Every timer that is pending in the later queue `q'` is pending in `q` or has a handle that `q`
has still to give out. -/
structure Follows (q q' : TimerQueue) : Prop where
  nextHandle_le : q.nextHandle ≤ q'.nextHandle
  owner : ∀ h o, q'.ownerOf? h = some o → q.ownerOf? h = some o ∨ q.nextHandle ≤ h

namespace Follows

theorem refl (q : TimerQueue) : Follows q q := ⟨Nat.le_refl _, fun _ _ => .inl⟩

theorem trans (hf : Follows q q') (hf' : Follows q' q'') : Follows q q'' := by
  refine ⟨Nat.le_trans hf.nextHandle_le hf'.nextHandle_le, fun h o ho => ?_⟩
  rcases hf'.owner h o ho with ho | hle
  · exact hf.owner h o ho
  · exact .inr (Nat.le_trans hf.nextHandle_le hle)

theorem turn (ht : Turn id q hs q' hs') : Follows q q' := ⟨ht.nextHandle_le, fun _ _ => ht.fresh⟩

theorem pop (hp : q.popExpired? now = some (t, q')) : Follows q q' := by
  refine ⟨Nat.le_of_eq (nextHandle_popExpired? hp).symm, fun h o ho => .inl ?_⟩
  rw [ownerOf?_popExpired? hp] at ho
  split at ho
  · cases ho
  · exact ho

theorem cancelOwnedBy (wf : q.WF) : Follows q (q.cancelOwnedBy id).2 := by
  refine ⟨Nat.le_of_eq nextHandle_cancelOwnedBy.symm, fun h o ho => .inl ?_⟩
  rw [wf.ownerOf?_cancelOwnedBy] at ho
  split at ho
  · cases ho
  · exact ho

end Follows
end TimerQueue

namespace Surface
open TimerQueue

def ledger (s : Surface) : Ledger := s.controls.map Control.entry

variable {sv : Services} {s s' : Surface} {is : List Issued} {K : ControlId → Prop} {c : Control}
  {pre post : List Control} {now : Millis} {t : ExpiredTimer} {id : ControlId} {h : TimerHandle}

theorem ledger_eq (hs : s.controls = pre ++ c :: post) :
    s.ledger = pre.map Control.entry ++ (c.id, c.behaviour.timers) :: post.map Control.entry := by
  simp [ledger, hs, Control.entry]

theorem ledger_place {r : Reaction Control} : (s.place pre post r).ledger =
    pre.map Control.entry ++ (r.state.id, r.state.behaviour.timers) :: post.map Control.entry :=
  ledger_eq rfl

theorem entry_ne (hn : s.ids.Nodup) (hs : s.controls = pre ++ c :: post) :
    ∀ e ∈ pre.map Control.entry ++ post.map Control.entry, e.1 ≠ c.id := by
  intro e he
  rw [← List.map_append] at he
  obtain ⟨c', hc', rfl⟩ := List.mem_map.1 he
  exact ne_of_nodup_ids hn hs c' hc'

theorem holds_of_balanced (hn : s.ids.Nodup) (hb : s.desk.timers.Balanced s.ledger)
    (hc : c ∈ s.controls) : s.desk.timers.Holds c.id c.behaviour.timers := by
  obtain ⟨pre, post, hs⟩ := List.append_of_mem hc
  rw [ledger_eq hs] at hb
  exact hb.holds (entry_ne hn hs)

theorem balanced_place {r : Reaction Control} (hn : s.ids.Nodup)
    (hs : s.controls = pre ++ c :: post)
    (hb : s.desk.timers.Balanced s.ledger) (hr : r.state.id = c.id)
    (ht : Turn c.id s.desk.timers c.behaviour.timers r.desk.timers r.state.behaviour.timers) :
    (s.place pre post r).desk.timers.Balanced (s.place pre post r).ledger ∧
      Follows s.desk.timers (s.place pre post r).desk.timers := by
  rw [ledger_eq hs] at hb
  rw [ledger_place, hr]
  exact ⟨hb.turn (entry_ne hn hs) ht, .turn ht⟩

theorem balanced_of_input (hn : s.ids.Nodup) (hi : Input sv s is s')
    (hb : s.desk.timers.Balanced s.ledger) :
    s'.desk.timers.Balanced s'.ledger ∧ Follows s.desk.timers s'.desk.timers := by
  cases hi with
  | tick now =>
    exact ⟨hb.of_owner (hb.wf.advanceClock now) fun _ => rfl, Nat.le_refl _, fun _ _ => .inl⟩
  | @fire s₁ pre post c now t hp hs hid =>
    obtain ⟨q, hq, rfl⟩ := popExpired?_eq_some hp
    have hs : s.controls = pre ++ c :: post := hs
    have hk := entry_ne hn hs
    rw [ledger_eq hs] at hb
    have hnd : c.behaviour.timers.Nodup := hb.nodup (c.id, c.behaviour.timers) (by simp)
    have ht := (Behaviour.keeps_timer sv (c.site s.size) (s.withTimers q).desk t.handle hnd).turn
    rw [hid] at hb hk
    refine ⟨?_, (Follows.pop hq).trans (.turn ht)⟩
    have hb' := hb.pop hk hq
    rw [← hid] at hb' hk
    rw [ledger_place]
    exact hb'.turn hk ht
  | @lapse _ now t hp hne =>
    obtain ⟨q, hq, rfl⟩ := popExpired?_eq_some hp
    obtain ⟨e, he, hid, -⟩ := (hb.owner _ _).1 (hb.wf.ownerOf?_of_popExpired? hq)
    obtain ⟨c, hc, rfl⟩ := List.mem_map.1 he
    exact absurd hid (hne c hc)
  | contact h =>
    cases h with
    | @down pre post c p spot hs _ hcons =>
      exact balanced_place hn hs hb rfl (Control.takes_down hcons).turn
    | @move pre post c p spot hs _ =>
      exact balanced_place hn hs hb rfl
        (c.behaviour.keeps_move sv (c.site s.size) p (c.bounds.toLocal spot) s.desk).1.turn
    | @up pre post c p hs _ =>
      have ht : Turn c.id s.desk.timers c.behaviour.timers (c.up s.size p s.desk).desk.timers
          (c.up s.size p s.desk).state.behaviour.timers := by
        by_cases hp : c.behaviour.pointer? = some p
        · exact (Behaviour.drops_up (c.site s.size) s.desk hp).turn
        · rw [Control.up, Behaviour.up_of_ne (c.site s.size) s.desk hp]
          exact .done (.refl _)
      exact balanced_place hn hs hb rfl ht
    | stray => exact ⟨hb, .refl _⟩

theorem balanced_of_change (hn : s.ids.Nodup) (hc : Change K s is s')
    (hb : s.desk.timers.Balanced s.ledger) :
    s'.desk.timers.Balanced s'.ledger ∧ Follows s.desk.timers s'.desk.timers := by
  cases hc with
  | @reset pre post c hs =>
    exact balanced_place hn hs hb rfl (c.behaviour.keeps_resetToggle (c.site s.size) s.desk).turn
  | @detach pre post c hs =>
    have ht : Turn c.id s.desk.timers c.behaviour.timers (c.detach s.size s.desk).desk.timers [] :=
      c.behaviour.turn_detach (c.site s.size) s.desk
    rw [ledger_eq hs] at hb
    have hb' := Balanced.nil_iff.1 (hb.turn (entry_ne hn hs) ht)
    -- the session has cancelled its timers, so nothing is left that the identifier owns
    have hnone : ∀ h, (c.detach s.size s.desk).desk.timers.ownerOf? h ≠ some c.id := fun h ho => by
      obtain ⟨e, he, hid, -⟩ := (hb'.owner _ _).1 ho
      exact entry_ne hn hs e he hid
    refine ⟨?_, (Follows.turn ht).trans (.cancelOwnedBy hb'.wf)⟩
    have hl : (({ s with controls := pre ++ post } : Surface).detach c).state.ledger =
        pre.map Control.entry ++ post.map Control.entry := by
      simp [ledger, Surface.detach]
    rw [hl]
    refine hb'.of_owner (hb'.wf.cancelOwnedBy _) fun h => ?_
    show ((c.detach s.size s.desk).desk.timers.cancelOwnedBy c.id).2.ownerOf? h = _
    rw [hb'.wf.ownerOf?_cancelOwnedBy, if_neg (hnone h)]
  | @mount cfg _ hne _ =>
    have hl : (s.mount cfg).ledger = s.ledger ++ (cfg.id, []) :: [] := by
      simp [ledger, mount, Control.mount, Control.entry]
    refine ⟨?_, .refl _⟩
    rw [hl]
    exact Balanced.nil_iff.2 (by rwa [List.append_nil])
  | resize => exact ⟨hb, .refl _⟩

theorem balanced_of_motion (hn : s.ids.Nodup) (hm : Motion sv K s is s')
    (hb : s.desk.timers.Balanced s.ledger) :
    s'.desk.timers.Balanced s'.ledger ∧ Follows s.desk.timers s'.desk.timers := by
  rcases hm with hm | hm
  · exact balanced_of_input hn hm hb
  · exact balanced_of_change hn hm hb

/-! ## Runs -/

/-- What holds of every state of a run, and in the middle of an advance. `q` is an earlier queue. -/
structure Tidy (q : TimerQueue) (s : Surface) : Prop where
  nodup : s.ids.Nodup
  balanced : s.desk.timers.Balanced s.ledger
  follows : Follows q s.desk.timers

theorem Tidy.motion {q : TimerQueue} (hs : s.Tidy q) (hm : Motion sv K s is s') : s'.Tidy q :=
  have hb := balanced_of_motion hs.nodup hm hs.balanced
  ⟨nodup_ids_of_motion hm hs.nodup, hb.1, hs.follows.trans hb.2⟩

theorem Tidy.run {q : TimerQueue} (hs : s.Tidy q) (sv : Services) (sts : List Step) :
    (Surface.run sv sts s).state.Tidy q :=
  run_keeps (P := Tidy q) (fun _ hm hs => hs.motion hm)
    (fun _ hs => ⟨hs.nodup, hs.balanced, hs.follows⟩) sts hs.nodup hs

theorem Tidy.deliverDue {q : TimerQueue} (hs : s.Tidy q) (sv : Services) (now : Millis)
    (limit : Nat) :
    (Surface.deliverDue sv now limit s).state.Tidy q :=
  (chain_deliverDue sv s now limit).keeps (P := Tidy q)
    (fun _ _ _ hi hs => hs.motion (K := fun _ => False) (.inl hi)) hs

theorem Tidy.perform {q : TimerQueue} (hs : s.Tidy q) (sv : Services) (op : Operation) :
    (op.perform sv s).state.Tidy q :=
  hs.run sv [.operation op]

/-- The present queue as the earlier one. -/
theorem Tidy.restart {q : TimerQueue} (hs : s.Tidy q) : s.Tidy s.desk.timers :=
  ⟨hs.nodup, hs.balanced, .refl _⟩

theorem Tidy.empty (size : SurfaceSize) (cl : Claims) :
    ((Surface.empty size).withClaims cl).Tidy .empty :=
  ⟨.nil, ⟨WF.empty, fun _ he => absurd he List.not_mem_nil, fun h o => by
    show TimerQueue.empty.ownerOf? h = some o ↔ ∃ e ∈ [], _
    simp⟩, .refl _⟩

def heldTimers (s : Surface) : List (TimerHandle × ControlId) :=
  s.controls.flatMap fun c => c.behaviour.timers.map (·, c.id)

theorem mem_heldTimers {o : ControlId} :
    (h, o) ∈ s.heldTimers ↔ ∃ c ∈ s.controls, c.id = o ∧ h ∈ c.behaviour.timers := by
  simp only [heldTimers, List.mem_flatMap, List.mem_map, Prod.mk.injEq]
  constructor
  · rintro ⟨c, hc, _, hm, rfl, rfl⟩
    exact ⟨c, hc, rfl, hm⟩
  · rintro ⟨c, hc, rfl, hm⟩
    exact ⟨c, hc, h, hm, rfl, rfl⟩

theorem Tidy.mem_pending {q : TimerQueue} (hs : s.Tidy q) {o : ControlId} :
    (h, o) ∈ s.desk.timers.pending ↔ ∃ c ∈ s.controls, c.id = o ∧ h ∈ c.behaviour.timers := by
  rw [hs.balanced.wf.mem_pending, hs.balanced.owner]
  constructor
  · rintro ⟨e, he, rfl, hm⟩
    obtain ⟨c, hc, rfl⟩ := List.mem_map.1 he
    exact ⟨c, hc, rfl, hm⟩
  · rintro ⟨c, hc, rfl, hm⟩
    exact ⟨c.entry, List.mem_map_of_mem hc, rfl, hm⟩

theorem Tidy.pending_perm {q : TimerQueue} (hs : s.Tidy q) :
    s.desk.timers.pending.Perm s.heldTimers := by
  have hp := hs.balanced.wf.nodup_pending
  refine (List.perm_ext_iff_of_nodup hp ?_).2 fun ⟨h, o⟩ => ?_
  · refine List.pairwise_flatMap.2 ⟨fun c hc => ?_, ?_⟩
    · have hc : c.behaviour.timers.Nodup := hs.balanced.nodup c.entry (List.mem_map_of_mem hc)
      exact List.pairwise_map.2 (hc.imp fun hne he => hne (congrArg Prod.fst he))
    · refine (List.pairwise_map.1 hs.nodup).imp fun hne x hx y hy he => hne ?_
      obtain ⟨_, _, rfl⟩ := List.mem_map.1 hx
      obtain ⟨_, _, rfl⟩ := List.mem_map.1 hy
      exact congrArg Prod.snd he
  · rw [hs.mem_pending, mem_heldTimers]

/-- A touchpad has at most two timers, and other controls have none. -/
theorem length_timers_le (b : Behaviour) : b.timers.length ≤ 2 := by
  cases b with
  | touchpad pad =>
    have hi : pad.idleTimer?.toList.length ≤ 1 := by cases pad.idleTimer? <;> simp
    have hc : pad.clickTimer?.toList.length ≤ 1 := by cases pad.clickTimer? <;> simp
    simp only [Behaviour.timers, Touchpad.timers, List.length_append]
    omega
  | _ => simp [Behaviour.timers]

theorem Tidy.length_pending_le {q : TimerQueue} (hs : s.Tidy q) (id : ControlId) :
    (s.desk.timers.pending.filter (·.2 = id)).length ≤ 2 := by
  have hp := hs.balanced.wf.nodup_pending
  by_cases hm : ∃ c ∈ s.controls, c.id = id
  · obtain ⟨c, hc, hid⟩ := hm
    obtain ⟨pre, post, hcs⟩ := List.append_of_mem hc
    have hsub : s.desk.timers.pending.filter (·.2 = id) ⊆ c.behaviour.timers.map (·, id) := by
      rintro ⟨h, o⟩ hm
      obtain ⟨hm, ho⟩ := List.mem_filter.1 hm
      have ho : o = id := of_decide_eq_true ho
      obtain ⟨c', hc', hid', hh⟩ := hs.mem_pending.1 hm
      have he : c' = c := by
        by_cases he : c' = c
        · exact he
        · have hc' : c' ∈ pre ++ post := by simpa [hcs, he] using hc'
          exact absurd (by rw [hid', hid, ho]) (ne_of_nodup_ids hs.nodup hcs c' hc')
      exact List.mem_map.2 ⟨h, he ▸ hh, by rw [ho]⟩
    have hle := List.Nodup.length_le_of_subset (hp.filter _) hsub
    rw [List.length_map] at hle
    exact Nat.le_trans hle (length_timers_le _)
  · have hnil : s.desk.timers.pending.filter (·.2 = id) = [] := by
      rw [List.filter_eq_nil_iff]
      rintro ⟨h, o⟩ hp ho
      obtain ⟨c, hc, hid, -⟩ := hs.mem_pending.1 hp
      exact hm ⟨c, hc, hid.trans (of_decide_eq_true ho)⟩
    simp [hnil]

/-- In the course of an advance to `now` the timer `t` is taken from the queue, and `s'` is the
surface that it is then delivered to. -/
def Pops (sv : Services) (s : Surface) (now : Millis) (t : ExpiredTimer) (s' : Surface) : Prop :=
  ∃ limit, (deliverDue sv now limit s).state.popExpired? now = some (t, s')

/-- A timer that an advance takes from the queue is held by the control that it is delivered to. -/
theorem Tidy.held_of_pops {q : TimerQueue} (hs : s.Tidy q) (hp : s.Pops sv now t s') :
    ∃ c ∈ s'.controls, c.id = t.owner ∧ t.handle ∈ c.behaviour.timers := by
  obtain ⟨limit, hp⟩ := hp
  have hs := hs.deliverDue sv now limit
  obtain ⟨q', hq, rfl⟩ := popExpired?_eq_some hp
  exact hs.mem_pending.1 (hs.balanced.wf.mem_pending.2 (hs.balanced.wf.ownerOf?_of_popExpired? hq))

end Surface

/-- Whether an operation ends the session of a control: it removes the control, or removes every
control, and perhaps mounts it anew. -/
def Operation.Ends (id : ControlId) : Operation → Prop
  | removeControl id' => id' = id
  | replaceLayout cs => Surface.firstFault? [] cs = none
  | resize _ => True
  | shutdown => True
  | _ => False

namespace Surface
open TimerQueue

variable {sv : Services} {s s' : Surface} {id : ControlId} {q : TimerQueue} {now : Millis}
  {t : ExpiredTimer}

theorem fresh_of_mem_mountAll {cfgs : List ControlConfig} (hs : s.controls = []) :
    ∀ c ∈ (s.mountAll cfgs).controls, ∃ k, c.behaviour = .ofKind k := by
  rw [controls_mountAll, hs, List.nil_append]
  intro c hc
  obtain ⟨cfg, -, rfl⟩ := List.mem_map.1 hc
  exact ⟨cfg.kind, rfl⟩

/-- A control has a new session right after its last one has ended. -/
theorem fresh_of_ends {op : Operation} (hn : s.ids.Nodup) (he : op.Ends id) :
    ∀ c ∈ (op.perform sv s).state.controls, c.id = id → ∃ k, c.behaviour = .ofKind k := by
  cases op with
  | removeControl id' =>
    have he : id' = id := he
    subst he
    intro c' hc' hid
    rcases perform_removeControl_cases sv s id' with ⟨pre, c, post, hs, rfl, h⟩ | ⟨hne, h⟩
    · rw [h] at hc'
      exact absurd hid (ne_of_nodup_ids hn hs c' hc')
    · rw [h] at hc'
      exact absurd hid (hne c' hc')
  | replaceLayout cs =>
    rcases perform_replaceLayout_cases sv s cs with ⟨-, h⟩ | ⟨hf, -⟩
    · rw [h]
      exact fun c hc _ => fresh_of_mem_mountAll controls_detachAll c hc
    · exact absurd he hf
  | resize size =>
    exact fun c hc _ => fresh_of_mem_mountAll (s := { s.detachAll.state with size })
      controls_detachAll c hc
  | shutdown =>
    intro c hc
    have hs : s.shutdown.state.controls = [] := controls_detachAll
    exact absurd (hs ▸ hc) List.not_mem_nil
  | _ => exact he.elim

theorem timers_of_ends {op : Operation} (hn : s.ids.Nodup) (he : op.Ends id) :
    ∀ c ∈ (op.perform sv s).state.controls, c.id = id → c.behaviour.timers = [] := by
  intro c hc hid
  obtain ⟨k, hk⟩ := fresh_of_ends hn he c hc hid
  rw [hk, Behaviour.timers_ofKind]

/-- A timer that is taken from the queue is delivered to the control that holds it. -/
theorem deliver_eq (sv : Services) (hn : s.ids.Nodup) (hb : s.desk.timers.Balanced s.ledger)
    (hp : s.popExpired? now = some (t, s')) :
    ∃ pre c post, s.controls = pre ++ c :: post ∧ c.id = t.owner ∧
      t.handle ∈ c.behaviour.timers ∧
      s'.deliver sv t =
        { state := s'.place pre post (c.timer sv s'.size s'.desk t.handle)
          issued := (c.timer sv s'.size s'.desk t.handle).issuedBy c.id } := by
  obtain ⟨q, hq, rfl⟩ := popExpired?_eq_some hp
  obtain ⟨e, he, hid, hm⟩ := (hb.owner _ _).1 (hb.wf.ownerOf?_of_popExpired? hq)
  obtain ⟨c, hc, rfl⟩ := List.mem_map.1 he
  have hid : c.id = t.owner := hid
  unfold deliver
  cases hu : updateFirst t.owner
      (fun c => c.timer sv (s.withTimers q).size (s.withTimers q).desk t.handle)
      (s.withTimers q).controls with
  | none => exact absurd hid (updateFirst_eq_none_iff.1 hu c hc)
  | some r =>
    obtain ⟨pre, c', post, hs, hid', rfl⟩ := updateFirst_eq_some hu
    have hs : s.controls = pre ++ c' :: post := hs
    have hcc : c = c' := by
      rcases (mem_controls_iff hs).1 hc with rfl | hc
      · rfl
      · exact absurd (hid.trans hid'.symm) (ne_of_nodup_ids hn hs c hc)
    subst hcc
    refine ⟨pre, c, post, hs, hid, hm, ?_⟩
    rw [← hid]
    rfl

/-- **Timers and sessions agree.** In every state of a run the pending timers are those that the
touchpads hold, each once and under the identifier of its touchpad; both tables of the queue say
so. There are two at most for one control. Whatever an advance takes from the queue is a timer
that its owner holds at that moment. Once the session of a control has ended, no timer is pending
for it, and whatever fires for its identifier later has a handle that was given out since. -/
theorem timers_agree_with_sessions (sv : Services) (size : SurfaceSize) (cl : Claims)
    (sts : List Step) :
    let s₀ := (empty size).withClaims cl
    let s := (run sv sts s₀).state
    (s.desk.timers.pending.Perm s.heldTimers ∧ (s.desk.timers.pending.map (·.1)).Nodup ∧
      ∀ h, s.desk.timers.isPending h = true ↔ ∃ id, (h, id) ∈ s.heldTimers) ∧
    (∀ id, (s.desk.timers.pending.filter (·.2 = id)).length ≤ 2) ∧
    (∀ now t s', s.Pops sv now t s' → ∃ c ∈ s'.controls, c.id = t.owner ∧
      ∃ pad, c.behaviour = .touchpad pad ∧
        (pad.phase = .pending t.handle ∨ pad.clickTimer? = some t.handle)) ∧
    (∀ past, past <+: sts → ∀ h id, (h, id) ∈ (run sv past s₀).state.desk.timers.pending →
      h < s.desk.timers.nextHandle) ∧
    ∀ (op : Operation) id, op.Ends id →
      (∀ h, (h, id) ∉ (op.perform sv s).state.desk.timers.pending) ∧
      ∀ sts' now t s', (run sv sts' (op.perform sv s).state).state.Pops sv now t s' →
        t.owner = id → s.desk.timers.nextHandle ≤ t.handle := by
  intro s₀ s
  -- `Tidy` relative to the queue that a part of the run starts with bounds the handles of the rest
  have hs₀ : s₀.Tidy .empty := .empty size cl
  have hs : s.Tidy .empty := hs₀.run sv sts
  refine ⟨⟨hs.pending_perm, hs.balanced.wf.nodup_handles, fun h => ?_⟩, hs.length_pending_le,
    fun now t s' hp => ?_, fun past hpast h id hm => ?_, fun op id he => ?_⟩
  · simp only [hs.balanced.wf.isPending_iff, ← hs.balanced.wf.mem_pending, hs.pending_perm.mem_iff]
  · obtain ⟨c, hc, hid, hm⟩ := hs.held_of_pops hp
    refine ⟨c, hc, hid, ?_⟩
    cases hb : c.behaviour with
    | touchpad pad =>
      rw [hb] at hm
      exact ⟨pad, rfl, Touchpad.mem_timers.1 hm⟩
    | _ => rw [hb] at hm; exact absurd hm List.not_mem_nil
  · obtain ⟨rest, rfl⟩ := hpast
    have hpast := hs₀.run sv past
    have hlater := ((hpast.restart).run sv rest).follows.nextHandle_le
    show h < (run sv (past ++ rest) s₀).state.desk.timers.nextHandle
    rw [run_append]
    exact Nat.lt_of_lt_of_le
      (hpast.balanced.wf.lt_of_ownerOf? (hpast.balanced.wf.mem_pending.1 hm)) hlater
  · have ho := hs.restart.perform sv op
    have hnone : ∀ h, (h, id) ∉ (op.perform sv s).state.desk.timers.pending := fun h hm => by
      obtain ⟨c, hc, hid, hh⟩ := ho.mem_pending.1 hm
      rw [timers_of_ends hs.nodup he c hc hid] at hh
      exact absurd hh List.not_mem_nil
    refine ⟨hnone, fun sts' now t s' ⟨limit, hp⟩ hid => ?_⟩
    have hl := (ho.restart.run sv sts').deliverDue sv now limit
    obtain ⟨q, hq, -⟩ := popExpired?_eq_some hp
    have hown := hl.balanced.wf.ownerOf?_of_popExpired? hq
    rcases hl.follows.owner _ _ hown with hown | hle
    · exact absurd (ho.balanced.wf.mem_pending.2 (hid ▸ hown)) (hnone _)
    · exact Nat.le_trans ho.follows.nextHandle_le hle

end Surface
end TouchOverlay
