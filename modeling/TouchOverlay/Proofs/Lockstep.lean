import TouchOverlay.Proofs.Answers
import TouchOverlay.Proofs.ClaimProtocol
import TouchOverlay.Proofs.OnTime
import TouchOverlay.Proofs.Routing
import TouchOverlay.Proofs.Twins

/-!
# Time on a surface and on one of its controls alone

`Lockstep id s s₁`: the surface `s₁` has one control only, a twin of the control `id` of `s`, and its
clock does not run ahead. An advance delivers the timers of all controls of `s` in the order of their
deadlines, and those of the twin alone on `s₁`. What another control does with a timer of its own
leaves the deadlines of `id` as they are, so lockstep goes on without a move of `s₁`
(`Lockstep.deliver_other`). When a timer of `id` comes first on `s`, the one that plays the same part
comes first on `s₁`, and firing it sets both clocks to the same deadline (`Lockstep.deliver_own`).
-/

namespace TouchOverlay

namespace TimerQueue
variable {q q' : TimerQueue} {id o : ControlId} {hs hs' : List TimerHandle} {h k h' k' : TimerHandle}
  {now t u : Millis} {x : ExpiredTimer} {d : Due}

theorem Holds.issued (wf : q.WF) (hq : q.Holds id hs) : q.Issued hs :=
  ⟨hq.nodup, fun h hm => wf.lt_of_ownerOf? ((hq.owner h).2 hm)⟩

/-- A turn of one control leaves the deadlines of the others. -/
theorem Turn.deadlines_of_other (ht : Turn id q hs q' hs') (wf : q.WF) (hq : q.Holds id hs)
    (ho : q.ownerOf? h = some o) (hne : o ≠ id) : q'.deadlines[h]? = q.deadlines[h]? := by
  rw [ht.deadlines (hq.issued wf) (wf.lt_of_ownerOf? ho), if_neg]
  rintro ⟨hm, -⟩
  have hid := (hq.owner h).2 hm
  rw [ho] at hid
  exact hne (Option.some.inj hid)

/-- Of two deadlines that are equal the older timer comes first, whatever the handles are. -/
theorem isLE_order_congr (hle : h ≤ k ↔ h' ≤ k') :
    (Due.order ⟨t, h⟩ ⟨u, k⟩).isLE ↔ (Due.order ⟨t, h'⟩ ⟨u, k'⟩).isLE := by
  simp only [Due.order, compareLex, compareOn, Ordering.isLE_then_iff_and, Std.isLE_compare, hle]

theorem popExpired?_of_first? (hf : q.first? = some d) (hle : d.deadline ≤ now) :
    ∃ x q', q.popExpired? now = some (x, q') ∧ x.handle = d.handle ∧ x.deadline = d.deadline := by
  obtain ⟨o, ho⟩ := mem_byDeadline_iff.1 (first?_eq_some_iff.1 hf).1
  refine ⟨⟨d.handle, o, d.deadline⟩, (q.remove d).advanceClock d.deadline, ?_, rfl, rfl⟩
  simp only [popExpired?, hf, Option.bind_some, UInt64.not_lt.2 hle, if_false, ho, Option.map_some]

/-- A timer that is taken leaves those of other controls in the queue. -/
theorem WF.frame_of_pop (wf : q.WF) (hp : q.popExpired? now = some (x, q'))
    (ho : q.ownerOf? h = some o) (hne : o ≠ x.owner) :
    q'.ownerOf? h = some o ∧ q'.deadlines[h]? = q.deadlines[h]? := by
  have hh : x.handle ≠ h := by
    rintro rfl
    rw [wf.ownerOf?_of_popExpired? hp] at ho
    exact hne (Option.some.inj ho).symm
  rw [ownerOf?_popExpired? hp, (deadlines_popExpired? wf hp).2, if_neg hh, if_neg hh]
  exact ⟨ho, rfl⟩

end TimerQueue

namespace Surface
open TimerQueue

/-- What holds between touches if nobody else works on the claims. -/
structure Orderly (s : Surface) : Prop where
  nodup : s.ids.Nodup
  balanced : s.desk.timers.Balanced s.ledger
  routed : s.Routed
  protocol : s.Protocol fun _ => False
  onTime : s.desk.timers.NotBefore s.now

variable {sv : Services} {s s' s₁ s₁' : Surface} {is : List Issued} {c c₁ : Control}
  {pre post : List Control} {now : Millis} {t t₁ : ExpiredTimer} {id : ControlId} {h : TimerHandle}

theorem mem_place_of_ne {r : Reaction Control} (hs : s.controls = pre ++ c :: post) :
    ∀ c' ∈ s.controls, c'.id ≠ c.id → c' ∈ (s.place pre post r).controls := by
  intro c' hc' hne
  rcases (mem_controls_iff hs).1 hc' with rfl | hc'
  · exact absurd rfl hne
  · exact mem_middle_iff.2 (.inr hc')

theorem eq_of_singleton {x : Control} (h : [x] = pre ++ c :: post) :
    pre = [] ∧ c = x ∧ post = [] := by
  cases pre with
  | nil =>
    cases h
    exact ⟨rfl, rfl, rfl⟩
  | cons _ _ => simp at h

namespace Orderly

theorem input (hi : Input sv s is s') (ho : s.Orderly) (ht : s'.desk.timers.NotBefore s'.now) :
    s'.Orderly :=
  ⟨ids_of_input hi ▸ ho.nodup, (balanced_of_input ho.nodup hi ho.balanced).1,
    ho.routed.input ho.nodup hi, (ho.protocol.input ho.nodup hi).1, ht⟩

theorem contact (hc : ContactStep sv s is s') (ho : s.Orderly) : s'.Orderly ∧ s'.now = s.now :=
  ⟨ho.input (.contact hc) (OnTime.contact ho.onTime hc), now_contact hc⟩

theorem tick (sv : Services) (hp : s.popExpired? now = none) (ho : s.Orderly) :
    (s.tick now).Orderly := by
  have hp : s.desk.timers.popExpired? now = none := Option.map_eq_none_iff.1 hp
  refine @input sv s (s.tick now) [] (.tick now) ho ⟨UInt64.le_refl _, fun d hd => ?_⟩
  have hlater := UInt64.le_of_lt (popExpired?_eq_none_iff.1 hp d hd)
  exact Millis.max_le.2 ⟨ho.onTime.deadline d hd, hlater⟩

theorem holds (ho : s.Orderly) (hc : c ∈ s.controls) :
    s.desk.timers.Holds c.id c.behaviour.timers :=
  holds_of_balanced ho.nodup ho.balanced hc

theorem now_of_pop (hp : s.popExpired? now = some (t, s')) (ho : s.Orderly) :
    s'.now = t.deadline ∧ s.now ≤ t.deadline :=
  have hpop := OnTime.pop ho.onTime hp
  ⟨hpop.1, hpop.2.1⟩

theorem deliver (sv : Services) (hp : s.popExpired? now = some (t, s')) (ho : s.Orderly) :
    (s'.deliver sv t).state.Orderly ∧ (s'.deliver sv t).state.now = t.deadline :=
  ⟨ho.input (input_deliver hp) (OnTime.deliver ho.onTime hp),
    (now_deliver sv s' t).trans (OnTime.pop ho.onTime hp).1⟩

end Orderly

/-- The only control of `s₁` is a twin of the control `id` of `s`, and its clock does not run
ahead. -/
structure Lockstep (id : ControlId) (s s₁ : Surface) : Prop where
  whole : s.Orderly
  alone : s₁.Orderly
  size : s₁.size = s.size
  now : s₁.now ≤ s.now
  twins : ∃ c ∈ s.controls, c.id = id ∧ ∃ b, s₁.controls = [{ c with behaviour := b }] ∧
    c.behaviour.Twin s.desk.timers s₁.desk.timers b

namespace Lockstep

/-- Something has happened on the whole surface that does not concern the control. -/
theorem stay (hl : s.Lockstep id s₁) (ho : s'.Orderly) (hsize : s'.size = s.size)
    (hnow : s.now ≤ s'.now) (hc : ∀ c ∈ s.controls, c.id = id → c ∈ s'.controls)
    (hq : ∀ h, s.desk.timers.ownerOf? h = some id →
      s'.desk.timers.deadlines[h]? = s.desk.timers.deadlines[h]?) : s'.Lockstep id s₁ := by
  obtain ⟨c, hm, rfl, b, hs₁, ht⟩ := hl.twins
  refine ⟨ho, hl.alone, hl.size.trans hsize.symm, UInt64.le_trans hl.now hnow,
    c, hc c hm rfl, rfl, b, hs₁, ht.congr (fun h hh => ?_) fun _ _ => rfl⟩
  exact hq h (((hl.whole.holds hm).owner h).2 hh)

/-- A timer of another control fires. -/
theorem deliver_other (sv : Services) (hl : s.Lockstep id s₁)
    (hp : s.popExpired? now = some (t, s')) (hne : t.owner ≠ id) :
    (s'.deliver sv t).state.Lockstep id s₁ ∧ requestsOf id (s'.deliver sv t).issued = [] := by
  have ho := hl.whole
  obtain ⟨pre, c, post, hs, hid, -, hd⟩ := deliver_eq sv ho.nodup ho.balanced hp
  obtain ⟨horder, hnow⟩ := ho.deliver sv hp
  have hle := (ho.now_of_pop hp).2
  obtain ⟨q, hq, rfl⟩ := popExpired?_eq_some hp
  have hholds := ho.holds (mem_controls hs)
  have hpop := hholds.erase t.handle fun _ => ownerOf?_popExpired? hq
  have hturn := (Behaviour.keeps_timer sv (c.site s.size) (s.withTimers q).desk t.handle
    hholds.nodup).turn
  rw [← hid] at hne
  rw [hd] at horder hnow ⊢
  refine ⟨hl.stay horder rfl (hnow ▸ hle) (fun c' hc' hc'id => ?_) fun h howner => ?_, ?_⟩
  · exact mem_place_of_ne (s := s) hs c' hc' (hc'id ▸ hne.symm)
  · obtain ⟨hkept, hdl⟩ := ho.balanced.wf.frame_of_pop hq howner (hid ▸ hne.symm)
    have hframe := hturn.deadlines_of_other (ho.balanced.wf.popExpired? hq) hpop hkept hne.symm
    exact hframe.trans hdl
  · exact requestsOf_issuedBy_of_ne hne _

/-- Every timer of the lone control has its twin on the whole surface. -/
theorem exists_due {d : Due} (hl : s.Lockstep id s₁) (hs₁ : s₁.controls = [c₁])
    (ht : c.behaviour.Twin s.desk.timers s₁.desk.timers c₁.behaviour)
    (hd : d ∈ s₁.desk.timers.byDeadline) :
    ∃ k, c.behaviour.SamePart c₁.behaviour k d.handle ∧
      (⟨d.deadline, k⟩ : Due) ∈ s.desk.timers.byDeadline := by
  have hb := hl.alone.balanced
  obtain ⟨o, ho⟩ := mem_byDeadline_iff.1 hd
  obtain ⟨e, he, -, hm⟩ := (hb.owner d.handle o).1 (hb.wf.ownerOf?_eq_some_iff.2 ⟨d.deadline, ho⟩)
  rw [ledger, hs₁, List.map_singleton, List.mem_singleton] at he
  subst he
  obtain ⟨k, hk⟩ := ht.exists_part.2 d.handle hm
  refine ⟨k, hk, (hl.whole.balanced.wf.agree _).2 ?_⟩
  exact (hk.deadline ht).trans ((hb.wf.agree d).1 hd)

/-- Both controls have reacted alike. -/
theorem of_react {r r₁ : Reaction Behaviour} (ho : s.Orderly) (ho₁ : s₁.Orderly)
    (hsize : s₁.size = s.size) (hnow : s₁.now ≤ s.now) (hid : c.id = id)
    (hs : s.controls = pre ++ (c.react r).state :: post) (hd : s.desk = r.desk)
    (hs₁ : s₁.controls = [{ c with behaviour := r₁.state }])
    (hd₁ : s₁.desk = r₁.desk) (hr : Reaction.Twin Behaviour.Twin r r₁) : s.Lockstep id s₁ := by
  refine ⟨ho, ho₁, hsize, hnow, (c.react r).state, mem_controls hs, hid, r₁.state, hs₁, ?_⟩
  rw [hd, hd₁]
  exact hr.state

/-- If a timer of the control comes first on the whole surface, its twin comes first alone. -/
theorem popExpired?_alone (hl : s.Lockstep id s₁) {b : Behaviour}
    (hs : s.controls = pre ++ c :: post) (hs₁ : s₁.controls = [{ c with behaviour := b }])
    (ht : c.behaviour.Twin s.desk.timers s₁.desk.timers b)
    (hp : s.popExpired? now = some (t, s')) (hm : t.handle ∈ c.behaviour.timers) :
    ∃ t₁ s₁', s₁.popExpired? now = some (t₁, s₁') ∧ t₁.deadline = t.deadline ∧
      c.behaviour.SamePart b t.handle t₁.handle := by
  obtain ⟨q, hq, -⟩ := popExpired?_eq_some hp
  obtain ⟨hf, hdue, -, -⟩ := TimerQueue.popExpired?_eq_some hq
  obtain ⟨hmem, hmin⟩ := first?_eq_some_iff.1 hf
  obtain ⟨h₁, hpart⟩ := ht.exists_part.1 t.handle hm
  have hn : c.behaviour.timers.Nodup := (hl.whole.holds (mem_controls hs)).nodup
  have hn₁ : b.timers.Nodup := (hl.alone.holds (hs₁ ▸ List.mem_singleton_self _)).nodup
  have hfirst : s₁.desk.timers.first? = some ⟨t.deadline, h₁⟩ := by
    refine first?_eq_some_iff.2 ⟨(hl.alone.balanced.wf.agree _).2 ?_, fun d hd => ?_⟩
    · exact (hpart.deadline ht).symm.trans ((hl.whole.balanced.wf.agree _).1 hmem)
    · obtain ⟨k, hk, hkm⟩ := hl.exists_due hs₁ ht hd
      exact (isLE_order_congr (hpart.le_iff ht hn hn₁ hk)).1 (hmin _ hkm)
  obtain ⟨t₁, q₁, hq₁, hh₁, hd₁⟩ := popExpired?_of_first? hfirst hdue
  have hh₁ : t₁.handle = h₁ := hh₁
  refine ⟨t₁, s₁.withTimers q₁, ?_, hd₁, hh₁ ▸ hpart⟩
  rw [popExpired?, hq₁]
  rfl

/-- A timer of the control fires, and so does its twin. -/
theorem deliver_own (sv : Services) (hl : s.Lockstep id s₁)
    (hp : s.popExpired? now = some (t, s')) (howner : t.owner = id) :
    ∃ t₁ s₁', s₁.popExpired? now = some (t₁, s₁') ∧
      (s'.deliver sv t).state.Lockstep id (s₁'.deliver sv t₁).state ∧
      requestsOf id (s'.deliver sv t).issued = (s₁'.deliver sv t₁).issued.map (·.request) := by
  have ho := hl.whole
  have ho₁ := hl.alone
  obtain ⟨pre, c, post, hs, hid, hm, hd⟩ := deliver_eq sv ho.nodup ho.balanced hp
  obtain ⟨c', hc', rfl, b, hs₁, ht⟩ := hl.twins
  obtain rfl : c = c' := eq_of_nodup_ids ho.nodup (mem_controls hs) hc' (hid.trans howner)
  obtain ⟨t₁, s₁', hp₁, hdue, hpart⟩ := hl.popExpired?_alone hs hs₁ ht hp hm
  obtain ⟨pre₁, c₁, post₁, hs₁', -, -, hd₁⟩ := deliver_eq sv ho₁.nodup ho₁.balanced hp₁
  obtain ⟨rfl, rfl, rfl⟩ := eq_of_singleton (hs₁.symm.trans hs₁')
  obtain ⟨horder, hnow⟩ := ho.deliver sv hp
  obtain ⟨horder₁, hnow₁⟩ := ho₁.deliver sv hp₁
  have hpop := (ho.now_of_pop hp).1
  have hpop₁ := (ho₁.now_of_pop hp₁).1
  obtain ⟨q, hq, rfl⟩ := popExpired?_eq_some hp
  obtain ⟨q₁, hq₁, rfl⟩ := popExpired?_eq_some hp₁
  have hr : Reaction.Twin Behaviour.Twin
      (c.behaviour.timer sv (c.site s.size) (s.withTimers q).desk t.handle)
      (b.timer sv (c.site s₁.size) (s₁.withTimers q₁).desk t₁.handle) := by
    obtain ⟨-, hkeep⟩ := deadlines_popExpired? ho.balanced.wf hq
    obtain ⟨-, hkeep₁⟩ := deadlines_popExpired? ho₁.balanced.wf hq₁
    have hn₁ : b.timers.Nodup := (ho₁.holds (hs₁ ▸ List.mem_singleton_self _)).nodup
    rw [hl.size]
    -- both clocks stand at the deadline that the two timers share
    exact ht.timer sv (c.site s.size) hpart (ho.holds hc').nodup hn₁
      (hpop.trans (hdue.symm.trans hpop₁.symm)) (fun k hk => (hkeep k).trans (if_neg hk.symm))
      fun k hk => (hkeep₁ k).trans (if_neg hk.symm)
  have hle : (deliver sv (s₁.withTimers q₁) t₁).state.now ≤
      (deliver sv (s.withTimers q) t).state.now := by
    rw [hnow, hnow₁, hdue]
    exact UInt64.le_refl _
  refine ⟨t₁, s₁.withTimers q₁, hp₁, ?_, ?_⟩
  · rw [hd] at horder hle ⊢
    rw [hd₁] at horder₁ hle ⊢
    exact .of_react horder horder₁ hl.size hle rfl rfl rfl rfl rfl hr
  · rw [hd, hd₁, requestsOf_issuedBy, map_request_issuedBy]
    exact hr.requests

/-- If nothing is due on the whole surface, nothing is due alone. -/
theorem popExpired?_eq_none (hl : s.Lockstep id s₁) (hp : s.popExpired? now = none) :
    s₁.popExpired? now = none := by
  have hp : s.desk.timers.popExpired? now = none := Option.map_eq_none_iff.1 hp
  obtain ⟨c, -, -, b, hs₁, ht⟩ := hl.twins
  refine Option.map_eq_none_iff.2 (popExpired?_eq_none_iff.2 fun d hd => ?_)
  obtain ⟨k, -, hk⟩ := hl.exists_due hs₁ ht hd
  exact popExpired?_eq_none_iff.1 hp ⟨d.deadline, k⟩ hk

theorem tick (sv : Services) (hl : s.Lockstep id s₁) (hp : s.popExpired? now = none)
    (hle : s.now ≤ now) :
    (s.tick now).Lockstep id (s₁.tick now) ∧ (s.tick now).now = now ∧ (s₁.tick now).now = now := by
  have hnow : (s.tick now).now = now := Millis.max_eq_right hle
  have hnow₁ : (s₁.tick now).now = now := Millis.max_eq_right (UInt64.le_trans hl.now hle)
  refine ⟨⟨hl.whole.tick sv hp, hl.alone.tick sv (hl.popExpired?_eq_none hp), hl.size, ?_, ?_⟩,
    hnow, hnow₁⟩
  · rw [hnow, hnow₁]
    exact UInt64.le_refl _
  · obtain ⟨c, hc, hid, b, hs₁, ht⟩ := hl.twins
    exact ⟨c, hc, hid, b, hs₁, ht.congr (fun _ _ => rfl) fun _ _ => rfl⟩

/-- Time passes on both surfaces. -/
theorem advance (sv : Services) (hl : s.Lockstep id s₁) (hle : s.now ≤ now) :
    (s.advance sv now).state.Lockstep id (s₁.advance sv now).state ∧
      (s.advance sv now).state.now = now ∧ (s₁.advance sv now).state.now = now ∧
      requestsOf id (s.advance sv now).issued = (s₁.advance sv now).issued.map (·.request) := by
  induction s using advance_induction sv now generalizing s₁ with
  | idle s hp =>
    obtain ⟨htick, hnow, hnow₁⟩ := hl.tick sv hp hle
    rw [advance_of_popExpired?_eq_none hp,
      advance_of_popExpired?_eq_none (hl.popExpired?_eq_none hp)]
    exact ⟨htick, hnow, hnow₁, rfl⟩
  | pop s t s' hp ih =>
    have hdue : (s'.deliver sv t).state.now ≤ now := by
      obtain ⟨q, hq, rfl⟩ := popExpired?_eq_some hp
      rw [(hl.whole.deliver sv hp).2]
      exact (now_popExpired? hq).2
    rw [advance_of_popExpired? hp]
    simp only [AdvanceOutcome.andThen, requestsOf_append]
    by_cases howner : t.owner = id
    · obtain ⟨t₁, s₁', hp₁, hl', hreq⟩ := hl.deliver_own sv hp howner
      obtain ⟨hl'', hnow, hnow₁, hrest⟩ := ih hl' hdue
      rw [advance_of_popExpired? hp₁]
      simp only [AdvanceOutcome.andThen, List.map_append]
      exact ⟨hl'', hnow, hnow₁, by rw [hreq, hrest]⟩
    · obtain ⟨hl', hnone⟩ := hl.deliver_other sv hp howner
      obtain ⟨hl'', hnow, hnow₁, hrest⟩ := ih hl' hdue
      exact ⟨hl'', hnow, hnow₁, by rw [hnone, hrest, List.nil_append]⟩

end Lockstep

end Surface
end TouchOverlay
