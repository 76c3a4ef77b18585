import TouchOverlay.Proofs.Run

/-!
# Routes and sessions agree

`Routed` is the invariant: a pointer is routed to a control exactly if the control owns it. The
table of routes and the sessions are changed by different code, a control by its reaction and the
table by the surface, so every elementary change is checked to change both alike. What others do to
the claims does not matter, since neither side looks at them once a contact is taken.
-/

namespace TouchOverlay
namespace Surface

/-- Controls lie where their placements say, and routes are what their sessions say. -/
structure Routed (s : Surface) : Prop where
  placed : ∀ c ∈ s.controls, c.placement.isValid = true ∧ c.bounds = c.placement.resolve s.size
  route : ∀ p id, s.route? p = some id ↔ ∃ c ∈ s.controls, c.id = id ∧ c.pointer? = some p

variable {sv : Services} {s s' : Surface} {is : List Issued} {K : ControlId → Prop} {c : Control}
  {pre post : List Control} {p q : PointerId} {id : ControlId} {now : Millis}

theorem getElem?_insert_route {m : PointerMap} :
    (m.insert p id)[q]? = if p = q then some id else m[q]? := by
  simp [Std.ExtTreeMap.getElem?_insert, Std.LawfulEqCmp.compare_eq_iff_eq]

theorem getElem?_erase_route {m : PointerMap} :
    (m.erase p)[q]? = if p = q then none else m[q]? := by
  simp [Std.ExtTreeMap.getElem?_erase, Std.LawfulEqCmp.compare_eq_iff_eq]

namespace Routed

/-- The route of a pointer, with one control set apart. -/
theorem route_iff (hn : s.ids.Nodup) (hs : s.controls = pre ++ c :: post) (hr : s.Routed) :
    s.route? p = some id ↔ id = c.id ∧ c.pointer? = some p ∨
      id ≠ c.id ∧ ∃ c' ∈ pre ++ post, c'.id = id ∧ c'.pointer? = some p := by
  rw [hr.route, hs]
  exact exists_keyed_iff (ne_of_nodup_ids hn hs)

theorem route_self (hn : s.ids.Nodup) (hs : s.controls = pre ++ c :: post) (hr : s.Routed) :
    s.route? p = some c.id ↔ c.pointer? = some p := by
  rw [hr.route_iff hn hs]
  simp

/-- One control has reacted, and the routes have changed as its session has. -/
theorem place {r : Reaction Control} {routes : PointerMap} (hn : s.ids.Nodup)
    (hs : s.controls = pre ++ c :: post) (hr : s.Routed) (hid : r.state.id = c.id)
    (hp : r.state.placement = c.placement) (hb : r.state.bounds = c.bounds)
    (hself : ∀ p, routes[p]? = some c.id ↔ r.state.pointer? = some p)
    (hothers : ∀ p id, id ≠ c.id → (routes[p]? = some id ↔ s.route? p = some id)) :
    ({ s.place pre post r with routes } : Surface).Routed := by
  have hne := ne_of_nodup_ids hn hs
  refine ⟨fun c' hc' => ?_, fun p id => ?_⟩
  · rcases mem_middle_iff.1 hc' with rfl | hc'
    · rw [hp, hb]
      exact hr.placed c (mem_controls hs)
    · exact hr.placed c' ((mem_controls_iff hs).2 (.inr hc'))
  · show routes[p]? = some id ↔ ∃ c' ∈ pre ++ r.state :: post, c'.id = id ∧ c'.pointer? = some p
    rw [exists_keyed_iff (by rw [hid]; exact hne), hid]
    by_cases hi : id = c.id
    · subst hi
      simpa using hself p
    · rw [hothers p id hi, hr.route_iff hn hs]
      simp [hi]

/-- A reaction that goes on with the contact it has. -/
theorem place_of_keeps {r : Reaction Control} (hn : s.ids.Nodup)
    (hs : s.controls = pre ++ c :: post) (hr : s.Routed) (hid : r.state.id = c.id)
    (hp : r.state.placement = c.placement) (hb : r.state.bounds = c.bounds)
    (hk : r.state.pointer? = c.pointer?) : (s.place pre post r).Routed :=
  hr.place hn hs hid hp hb (fun p => by rw [hk]; exact hr.route_self hn hs) fun _ _ _ => .rfl

theorem withTimers (hr : s.Routed) (t : TimerQueue) : (s.withTimers t).Routed :=
  ⟨hr.placed, hr.route⟩

theorem input (hn : s.ids.Nodup) (hi : Input sv s is s') (hr : s.Routed) : s'.Routed := by
  cases hi with
  | tick => exact hr.withTimers _
  | @fire _ pre post c now t hp hs _ =>
    obtain ⟨q, -, rfl⟩ := popExpired?_eq_some hp
    exact (hr.withTimers q).place_of_keeps hn hs rfl rfl rfl (Behaviour.timer_frame ..).1
  | lapse hp =>
    obtain ⟨q, -, rfl⟩ := popExpired?_eq_some hp
    exact hr.withTimers q
  | contact h =>
    cases h with
    | @down pre post c p spot hs hnone hcons =>
      have ht := Control.takes_down hcons
      refine hr.place hn hs rfl rfl rfl (fun q => ?_) fun q id hne => ?_
      · rw [getElem?_insert_route]
        have hq : s.routes[q]? ≠ some c.id := fun h => by
          have h : c.behaviour.pointer? = some q := (hr.route_self hn hs).1 h
          rw [ht.free] at h
          cases h
        have hp : (c.down sv s.size p s.desk spot).state.pointer? = some p := ht.pointer
        rw [hp]
        by_cases he : p = q
        · simp [he]
        · simpa [he] using hq
      · rw [getElem?_insert_route]
        split
        · rename_i he
          rw [← he, hnone]
          simp [hne.symm]
        · rfl
    | @move pre post c p spot hs _ =>
      exact hr.place_of_keeps hn hs rfl rfl rfl
        (c.behaviour.keeps_move sv (c.site s.size) p (c.bounds.toLocal spot) s.desk).1.pointer
    | @up pre post c p hs hsome =>
      have hcp : c.behaviour.pointer? = some p := (hr.route_self hn hs).1 hsome
      have hnone : (c.up s.size p s.desk).state.pointer? = none :=
        (Behaviour.drops_up (c.site s.size) s.desk hcp).pointer
      refine hr.place hn hs rfl rfl rfl (fun q => ?_) fun q id hne => ?_
      · rw [getElem?_erase_route, hnone]
        split
        · simp
        · rename_i he
          have hq : s.routes[q]? ≠ some c.id := fun h => by
            have h : c.behaviour.pointer? = some q := (hr.route_self hn hs).1 h
            rw [hcp] at h
            exact he (Option.some.inj h)
          simpa using hq
      · rw [getElem?_erase_route]
        split
        · rename_i he
          rw [← he, hsome]
          simp [hne.symm]
        · rfl
    | @stray p id hsome hne =>
      obtain ⟨c, hc, hid, -⟩ := (hr.route p id).1 hsome
      exact absurd hid (hne c hc)

theorem change (hn : s.ids.Nodup) (hc : Change K s is s') (hr : s.Routed) : s'.Routed := by
  cases hc with
  | @reset pre post c hs =>
    exact hr.place_of_keeps hn hs rfl rfl rfl
      (c.behaviour.keeps_resetToggle (c.site s.size) s.desk).pointer
  | @detach pre post c hs =>
    refine ⟨fun c' hc' => hr.placed c' ?_, fun p id => ?_⟩
    · exact (mem_controls_iff hs).2 (.inr hc')
    · show (s.routes.filter fun _ owner => owner ≠ c.id)[p]? = some id ↔
        ∃ c' ∈ pre ++ post, c'.id = id ∧ c'.pointer? = some p
      rw [Std.ExtTreeMap.getElem?_filter', Option.filter_eq_some_iff, decide_eq_true_eq]
      show s.route? p = some id ∧ id ≠ c.id ↔ _
      rw [hr.route_iff hn hs]
      constructor
      · rintro ⟨⟨hid, -⟩ | ⟨-, hc'⟩, hne⟩
        · exact absurd hid hne
        · exact hc'
      · rintro ⟨c', hc', rfl, hp⟩
        have hne := ne_of_nodup_ids hn hs c' hc'
        exact ⟨.inr ⟨hne, c', hc', rfl, hp⟩, hne⟩
  | @mount cfg _ _ hv =>
    refine ⟨fun c hc => ?_, fun p id => ?_⟩
    · rcases List.mem_append.1 hc with hc | hc
      · exact hr.placed c hc
      · rw [List.mem_singleton.1 hc]
        exact ⟨hv, rfl⟩
    · have hnone : (Control.mount s.size cfg).pointer? = none := Behaviour.pointer?_ofKind cfg.kind
      show s.route? p = some id ↔ ∃ c ∈ s.controls ++ [_], _
      rw [hr.route]
      simp [or_and_right, exists_or, hnone]
  | resize hs =>
    exact ⟨fun c hc => absurd (hs ▸ hc) List.not_mem_nil, hr.route⟩

theorem motion (hn : s.ids.Nodup) (hm : Motion sv K s is s') (hr : s.Routed) : s'.Routed := by
  rcases hm with hm | hm
  · exact hr.input hn hm
  · exact hr.change hn hm

theorem empty (size : SurfaceSize) (cl : Claims) : ((Surface.empty size).withClaims cl).Routed :=
  ⟨fun c hc => absurd hc List.not_mem_nil, fun p id => by
    show (∅ : PointerMap)[p]? = some id ↔ ∃ c ∈ [], _
    simp⟩

theorem run (hn : s.ids.Nodup) (hr : s.Routed) (sv : Services) (sts : List Step) :
    (Surface.run sv sts s).state.Routed :=
  run_keeps (P := Routed) (fun hn hm hr => hr.motion hn hm)
    (fun _ hr => ⟨hr.placed, hr.route⟩) sts hn hr

theorem eq_of_pointer (hn : s.ids.Nodup) (hr : s.Routed) {c' : Control} (hc : c ∈ s.controls)
    (hc' : c' ∈ s.controls) (hp : c.pointer? = some p) (hp' : c'.pointer? = some p) : c = c' := by
  have hid : s.route? p = some c.id := (hr.route p c.id).2 ⟨c, hc, rfl, hp⟩
  rw [(hr.route p c'.id).2 ⟨c', hc', rfl, hp'⟩] at hid
  exact eq_of_nodup_ids hn hc hc' (Option.some.inj hid).symm

end Routed

/-! ## Touches on routed pointers -/

theorem routes_deliverDue (limit : Nat) : (deliverDue sv now limit s).state.routes = s.routes := by
  induction limit generalizing s with
  | zero => rfl
  | succ limit ih =>
    rw [deliverDue]
    split
    · rfl
    · rename_i t s' h
      obtain ⟨q, -, rfl⟩ := popExpired?_eq_some h
      refine ih.trans ?_
      unfold deliver
      split <;> rfl

theorem routes_advance : (s.advance sv now).state.routes = s.routes := routes_deliverDue _

theorem route_of_not_routed (sv : Services) {e : TouchEvent} (he : e.phase ≠ .down) (hroute : s.route? e.pointer = none) :
    s.route sv e = { state := s, issued := [], consumed := false } := by
  cases hph : e.phase with
  | down => exact absurd hph he
  | move => simp only [route, hph, touchMove, hroute]
  | up => simp only [route, hph, touchUp, hroute]
  | cancel => simp only [route, hph, touchUp, hroute]

namespace Routed

/-- A touch on a routed pointer reaches the control that owns it. -/
theorem updateFirst_eq (hn : s.ids.Nodup) (hr : s.Routed) (h : s.route? p = some id)
    (f : Control → Reaction Control) :
    ∃ pre c post, s.controls = pre ++ c :: post ∧ c.id = id ∧ c.pointer? = some p ∧
      updateFirst id f s.controls = some ((f c).map (pre ++ · :: post)) := by
  cases hu : updateFirst id f s.controls with
  | some r =>
    obtain ⟨pre, c, post, hs, rfl, rfl⟩ := updateFirst_eq_some hu
    exact ⟨pre, c, post, hs, rfl, (hr.route_self hn hs).1 h, rfl⟩
  | none =>
    obtain ⟨c, hc, hid, -⟩ := (hr.route p id).1 h
    exact absurd hid (updateFirst_eq_none_iff.1 hu c hc)

theorem consumed_touchMove (hn : s.ids.Nodup) (hr : s.Routed) (spot : Point) :
    (s.touchMove sv p spot).consumed = (s.route? p).isSome := by
  unfold touchMove
  cases h : s.route? p with
  | none => rfl
  | some id =>
    obtain ⟨pre, c, post, -, -, hp, hu⟩ := hr.updateFirst_eq hn h fun c => c.move sv s.size p s.desk spot
    simp only [touchControl, hu]
    exact (c.behaviour.keeps_move sv (c.site s.size) p (c.bounds.toLocal spot) s.desk).2.2 hp

theorem consumed_touchUp (hn : s.ids.Nodup) (hr : s.Routed) :
    (s.touchUp p).consumed = (s.route? p).isSome := by
  unfold touchUp
  cases h : s.route? p with
  | none => rfl
  | some id =>
    obtain ⟨pre, c, post, -, -, hp, hu⟩ := hr.updateFirst_eq hn h fun c => c.up s.size p s.desk
    simp only [touchControl, hu]
    exact (Behaviour.drops_up (c.site s.size) s.desk hp).consumed

/-- A contact that goes on or ends is consumed if its pointer is routed, and only then. Timers that
fire before the touch do not change that. -/
theorem consumed_touch (hn : s.ids.Nodup) (hr : s.Routed) {e : TouchEvent} (he : e.phase ≠ .down) :
    (s.touch sv e).consumed = (s.route? e.pointer).isSome := by
  have ha : (s.advance sv e.time).state.Routed ∧ (s.advance sv e.time).state.ids.Nodup := by
    refine chain_advance.keeps (P := fun s => s.Routed ∧ s.ids.Nodup)
      (fun s _ s' hi h => ?_) ⟨hr, hn⟩
    exact ⟨h.1.input h.2 hi, ids_of_input hi ▸ h.2⟩
  have hroute : (s.advance sv e.time).state.route? e.pointer = s.route? e.pointer := by
    rw [route?, routes_advance]; rfl
  rw [← hroute]
  show (Surface.route sv (s.advance sv e.time).state e).consumed = _
  unfold Surface.route
  cases hph : e.phase with
  | down => exact absurd hph he
  | move => exact ha.1.consumed_touchMove ha.2 _
  | up => exact ha.1.consumed_touchUp ha.2
  | cancel => exact ha.1.consumed_touchUp ha.2

end Routed

/-- **Routes and sessions agree**, in every state of a run in which others may work on the claims.
The controls have distinct identifiers and lie where their placements say. A pointer is routed to a
control exactly if the control owns it: so no two controls own one pointer, no control is reached
from two pointers, no route leads to a control that is gone, and what a routed pointer does after
its press is always consumed. -/
theorem routes_agree_with_sessions (sv : Services) (size : SurfaceSize) (cl : Claims)
    (sts : List Step) :
    let s := (run sv sts ((empty size).withClaims cl)).state
    s.ids.Nodup ∧
    (∀ c ∈ s.controls, c.placement.isValid = true ∧ c.bounds = c.placement.resolve s.size) ∧
    (∀ p id, s.route? p = some id ↔ ∃ c ∈ s.controls, c.id = id ∧ c.pointer? = some p) ∧
    (∀ p, ∀ c ∈ s.controls, ∀ c' ∈ s.controls,
      c.pointer? = some p → c'.pointer? = some p → c = c') ∧
    (∀ p q id, s.route? p = some id → s.route? q = some id → p = q) ∧
    (∀ p id, s.route? p = some id → id ∈ s.ids) ∧
    ∀ e : TouchEvent, e.phase ≠ .down →
      ((s.touch sv e).consumed = true ↔ ∃ id, s.route? e.pointer = some id) := by
  intro s
  have hn : s.ids.Nodup := nodup_ids_run sts (nodup_ids_empty size cl)
  have hr : s.Routed := (Routed.empty size cl).run (nodup_ids_empty size cl) sv sts
  refine ⟨hn, hr.placed, hr.route, fun p c hc c' hc' => hr.eq_of_pointer hn hc hc',
    fun p q id hp hq => ?_, fun p id hp => ?_, fun e he => ?_⟩
  · obtain ⟨c, hc, rfl, hcp⟩ := (hr.route p id).1 hp
    obtain ⟨pre, post, hs⟩ := List.append_of_mem hc
    have hcq := (hr.route_self hn hs).1 hq
    rw [hcp] at hcq
    exact Option.some.inj hcq
  · obtain ⟨c, hc, hid, -⟩ := (hr.route p id).1 hp
    exact mem_ids.2 ⟨c, hc, hid⟩
  · rw [hr.consumed_touch hn he, Option.isSome_iff_exists]

end Surface
end TouchOverlay
