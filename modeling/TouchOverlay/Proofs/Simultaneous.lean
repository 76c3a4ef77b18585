import TouchOverlay.Proofs.OnTime
import TouchOverlay.Proofs.Routing
import TouchOverlay.Proofs.Withdrawals

/-!
# Simultaneous touches

Two fingers that are on the surface at the same time are on different controls. What a touch of a
routed pointer does is a `Response` of the control that owns the pointer: what that control becomes,
its requests, and what it takes off the desk. The response is the same on every surface that has the
control, so a touch of another pointer before it makes no difference to it, and responses of two
controls can be carried out in either order.

The second touch starts with an advance to the same time. The timers that were due have fired before
the first touch, which only takes timers away, so nothing is due then.
-/

namespace TouchOverlay

/-- What a touch of a control's own pointer does to a surface. -/
structure Response where
  control : Control
  requests : List Request
  withdrawn : List Withdrawal

/-- The surface with a control in the place of the one that has its identifier. -/
def Surface.withControl (s : Surface) (c : Control) : Surface :=
  { s with controls := s.controls.map fun c' => if c'.id = c.id then c else c' }

/-- A contact that lifts takes its route with it. -/
def TouchEvent.routesAfter (e : TouchEvent) (routes : PointerMap) : PointerMap :=
  match e.phase with
  | .move => routes
  | _ => routes.erase e.pointer

/-- The outcome of a touch on a surface, given the response of the control. -/
def Response.on (r : Response) (e : TouchEvent) (s : Surface) : TouchOutcome :=
  { state :=
      { s.withControl r.control with
        desk := s.desk.withdraw r.withdrawn
        routes := e.routesAfter s.routes }
    issued := r.requests.map (⟨r.control.id, ·⟩)
    consumed := true }

/-- The touch does the same on every surface with the control, if the control owns the pointer. -/
structure Response.To (sv : Services) (size : SurfaceSize) (e : TouchEvent) (c : Control)
    (r : Response) : Prop where
  id : r.control.id = c.id
  route : ∀ s : Surface, s.size = size → s.ids.Nodup → c ∈ s.controls →
    s.route? e.pointer = some c.id → s.route sv e = r.on e s

namespace Surface
open TimerQueue

variable {sv : Services} {s : Surface} {c c' : Control} {e e' : TouchEvent} {p : PointerId}
  {r r' : Response}

theorem ids_withControl : (s.withControl c).ids = s.ids := by
  simp only [ids, withControl, List.map_map]
  refine List.map_congr_left fun c' _ => ?_
  simp only [Function.comp_apply]
  split
  · rename_i hid
    exact hid.symm
  · rfl

theorem mem_withControl_of_ne (hc' : c' ∈ s.controls) (hne : c'.id ≠ c.id) :
    c' ∈ (s.withControl c).controls :=
  List.mem_map.2 ⟨c', hc', if_neg hne⟩

theorem withControl_comm (hne : c.id ≠ c'.id) :
    (s.withControl c).withControl c' = (s.withControl c').withControl c := by
  simp only [withControl, List.map_map]
  congr 1
  refine List.map_congr_left fun x _ => ?_
  simp only [Function.comp_apply]
  by_cases hx : x.id = c.id
  · simp [hx, hne]
  · by_cases hx' : x.id = c'.id
    · simp [hx', hne.symm]
    · simp [hx, hx']

theorem controls_withControl {pre post : List Control} (hn : s.ids.Nodup)
    (hs : s.controls = pre ++ c :: post) (hid : c'.id = c.id) :
    (s.withControl c').controls = pre ++ c' :: post := by
  have hkeep : ∀ cs : List Control, (∀ x ∈ cs, x.id ≠ c.id) →
      cs.map (fun x => if x.id = c'.id then c' else x) = cs := by
    intro cs hcs
    refine (List.map_congr_left fun x hx => ?_).trans (List.map_id cs)
    rw [hid, if_neg (hcs x hx)]
    rfl
  have hne := ne_of_nodup_ids hn hs
  have hpre := hkeep pre fun x hx => hne x (List.mem_append_left _ hx)
  have hpost := hkeep post fun x hx => hne x (List.mem_append_right _ hx)
  rw [withControl, hs, List.map_append, List.map_cons, hpre, hpost, if_pos hid.symm]

/-- A call that only takes things off the desk, on a control that is on the surface. -/
theorem touchControl_of_withdraws (hn : s.ids.Nodup) (hc : c ∈ s.controls)
    {f : Control → Desk → Reaction Control} {ws : List Withdrawal} (hf : Withdraws (f c) ws)
    (hid : (f c {}).state.id = c.id) :
    s.touchControl c.id (fun c => f c s.desk) =
      { state := { s.withControl (f c {}).state with desk := s.desk.withdraw ws }
        issued := (f c {}).issuedBy c.id
        consumed := (f c {}).consumed } := by
  unfold touchControl
  cases hu : updateFirst c.id (fun c => f c s.desk) s.controls with
  | none => exact absurd rfl (updateFirst_eq_none_iff.1 hu c hc)
  | some r =>
    obtain ⟨pre, c₁, post, hs, hid₁, rfl⟩ := updateFirst_eq_some hu
    obtain rfl : c₁ = c := eq_of_nodup_ids hn (mem_controls hs) hc hid₁
    have hcs := controls_withControl hn hs hid
    simp only [hf s.desk, absorb, Reaction.map, ← hcs]
    rfl

theorem response_move (sv : Services) (size : SurfaceSize) (hph : e.phase = .move)
    (hp : c.pointer? = some e.pointer) : ∃ r : Response, r.To sv size e c := by
  obtain ⟨ws, hws⟩ := Control.withdraws_move sv size e.position hp
  refine ⟨⟨(c.move sv size e.pointer {} e.position).state,
    (c.move sv size e.pointer {} e.position).requests, ws⟩, rfl, ?_⟩
  rintro s rfl hn hc hroute
  have hcons : (c.move sv s.size e.pointer {} e.position).consumed = true :=
    (c.behaviour.keeps_move sv (c.site s.size) e.pointer (c.bounds.toLocal e.position) {}).2.2 hp
  have htouch := touchControl_of_withdraws hn hc
    (f := fun c d => c.move sv s.size e.pointer d e.position) hws rfl
  simp only [route, hph, touchMove, hroute, htouch, hcons, Response.on, TouchEvent.routesAfter]
  rfl

theorem response_up (sv : Services) (size : SurfaceSize) (hph : e.phase = .up ∨ e.phase = .cancel)
    (hp : c.pointer? = some e.pointer) : ∃ r : Response, r.To sv size e c := by
  refine ⟨⟨(c.up size e.pointer {}).state, (c.up size e.pointer {}).requests,
    [(c.site size).dropped e.pointer]⟩, rfl, ?_⟩
  rintro s rfl hn hc hroute
  have hcons : (c.up s.size e.pointer {}).consumed = true :=
    (Behaviour.drops_up (c.site s.size) {} hp).consumed
  -- the route is gone before the control hears of the end of its contact
  have htouch := touchControl_of_withdraws (s := { s with routes := s.routes.erase e.pointer }) hn
    hc (f := fun c d => c.up s.size e.pointer d) (Control.withdraws_up s.size hp) rfl
  rcases hph with hph | hph <;>
    simp only [route, hph, touchUp, hroute, htouch, hcons, Response.on, TouchEvent.routesAfter] <;>
    rfl

theorem exists_response (sv : Services) (size : SurfaceSize) (he : e.phase ≠ .down)
    (hp : c.pointer? = some e.pointer) : ∃ r : Response, r.To sv size e c := by
  cases hph : e.phase with
  | down => exact absurd hph he
  | move => exact response_move sv size hph hp
  | up => exact response_up sv size (.inl hph) hp
  | cancel => exact response_up sv size (.inr hph) hp

theorem Routed.route_cases (sv : Services) (hn : s.ids.Nodup) (hr : s.Routed)
    (he : e.phase ≠ .down) :
    s.route? e.pointer = none ∧ s.route sv e = { state := s, issued := [], consumed := false } ∨
      ∃ c ∈ s.controls, c.pointer? = some e.pointer ∧ s.route? e.pointer = some c.id ∧
        ∃ r : Response, r.To sv s.size e c ∧ s.route sv e = r.on e s := by
  cases hroute : s.route? e.pointer with
  | none => exact .inl ⟨rfl, route_of_not_routed sv he hroute⟩
  | some id =>
    obtain ⟨c, hc, rfl, hp⟩ := (hr.route e.pointer id).1 hroute
    obtain ⟨r, hto⟩ := exists_response sv s.size he hp
    exact .inr ⟨c, hc, hp, rfl, r, hto, hto.route s rfl hn hc hroute⟩

/-! ## Two responses -/

theorem getElem?_routesAfter {m : PointerMap} :
    (e.routesAfter m)[p]? = if e.phase ≠ .move ∧ e.pointer = p then none else m[p]? := by
  unfold TouchEvent.routesAfter
  cases e.phase <;> simp [getElem?_erase_route]

theorem route?_on (hne : e.pointer ≠ p) : (r.on e s).state.route? p = s.route? p := by
  show (e.routesAfter s.routes)[p]? = _
  rw [getElem?_routesAfter, if_neg fun h => hne h.2]
  rfl

theorem routesAfter_comm (e e' : TouchEvent) (m : PointerMap) :
    e'.routesAfter (e.routesAfter m) = e.routesAfter (e'.routesAfter m) := by
  refine Std.ExtTreeMap.ext_getElem? fun p => ?_
  simp only [getElem?_routesAfter]
  split <;> split <;> rfl

theorem on_comm (wf : s.desk.timers.WF) (hne : r.control.id ≠ r'.control.id) :
    (r'.on e' (r.on e s).state).state = (r.on e (r'.on e' s).state).state := by
  have hcontrols := congrArg Surface.controls (withControl_comm (s := s) hne)
  have hdesk := Desk.withdraw_comm wf r.withdrawn r'.withdrawn
  have hroutes := routesAfter_comm e e' s.routes
  simp only [Response.on, withControl] at hcontrols ⊢
  rw [hcontrols, hdesk, hroutes]

/-- The response to a touch is the same after a touch that another control has responded to. -/
theorem route_on {size : SurfaceSize} (hn : s.ids.Nodup) (hsize : s.size = size)
    (hto : r'.To sv size e' c') (hc' : c' ∈ s.controls) (hroute : s.route? e'.pointer = some c'.id)
    (hid : c'.id ≠ r.control.id) (hne : e.pointer ≠ e'.pointer) :
    (r.on e s).state.route sv e' = r'.on e' (r.on e s).state := by
  refine hto.route _ hsize ?_ (mem_withControl_of_ne hc' hid) ((route?_on hne).trans hroute)
  show (s.withControl r.control).ids.Nodup
  rwa [ids_withControl]

/-- Touches of two pointers do the same in either order. -/
theorem Routed.route_comm (sv : Services) (hn : s.ids.Nodup) (hr : s.Routed)
    (wf : s.desk.timers.WF) (he : e.phase ≠ .down) (he' : e'.phase ≠ .down)
    (hne : e.pointer ≠ e'.pointer) :
    ((s.route sv e).state.route sv e').issued = (s.route sv e').issued ∧
      ((s.route sv e).state.route sv e').consumed = (s.route sv e').consumed ∧
      ((s.route sv e).state.route sv e').state = ((s.route sv e').state.route sv e).state := by
  rcases hr.route_cases sv hn he with ⟨hroute, hout⟩ | ⟨c, hc, hp, hroute, r, hto, hout⟩ <;>
    rcases hr.route_cases sv hn he' with ⟨hroute', hout'⟩ | ⟨c', hc', hp', hroute', r', hto', hout'⟩
  · simp only [hout, hout', and_self]
  · have hnone := route_of_not_routed sv he
      ((route?_on (r := r') (s := s) hne.symm).trans hroute)
    simp only [hout, hout', hnone, and_self]
  · have hnone := route_of_not_routed sv he'
      ((route?_on (r := r) (s := s) hne).trans hroute')
    simp only [hout, hout', hnone, and_self]
  · -- one control has one contact, so these are two
    have hid : c.id ≠ c'.id := by
      intro hid
      obtain rfl := eq_of_nodup_ids hn hc hc' hid
      rw [hp] at hp'
      exact hne (Option.some.inj hp')
    have hafter := route_on (e := e) hn rfl hto' hc' hroute' (r := r)
      (fun h => hid (h.trans hto.id).symm) hne
    have hafter' := route_on (e := e') hn rfl hto hc hroute (r := r')
      (fun h => hid (h.trans hto'.id)) hne.symm
    rw [hout, hout', hafter, hafter']
    exact ⟨rfl, rfl, on_comm wf fun h => hid (hto.id.symm.trans (h.trans hto'.id))⟩

/-! ## The advance before the second touch -/

theorem popExpired?_withdraw {d : Desk} {now : Millis} (ws : List Withdrawal) (wf : d.timers.WF)
    (h : d.timers.popExpired? now = none) : (d.withdraw ws).timers.popExpired? now = none := by
  rw [Option.eq_none_iff_forall_ne_some]
  rintro ⟨t, q⟩ hp
  obtain ⟨ht, hdue, -⟩ := (Desk.wf_withdraw ws wf).first_of_popExpired? hp
  have hsome := wf.isSome_popExpired?_iff.2 ⟨t, ((Desk.mem_withdraw wf).1 ht).1, hdue⟩
  rw [h] at hsome
  cases hsome

/-- A touch leaves nothing due, if nothing was, and the clock where it is. -/
theorem Routed.advance_route (sv : Services) {now : Millis} (hn : s.ids.Nodup) (hr : s.Routed)
    (wf : s.desk.timers.WF) (he : e.phase ≠ .down)
    (hquiet : s.desk.timers.popExpired? now = none) (hnow : now ≤ s.now) :
    (s.route sv e).state.advance sv now = { state := (s.route sv e).state } := by
  rcases hr.route_cases sv hn he with ⟨-, hout⟩ | ⟨c, -, -, -, r, -, hout⟩ <;> rw [hout]
  · exact advance_of_quiet (Option.map_eq_none_iff.2 hquiet) hnow
  · have hquiet' : (r.on e s).state.desk.timers.popExpired? now = none :=
      popExpired?_withdraw r.withdrawn wf hquiet
    refine advance_of_quiet (Option.map_eq_none_iff.2 hquiet') ?_
    show now ≤ (s.desk.withdraw r.withdrawn).timers.now
    rwa [Desk.now_withdraw]

/-- **Simultaneous touches commute**, in every state of a run in which others may work on the
claims, wherever the two pointers are, unless one of them is a press. Each touch is answered in the
same way whether it comes first or second, and makes the same requests. Those of the timers that are
due at the time come before both, and the second touch finds none that is due. The surface that is
left is the same. -/
theorem simultaneous_touches_commute (sv : Services) (size : SurfaceSize) (cl : Claims)
    (sts : List Step) (e e' : TouchEvent) (htime : e.time = e'.time)
    (hne : e.pointer ≠ e'.pointer) (he : e.phase ≠ .down) (he' : e'.phase ≠ .down) :
    let s := (run sv sts ((empty size).withClaims cl)).state
    let due := s.advance sv e.time
    let first := s.touch sv e
    let second := first.state.touch sv e'
    let first' := s.touch sv e'
    let second' := first'.state.touch sv e
    first.consumed = second'.consumed ∧ first'.consumed = second.consumed ∧
    second.state = second'.state ∧
    (∃ is is', first.issued = due.issued ++ is ∧ second.issued = is' ∧
      first'.issued = due.issued ++ is' ∧ second'.issued = is) ∧
    first.state.advance sv e'.time = { state := first.state } ∧
    first'.state.advance sv e.time = { state := first'.state } := by
  intro s due first second first' second'
  have hstart := nodup_ids_empty size cl
  have hs : s.Tidy .empty := (Tidy.empty size cl).run sv sts
  have hr : s.Routed := (Routed.empty size cl).run hstart sv sts
  -- the state that both orders of the touches start from
  obtain ⟨hn, hb, -⟩ : due.state.Tidy .empty := hs.perform sv (.advance e.time)
  have hr : due.state.Routed := hr.run hs.nodup sv [.operation (.advance e.time)]
  have hquiet : due.state.desk.timers.popExpired? e.time = none :=
    popExpired?_eq_none_iff.2 fun d hd => lt_deadline_of_mem_advance hd
  have hnow : e.time ≤ due.state.now := by
    rw [now_advance]
    exact Millis.le_max_right
  have hfirst : first = { due.state.route sv e with
      issued := due.issued ++ (due.state.route sv e).issued } := rfl
  have hfirst' : first' = { due.state.route sv e' with
      issued := due.issued ++ (due.state.route sv e').issued } := by
    simp only [first', touch, ← htime]
    rfl
  have hidle : first.state.advance sv e'.time = { state := first.state } := by
    rw [← htime]
    exact hr.advance_route sv hn hb.wf he hquiet hnow
  have hidle' : first'.state.advance sv e.time = { state := first'.state } := by
    rw [hfirst']
    exact hr.advance_route sv hn hb.wf he' hquiet hnow
  have hsecond : second = first.state.route sv e' := by
    simp only [second, touch, hidle]
    rfl
  have hsecond' : second' = first'.state.route sv e := by
    simp only [second', touch, hidle']
    rfl
  obtain ⟨hissued, hcons, hstate⟩ := hr.route_comm sv hn hb.wf he he' hne
  obtain ⟨hissued', hcons', -⟩ := hr.route_comm sv hn hb.wf he' he hne.symm
  rw [hsecond, hsecond', hfirst, hfirst']
  exact ⟨hcons'.symm, hcons.symm, hstate, ⟨_, _, rfl, hissued, rfl, hissued'⟩, hidle, by
    rw [← hfirst']
    exact hidle'⟩

/-- A finger on each of two touchpads. The one on the second has been there for the idle window when
the other one starts to move and it lifts. -/
def twoPads : List Step :=
  [.operation (.replaceLayout
      [{ id := .ofNat 1, placement := ⟨0, 0, 0.5, 1⟩, kind := .touchpad true },
        { id := .ofNat 2, placement := ⟨0.5, 0, 0.5, 1⟩, kind := .touchpad true }]),
    .operation (.touch ⟨6, .down, ⟨75, 10⟩, 0⟩), .operation (.touch ⟨5, .down, ⟨10, 10⟩, 100⟩)]

/-- The button goes down first, since the window closes. The cursor moves and the button goes up, in
the order of the touches, and no timer is left. -/
theorem simultaneous_touches_commute_of_twoPads :
    let s := (run {} twoPads ((empty ⟨100, 100⟩).withClaims .empty)).state
    let e : TouchEvent := ⟨5, .move, ⟨40, 10⟩, 200⟩
    let e' : TouchEvent := ⟨6, .up, ⟨75, 10⟩, 200⟩
    let events := ({} : Services).outputs
    (e.time = e'.time ∧ e.pointer ≠ e'.pointer ∧ e.phase ≠ .down ∧ e'.phase ≠ .down) ∧
    events (s.advance {} 200).issued = [.mouse .left true .here] ∧
    ∃ is is', (s.touch {} e).issued = (s.advance {} 200).issued ++ is ∧
      ((s.touch {} e).state.touch {} e').issued = is' ∧
      (s.touch {} e').issued = (s.advance {} 200).issued ++ is' ∧
      ((s.touch {} e').state.touch {} e).issued = is ∧
      events is = [.moveBy 60 0] ∧ events is' = [.mouse .left false .here] ∧
      ((s.touch {} e).state.touch {} e').state = ((s.touch {} e').state.touch {} e).state ∧
      ((s.touch {} e).state.touch {} e').state.desk.timers.pending = [] := by
  intro s e e' events
  obtain ⟨-, -, hstate, ⟨is, is', hfirst, hsecond, hfirst', hsecond'⟩, -⟩ :=
    simultaneous_touches_commute {} ⟨100, 100⟩ .empty twoPads e e' rfl (by decide) (by decide)
      (by decide)
  refine ⟨⟨rfl, by decide, by decide, by decide⟩, by decide +kernel, is, is', hfirst, hsecond,
    hfirst', hsecond', ?_, ?_, hstate, by decide +kernel⟩
  · rw [← hsecond']
    decide +kernel
  · rw [← hsecond]
    decide +kernel

end Surface
end TouchOverlay
