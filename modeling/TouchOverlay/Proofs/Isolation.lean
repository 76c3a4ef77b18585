import TouchOverlay.Proofs.Lockstep
import TouchOverlay.Proofs.Settling

/-!
# Controls are isolated from each other

All controls of a surface share one clock, one queue of timers and one table of claims. Still, what a
control does with its contacts is what it would do alone. A surface is compared with one that has a
single control of it, which gets the touches of that control and no others.

The lone surface does not notice the touches in between, so its clock may lag behind. What it would
deliver in the meantime it delivers before its next touch (`touch_advanceEach`), so it is enough that
lockstep holds once it has made up for the stops.
-/

namespace TouchOverlay
open TimerQueue

/-! ## A touch that reaches a control -/

/-- The reaction to a touch that reaches a control. -/
def Behaviour.touched (sv : Services) (site : Site) (e : TouchEvent) (spot : Point) (d : Desk)
    (b : Behaviour) : Reaction Behaviour :=
  match e.phase with
  | .down => b.down sv site e.pointer spot d
  | .move => b.move sv site e.pointer spot d
  | .up | .cancel => b.up site e.pointer d

namespace Control

def touched (sv : Services) (size : SurfaceSize) (e : TouchEvent) (d : Desk) (c : Control) :
    Reaction Control :=
  c.react (c.behaviour.touched sv (c.site size) e (c.bounds.toLocal e.position) d)

/-- The touch begins a contact on the control, which takes it, or goes on with the one it has. -/
def Meets (sv : Services) (size : SurfaceSize) (e : TouchEvent) (d : Desk) (c : Control) : Prop :=
  match e.phase with
  | .down => c.bounds.contains e.position = true ∧ (c.touched sv size e d).consumed = true
  | _ => c.pointer? = some e.pointer

variable {sv : Services} {size : SurfaceSize} {e : TouchEvent} {d : Desk} {c : Control}

theorem meets_of_down (he : e.phase = .down) : c.Meets sv size e d ↔
    c.bounds.contains e.position = true ∧ (c.touched sv size e d).consumed = true := by
  simp only [Meets, he]

theorem meets_of_ne_down (he : e.phase ≠ .down) :
    c.Meets sv size e d ↔ c.pointer? = some e.pointer := by
  unfold Meets
  split
  · rename_i hd
    exact absurd hd he
  · exact .rfl

theorem pointer?_of_consumed (he : e.phase = .down) (hc : (c.touched sv size e d).consumed = true) :
    c.pointer? = none := by
  simp only [touched, Behaviour.touched, he] at hc
  exact (takes_down hc).free

end Control

namespace Behaviour
variable {b b' : Behaviour} {d d' : Desk} {e : TouchEvent}

theorem turn_touched (b : Behaviour) (sv : Services) (site : Site) (e : TouchEvent) (spot : Point)
    (d : Desk) :
    Turn site.id d.timers b.timers (b.touched sv site e spot d).desk.timers
      (b.touched sv site e spot d).state.timers := by
  have hup : Turn site.id d.timers b.timers (b.up site e.pointer d).desk.timers
      (b.up site e.pointer d).state.timers := by
    by_cases hp : b.pointer? = some e.pointer
    · exact (drops_up site d hp).turn
    · rw [up_of_ne site d hp]
      exact .done (.refl _)
  unfold touched
  cases e.phase with
  | down =>
    rcases b.down_cases sv site e.pointer spot d with ⟨hr, -⟩ | ht
    · dsimp only
      rw [hr]
      exact .done (.refl _)
    · exact ht.turn
  | move => exact (b.keeps_move sv site e.pointer spot d).1.turn
  | up => exact hup
  | cancel => exact hup

/-- Twins that are touched alike. A contact that one of them takes the other one takes too, if it
gets the pointer. -/
theorem Twin.touched (sv : Services) (site : Site) (spot : Point)
    (ht : b.Twin d.timers d'.timers b') (hi : d.timers.Issued b.timers)
    (hi' : d'.timers.Issued b'.timers) (hnow : d.timers.now = d'.timers.now)
    (hdown : e.phase = .down →
      (b.touched sv site e spot d).consumed = true ∧ site.take? e.pointer d' ≠ none) :
    Reaction.Twin Behaviour.Twin (b.touched sv site e spot d) (b'.touched sv site e spot d') ∧
      (e.phase = .down → (b'.touched sv site e spot d').consumed = true) := by
  unfold Behaviour.touched at hdown ⊢
  cases he : e.phase with
  | down =>
    rw [he] at hdown
    obtain ⟨hc, htake⟩ := hdown rfl
    obtain ⟨hr, hc'⟩ := ht.down sv site e.pointer spot hi hi' hnow hc htake
    exact ⟨hr, fun _ => hc'⟩
  | move => exact ⟨ht.move sv site e.pointer spot hi.nodup hi'.nodup, nofun⟩
  | up => exact ⟨ht.up site e.pointer, nofun⟩
  | cancel => exact ⟨ht.up site e.pointer, nofun⟩

end Behaviour

namespace Surface
variable {sv : Services} {s s' s₁ : Surface} {e : TouchEvent} {c : Control}
  {pre post : List Control} {id : ControlId} {now : Millis}

/-- The control that a touch belongs to: the one that takes the contact, if it begins one, and else
the one that its pointer is routed to. -/
def recipient? (sv : Services) (s : Surface) (e : TouchEvent) : Option ControlId :=
  match e.phase with
  | .down => if (s.touch sv e).consumed then (s.touch sv e).state.route? e.pointer else none
  | _ => s.route? e.pointer

/-- Of some touches, those that belong to a control, if the surface gets all of them. -/
def routedTo (sv : Services) (id : ControlId) : List TouchEvent → Surface → List TouchEvent
  | [], _ => []
  | e :: es, s =>
    let rest := routedTo sv id es (s.touch sv e).state
    if s.recipient? sv e = some id then e :: rest else rest

theorem touchDown_cases (sv : Services) (s : Surface) (p : PointerId) (spot : Point) :
    s.touchDown sv p spot = { state := s, issued := [], consumed := false } ∨
      ∃ pre c post, s.controls = pre ++ c :: post ∧ c.bounds.contains spot = true ∧
        (c.down sv s.size p s.desk spot).consumed = true ∧
        s.touchDown sv p spot =
          { state :=
              { s.place pre post (c.down sv s.size p s.desk spot) with
                routes := s.routes.insert p c.id }
            issued := (c.down sv s.size p s.desk spot).issuedBy c.id
            consumed := (c.down sv s.size p s.desk spot).consumed } := by
  unfold touchDown
  split
  · exact .inl rfl
  · split
    · rename_i id r hr
      obtain ⟨pre, c, post, hs, rfl, hb, hc, rfl⟩ := offer_eq_some hr
      exact .inr ⟨pre, c, post, hs, hb, hc, by rw [hc]; rfl⟩
    · exact .inl rfl

theorem touchMove_cases (sv : Services) (p : PointerId) (spot : Point) (ho : s.Orderly) :
    s.route? p = none ∧ s.touchMove sv p spot = { state := s, issued := [], consumed := false } ∨
      ∃ pre c post, s.controls = pre ++ c :: post ∧ s.route? p = some c.id ∧ c.pointer? = some p ∧
        s.touchMove sv p spot =
          { state := s.place pre post (c.move sv s.size p s.desk spot)
            issued := (c.move sv s.size p s.desk spot).issuedBy c.id
            consumed := (c.move sv s.size p s.desk spot).consumed } := by
  unfold touchMove
  cases hr : s.route? p with
  | none => exact .inl ⟨rfl, rfl⟩
  | some id =>
    obtain ⟨pre, c, post, hs, rfl, hp, hu⟩ :=
      ho.routed.updateFirst_eq ho.nodup hr fun c => c.move sv s.size p s.desk spot
    refine .inr ⟨pre, c, post, hs, rfl, hp, ?_⟩
    simp only [touchControl, hu]
    rfl

theorem touchUp_cases (p : PointerId) (ho : s.Orderly) :
    s.route? p = none ∧ s.touchUp p = { state := s, issued := [], consumed := false } ∨
      ∃ pre c post, s.controls = pre ++ c :: post ∧ s.route? p = some c.id ∧ c.pointer? = some p ∧
        s.touchUp p =
          { state := { s.place pre post (c.up s.size p s.desk) with routes := s.routes.erase p }
            issued := (c.up s.size p s.desk).issuedBy c.id
            consumed := (c.up s.size p s.desk).consumed } := by
  unfold touchUp
  cases hr : s.route? p with
  | none => exact .inl ⟨rfl, rfl⟩
  | some id =>
    obtain ⟨pre, c, post, hs, rfl, hp, hu⟩ :=
      ho.routed.updateFirst_eq ho.nodup hr fun c => c.up s.size p s.desk
    refine .inr ⟨pre, c, post, hs, rfl, hp, ?_⟩
    simp only [touchControl, hu]
    rfl

/-- What a touch does after the timers before it: one control reacts, or nothing happens. -/
inductive Touched (sv : Services) (e : TouchEvent) (s : Surface) : Option ControlId → Prop
  | nobody : s.route sv e = { state := s, issued := [], consumed := false } → Touched sv e s none
  | control {pre post : List Control} {c : Control} {routes : PointerMap} :
      s.controls = pre ++ c :: post → c.Meets sv s.size e s.desk →
        s.route sv e =
          { state := { s.place pre post (c.touched sv s.size e s.desk) with routes }
            issued := (c.touched sv s.size e s.desk).issuedBy c.id
            consumed := (c.touched sv s.size e s.desk).consumed } →
        Touched sv e s (some c.id)

theorem touched_recipient (ho : (s.advance sv e.time).state.Orderly) :
    Touched sv e (s.advance sv e.time).state (s.recipient? sv e) := by
  have hroute : s.route? e.pointer = (s.advance sv e.time).state.route? e.pointer := by
    rw [route?, route?, routes_advance]
  have hconsumed : (s.touch sv e).consumed =
      ((s.advance sv e.time).state.route sv e).consumed := rfl
  have hstate : (s.touch sv e).state = ((s.advance sv e.time).state.route sv e).state := rfl
  unfold recipient?
  rw [hconsumed, hstate, hroute]
  generalize (s.advance sv e.time).state = s at ho
  obtain ⟨p, phase, spot, time⟩ := e
  cases phase with
  | down =>
    rcases touchDown_cases sv s p spot with hr | ⟨pre, c, post, hs, hb, hc, hr⟩
    · have hr : s.route sv ⟨p, .down, spot, time⟩ = _ := hr
      rw [hr]
      exact .nobody hr
    · have hr : s.route sv ⟨p, .down, spot, time⟩ = _ := hr
      have hsome : (s.routes.insert p c.id)[p]? = some c.id := by
        rw [getElem?_insert_route, if_pos rfl]
      simp only [hr, hc, if_true, route?, hsome]
      exact .control hs ⟨hb, hc⟩ hr
  | move =>
    show Touched sv _ s (s.route? p)
    rcases touchMove_cases sv p spot ho with ⟨hn, hr⟩ | ⟨pre, c, post, hs, hsome, hp, hr⟩
    · rw [hn]
      exact .nobody hr
    · rw [hsome]
      exact .control hs hp hr
  | _ =>
    show Touched sv _ s (s.route? p)
    rcases touchUp_cases p ho with ⟨hn, hr⟩ | ⟨pre, c, post, hs, hsome, hp, hr⟩
    · rw [hn]
      exact .nobody hr
    · rw [hsome]
      exact .control hs hp hr

theorem Orderly.route (sv : Services) (e : TouchEvent) (ho : s.Orderly) :
    (s.route sv e).state.Orderly ∧ (s.route sv e).state.now = s.now := by
  refine (chain_route e).keeps (P := fun s' => s'.Orderly ∧ s'.now = s.now) ?_ ⟨ho, rfl⟩
  rintro s₁ is s₂ hc ⟨ho, hnow⟩
  obtain ⟨ho', hnow'⟩ := ho.contact hc
  exact ⟨ho', hnow'.trans hnow⟩

section Alone
variable (ho : s.Orderly) (hs : s.controls = [c])
include ho hs

/-- Nobody else has claimed a pointer that a control without a contact asks for. -/
theorem take?_alone (hfree : c.pointer? = none) (p : PointerId) :
    (c.site s.size).take? p s.desk ≠ none := by
  have hnone : s.claims.owner? p = none := by
    cases hi : s.claims.owner? p with
    | none => rfl
    | some i =>
      have hm := (ho.protocol.known p i hi).resolve_left not_false
      rw [ids, hs, List.map_singleton, List.mem_singleton] at hm
      have hp := ((ho.protocol.own c (by simp [hs]) p).1 (hm ▸ hi)).2
      rw [hfree] at hp
      cases hp
  rw [Site.take?, Ne, Option.map_eq_none_iff]
  exact Claims.take?_ne_none hnone

/-- A touch that meets the only control of a surface reaches it. -/
theorem route_alone (hm : c.Meets sv s.size e s.desk) :
    ∃ routes, s.route sv e =
      { state := { s.place [] [] (c.touched sv s.size e s.desk) with routes }
        issued := (c.touched sv s.size e s.desk).issuedBy c.id
        consumed := (c.touched sv s.size e s.desk).consumed } := by
  have hroute {p : PointerId} (hp : c.pointer? = some p) : s.route? p = some c.id :=
    (ho.routed.route p c.id).2 ⟨c, by simp [hs], rfl, hp⟩
  obtain ⟨p, phase, spot, time⟩ := e
  cases phase with
  | down =>
    obtain ⟨hb, hc⟩ : c.bounds.contains spot = true ∧
      (c.down sv s.size p s.desk spot).consumed = true := hm
    have hfree : c.pointer? = none := (Control.takes_down hc).free
    have hnew : s.routes.contains p = false := by
      rw [Std.ExtTreeMap.contains_eq_isSome_getElem?, Option.isSome_eq_false_iff,
        Option.isNone_iff_eq_none]
      cases hr : s.routes[p]? with
      | none => rfl
      | some id =>
        obtain ⟨c', hc', -, hp⟩ := (ho.routed.route p id).1 hr
        rw [hs, List.mem_singleton] at hc'
        rw [hc', hfree] at hp
        cases hp
    have hoffer : offer sv s.size p spot s.desk s.controls =
        some (c.id, (c.down sv s.size p s.desk spot).map ([] ++ · :: [])) := by
      simp [offer, hs, hb, hc]
    refine ⟨s.routes.insert p c.id, ?_⟩
    show s.touchDown sv p spot = _
    have hc : (c.touched sv s.size ⟨p, .down, spot, time⟩ s.desk).consumed = true := hc
    rw [hc, touchDown, if_neg (by simp [hnew]), hoffer]
    rfl
  | move =>
    rcases touchMove_cases sv p spot ho with ⟨hn, -⟩ | ⟨pre, c', post, hs', -, -, hr⟩
    · rw [hroute hm] at hn
      cases hn
    · obtain ⟨rfl, rfl, rfl⟩ := eq_of_singleton (hs.symm.trans hs')
      exact ⟨_, hr⟩
  | _ =>
    rcases touchUp_cases p ho with ⟨hn, -⟩ | ⟨pre, c', post, hs', -, -, hr⟩
    · rw [hroute hm] at hn
      cases hn
    · obtain ⟨rfl, rfl, rfl⟩ := eq_of_singleton (hs.symm.trans hs')
      exact ⟨_, hr⟩

end Alone

/-! ## Lockstep across touches -/

namespace Lockstep
variable {r : Option ControlId}

/-- A touch that belongs to another control or to none. -/
theorem route_other (hl : s.Lockstep id s₁) (ht : Touched sv e s r) (hne : r ≠ some id) :
    (s.route sv e).state.Lockstep id s₁ ∧ requestsOf id (s.route sv e).issued = [] := by
  cases ht with
  | nobody hr =>
    rw [hr]
    exact ⟨hl, rfl⟩
  | @control pre post c routes hs _ hr =>
    have hne : c.id ≠ id := fun he => hne (congrArg some he)
    obtain ⟨ho, hnow⟩ := hl.whole.route sv e
    have hturn := c.behaviour.turn_touched sv (c.site s.size) e (c.bounds.toLocal e.position) s.desk
    rw [hr] at ho hnow ⊢
    refine ⟨hl.stay ho rfl (hnow ▸ UInt64.le_refl _) (fun c' hc' hid => ?_) fun h howner => ?_, ?_⟩
    · exact mem_place_of_ne hs c' hc' (hid ▸ hne.symm)
    · have hholds := hl.whole.holds (mem_controls hs)
      exact hturn.deadlines_of_other hl.whole.balanced.wf hholds howner hne.symm
    · exact requestsOf_issuedBy_of_ne hne _

/-- A touch that belongs to the control, on both surfaces at the same time. -/
theorem route_own (hl : s.Lockstep id s₁) (hnow : s.now = s₁.now) (ht : Touched sv e s (some id)) :
    (s.route sv e).state.Lockstep id (s₁.route sv e).state ∧
      requestsOf id (s.route sv e).issued = (s₁.route sv e).issued.map (·.request) := by
  cases ht with
  | @control pre post c routes hs hm hr =>
    obtain ⟨c', hc', hid, b, hs₁, ht⟩ := hl.twins
    obtain rfl : c = c' := eq_of_nodup_ids hl.whole.nodup (mem_controls hs) hc' hid.symm
    have hsize := hl.size
    obtain ⟨htwin, hcons⟩ : Reaction.Twin Behaviour.Twin
        (c.behaviour.touched sv (c.site s.size) e (c.bounds.toLocal e.position) s.desk)
        (b.touched sv (c.site s₁.size) e (c.bounds.toLocal e.position) s₁.desk) ∧
        (e.phase = .down → (b.touched sv (c.site s₁.size) e (c.bounds.toLocal e.position)
          s₁.desk).consumed = true) := by
      rw [hsize]
      refine ht.touched sv (c.site s.size) (c.bounds.toLocal e.position)
        ((hl.whole.holds hc').issued hl.whole.balanced.wf)
        ((hl.alone.holds (hs₁ ▸ List.mem_singleton_self _)).issued hl.alone.balanced.wf) hnow
        fun he => ?_
      have hc := ((Control.meets_of_down he).1 hm).2
      refine ⟨hc, ?_⟩
      rw [← hsize]
      exact take?_alone hl.alone hs₁
        (ht.pointer?.symm.trans (Control.pointer?_of_consumed he hc)) e.pointer
    have hm₁ : ({ c with behaviour := b } : Control).Meets sv s₁.size e s₁.desk := by
      by_cases he : e.phase = .down
      · exact (Control.meets_of_down he).2 ⟨((Control.meets_of_down he).1 hm).1, hcons he⟩
      · exact (Control.meets_of_ne_down he).2
          (ht.pointer?.symm.trans ((Control.meets_of_ne_down he).1 hm))
    obtain ⟨routes₁, hr₁⟩ := route_alone hl.alone hs₁ hm₁
    obtain ⟨ho, hkeep⟩ := hl.whole.route sv e
    obtain ⟨ho₁, hkeep₁⟩ := hl.alone.route sv e
    have hle : (s₁.route sv e).state.now ≤ (s.route sv e).state.now := by
      rw [hkeep, hkeep₁]
      exact hl.now
    rw [hr] at ho hle ⊢
    rw [hr₁] at ho₁ hle ⊢
    refine ⟨.of_react ho ho₁ hsize hle rfl rfl rfl rfl rfl htwin, ?_⟩
    rw [requestsOf_issuedBy, map_request_issuedBy]
    exact htwin.requests

/-- A touch on the whole surface, and on the lone one if it belongs to the control. -/
theorem touch (sv : Services) (hl : s.Lockstep id s₁) (hle : s.now ≤ e.time) :
    (s.touch sv e).state.now = e.time ∧
      (s.recipient? sv e = some id →
        (s.touch sv e).state.Lockstep id (s₁.touch sv e).state ∧
          requestsOf id (s.touch sv e).issued = (s₁.touch sv e).issued.map (·.request)) ∧
      (s.recipient? sv e ≠ some id →
        (s.touch sv e).state.Lockstep id (s₁.advance sv e.time).state ∧
          requestsOf id (s.touch sv e).issued =
            (s₁.advance sv e.time).issued.map (·.request)) := by
  obtain ⟨hl', hnow, hnow₁, hreq⟩ := hl.advance sv hle
  have ht := touched_recipient hl'.whole
  simp only [Surface.touch, requestsOf_append, List.map_append, hreq]
  refine ⟨(hl'.whole.route sv e).2.trans hnow, fun hown => ?_, fun hother => ?_⟩
  · rw [hown] at ht
    obtain ⟨hroute, hreq'⟩ := hl'.route_own (hnow.trans hnow₁.symm) ht
    exact ⟨hroute, by rw [hreq']⟩
  · obtain ⟨hroute, hnone⟩ := hl'.route_other ht hother
    exact ⟨hroute, by rw [hnone, List.append_nil]⟩

end Lockstep

/-! ## Traces -/

/-- A surface gets some touches and settles then. -/
def play (sv : Services) (s : Surface) (es : List TouchEvent) : Outcome Surface :=
  let r := run sv (es.map fun e => .operation (.touch e)) s
  let r' := r.state.settle sv
  { state := r'.state, issued := r.issued ++ r'.issued }

theorem Orderly.control?_eq (ho : s.Orderly) (hc : c ∈ s.controls) : s.control? c.id = some c := by
  cases hf : s.control? c.id with
  | none => simpa using List.find?_eq_none.1 hf c hc
  | some c' =>
    have hid : c'.id = c.id := by simpa using List.find?_some hf
    rw [eq_of_nodup_ids ho.nodup hc (List.mem_of_find?_eq_some hf) hid.symm]

theorem play_nil (sv : Services) (s : Surface) :
    s.play sv [] = { state := (s.settle sv).state, issued := (s.settle sv).issued } := by
  simp [play, run]

theorem play_cons (sv : Services) (s : Surface) (es : List TouchEvent) :
    s.play sv (e :: es) =
      { (s.touch sv e).state.play sv es with
        issued := (s.touch sv e).issued ++ ((s.touch sv e).state.play sv es).issued } := by
  simp only [play, List.map_cons, run, step, Operation.perform, Operation.apply, List.append_assoc]

/-- What the control `id` has asked for, after the requests `made`, is all that the lone surface has
asked for, and the control and the lone one cannot be told apart. -/
structure Agree (id : ControlId) (made : List Request) (r r₁ : Outcome Surface) : Prop where
  requests : made ++ requestsOf id r.issued = r₁.issued.map (·.request)
  control : ∃ c c₁, r.state.control? id = some c ∧ r₁.state.control? id = some c₁ ∧
    c.behaviour.forgetHandles = c₁.behaviour.forgetHandles

/-- Without another touch, what is still outstanding is delivered on both surfaces. -/
theorem Lockstep.play_nil {ts : List Millis} (hl : s.Lockstep id (s₁.advanceEach sv ts).state) :
    Agree id ((s₁.advanceEach sv ts).issued.map (·.request)) (s.play sv []) (s₁.play sv []) := by
  obtain ⟨hl', -, -, hreq⟩ := hl.advance sv Millis.le_last
  obtain ⟨c, hc, hid, b, hs₁, ht⟩ := hl'.twins
  obtain ⟨hissued, hcontrols⟩ := settle_eq_advance sv s
  obtain ⟨hissued₁, hcontrols₁⟩ := settle_eq_advance sv s₁
  rw [← advanceEach_andThen_advance fun t (_ : t ∈ ts) => Millis.le_last] at hissued₁ hcontrols₁
  rw [Surface.play_nil, Surface.play_nil]
  refine ⟨?_, c, { c with behaviour := b }, ?_, ?_, ht.forgetHandles_eq⟩
  · rw [hissued, hissued₁, hreq, AdvanceOutcome.andThen, List.map_append]
  · rw [control?, hcontrols, ← hid]
    exact hl'.whole.control?_eq hc
  · rw [control?, hcontrols₁, AdvanceOutcome.state_andThen, hs₁]
    simp [hid]

/-- In lockstep, the whole surface gets some touches and the lone one those that belong to its
control. Beforehand the lone surface has to make up for the stops `ts`, which it has not noticed. -/
theorem Lockstep.play {es : List TouchEvent} {ts : List Millis}
    (hl : s.Lockstep id (s₁.advanceEach sv ts).state) (hts : ∀ t ∈ ts, t ≤ s.now)
    (hes : es.Pairwise fun e e' => e.time ≤ e'.time) (hle : ∀ e ∈ es, s.now ≤ e.time) :
    Agree id ((s₁.advanceEach sv ts).issued.map (·.request)) (s.play sv es)
      (s₁.play sv (routedTo sv id es s)) := by
  induction es generalizing s s₁ ts with
  | nil => exact hl.play_nil
  | cons e es ih =>
    have he : s.now ≤ e.time := hle e List.mem_cons_self
    obtain ⟨hfirst, hrest⟩ := List.pairwise_cons.1 hes
    obtain ⟨hnow, hown, hother⟩ := hl.touch sv he
    have hle' : ∀ e' ∈ es, (s.touch sv e).state.now ≤ e'.time := hnow ▸ hfirst
    have hts' : ∀ t ∈ ts, t ≤ e.time := fun t ht => UInt64.le_trans (hts t ht) he
    rw [play_cons]
    by_cases hrec : s.recipient? sv e = some id
    · obtain ⟨hl', hreq⟩ := hown hrec
      rw [routedTo, if_pos hrec, play_cons, touch_advanceEach sv s₁ hts']
      obtain ⟨hreq', hcontrol⟩ := @ih (s.touch sv e).state
        ((s₁.advanceEach sv ts).state.touch sv e).state [] hl' nofun hrest hle'
      refine ⟨?_, hcontrol⟩
      simp only [requestsOf_append, List.map_append, hreq, ← hreq', advanceEach, List.map_nil,
        List.nil_append, List.append_assoc]
    · obtain ⟨hl', hreq⟩ := hother hrec
      rw [routedTo, if_neg hrec]
      have hts'' : ∀ t ∈ ts ++ [e.time], t ≤ (s.touch sv e).state.now := by
        intro t ht
        rw [hnow]
        rcases List.mem_append.1 ht with ht | ht
        · exact hts' t ht
        · exact List.mem_singleton.1 ht ▸ UInt64.le_refl _
      rw [← AdvanceOutcome.state_andThen (f := (·.advance sv e.time)), ← advanceEach_concat] at hl'
      obtain ⟨hreq', hcontrol⟩ := ih hl' hts'' hrest hle'
      refine ⟨?_, hcontrol⟩
      rw [advanceEach_concat, AdvanceOutcome.andThen, List.map_append, List.append_assoc] at hreq'
      rw [requestsOf_append, hreq]
      exact hreq'

/-- A new surface with a layout. -/
def laidOut (sv : Services) (size : SurfaceSize) (cfgs : List ControlConfig) : Surface :=
  ((Operation.replaceLayout cfgs).perform sv (empty size)).state

section Start
variable {cfgs : List ControlConfig} {cfg : ControlConfig}

theorem laidOut_eq (sv : Services) (size : SurfaceSize) (hn : (cfgs.map (·.id)).Nodup)
    (hv : ∀ cfg ∈ cfgs, cfg.placement.isValid = true) :
    laidOut sv size cfgs =
      { (empty size) with controls := cfgs.map (Control.mount size) } := by
  have hf : firstFault? [] cfgs = none :=
    firstFault?_of_valid hn fun cfg hm => ⟨List.not_mem_nil, hv cfg hm⟩
  rcases perform_replaceLayout_cases sv (empty size) cfgs with ⟨-, h⟩ | ⟨hne, -⟩
  · rw [laidOut, h]
    exact mountAll_eq cfgs
  · exact absurd hf hne

theorem Orderly.laidOut (sv : Services) (size : SurfaceSize) (hn : (cfgs.map (·.id)).Nodup)
    (hv : ∀ cfg ∈ cfgs, cfg.placement.isValid = true) : (laidOut sv size cfgs).Orderly := by
  have hids : (Surface.empty size).ids.Nodup := .nil
  refine ⟨nodup_ids_perform _ hids, ((Tidy.empty size .empty).perform sv _).balanced, ?_,
    (Protocol.empty _ size).operation hids (fun _ _ h => h), ?_⟩
  · have hr := (Routed.empty size .empty).run hids sv [.operation (.replaceLayout cfgs)]
    rw [run_singleton] at hr
    exact hr
  · rw [laidOut_eq sv size hn hv]
    exact ⟨UInt64.le_refl _, fun d hd => absurd hd Std.ExtTreeMap.not_mem_empty⟩

theorem Lockstep.laidOut (sv : Services) (size : SurfaceSize) (hn : (cfgs.map (·.id)).Nodup)
    (hv : ∀ cfg ∈ cfgs, cfg.placement.isValid = true) (hc : cfg ∈ cfgs) :
    (laidOut sv size cfgs).Lockstep cfg.id (laidOut sv size [cfg]) := by
  have hn₁ : ([cfg].map (·.id)).Nodup := by simp
  have hv₁ : ∀ cfg' ∈ [cfg], cfg'.placement.isValid = true := by simpa using hv cfg hc
  refine ⟨.laidOut sv size hn hv, .laidOut sv size hn₁ hv₁, ?_, ?_, ?_⟩ <;>
    rw [laidOut_eq sv size hn hv, laidOut_eq sv size hn₁ hv₁]
  · exact UInt64.le_refl _
  · exact ⟨.mount size cfg, List.mem_map_of_mem hc, rfl, .ofKind cfg.kind, rfl, .refl_ofKind _⟩

end Start

/-- **Controls are isolated from each other.** On a surface with any layout each control asks for
the same, in the same order, and comes to the same state but for the handles of its timers, as on a
surface of its own that gets only the touches which belong to it, at the same times. -/
theorem controls_isolated (sv : Services) (size : SurfaceSize) (cfgs : List ControlConfig)
    (hn : (cfgs.map (·.id)).Nodup) (hv : ∀ cfg ∈ cfgs, cfg.placement.isValid = true)
    (es : List TouchEvent) (hes : es.Pairwise fun e e' => e.time ≤ e'.time) :
    let start := laidOut sv size cfgs
    let whole := start.play sv es
    whole.state.nextDeadline? = none ∧ ∀ cfg ∈ cfgs,
      let alone := (laidOut sv size [cfg]).play sv (routedTo sv cfg.id es start)
      alone.state.nextDeadline? = none ∧
        requestsOf cfg.id whole.issued = alone.issued.map (·.request) ∧
        ∃ c c', whole.state.control? cfg.id = some c ∧ alone.state.control? cfg.id = some c' ∧
          c.behaviour.forgetHandles = c'.behaviour.forgetHandles := by
  intro start whole
  have hnow (e : TouchEvent) : start.now ≤ e.time := by
    show (laidOut sv size cfgs).now ≤ e.time
    rw [laidOut_eq sv size hn hv, UInt64.le_iff_toNat_le]
    exact Nat.zero_le _
  refine ⟨(settle_andThen_advance sv _).1, fun cfg hc => ?_⟩
  intro alone
  have hl := Lockstep.laidOut sv size hn hv hc
  obtain ⟨hreq, hcontrol⟩ := @Lockstep.play sv _ _ _ es [] hl nofun hes fun e _ => hnow e
  exact ⟨(settle_andThen_advance sv _).1, hreq, hcontrol⟩

/-- The lower one of two touchpads that cover the surface. -/
def lowerPad : ControlConfig :=
  { id := .ofNat 1, placement := ⟨0, 0, 1, 1⟩, kind := .touchpad true }

def upperPad : ControlConfig := { lowerPad with id := .ofNat 2 }

/-- The second finger falls through to the lower touchpad. Its click is due in the middle of the
second tap on the upper one. -/
def twoFingers : List TouchEvent :=
  [⟨5, .down, ⟨10, 10⟩, 0⟩, ⟨6, .down, ⟨20, 20⟩, 10⟩, ⟨5, .up, ⟨10, 10⟩, 30⟩,
    ⟨6, .up, ⟨20, 20⟩, 50⟩, ⟨5, .down, ⟨10, 10⟩, 205⟩, ⟨5, .up, ⟨10, 10⟩, 230⟩]

/-- Alone, the lower touchpad gets one tap and makes a click of it. -/
theorem controls_isolated_of_twoFingers :
    let start := laidOut {} ⟨100, 100⟩ [lowerPad, upperPad]
    let tap := routedTo {} lowerPad.id twoFingers start
    let alone := (laidOut {} ⟨100, 100⟩ [lowerPad]).play {} tap
    tap.length = 2 ∧ alone.issued.length = 4 ∧
      requestsOf lowerPad.id (start.play {} twoFingers).issued =
        alone.issued.map (·.request) := by
  refine ⟨by decide +kernel, by decide +kernel, ?_⟩
  exact ((controls_isolated {} ⟨100, 100⟩ [lowerPad, upperPad] (by decide +kernel)
    (by decide +kernel) twoFingers (by decide +kernel)).2 lowerPad List.mem_cons_self).2.1

end Surface
end TouchOverlay
