import TouchOverlay.Proofs.FiringOrder
import TouchOverlay.Proofs.Routing
import TouchOverlay.Proofs.TimerOwnership
import TouchOverlay.Proofs.ClaimProtocol

/-!
# Who takes a contact

A press on a pointer that is not routed is offered to the controls from top to bottom. Whether a
control takes it can be said beforehand, from its rectangle, its contact and the claim on the pointer
(`Control.Willing`), because a refusal leaves neither a change of the control nor of the desk for the
next one to see. So the one that takes it is the topmost one that is willing, and of all else nothing
changes (`TakenBy`).
-/

namespace TouchOverlay

namespace Control

/-- The press hits the control, which has no contact, and nobody else has claimed the pointer. -/
def Willing (cl : Claims) (p : PointerId) (spot : Point) (c : Control) : Prop :=
  c.bounds.contains spot = true ∧ c.pointer? = none ∧
    (cl.owner? p = none ∨ cl.owner? p = some c.id)

instance (cl : Claims) (p : PointerId) (spot : Point) (c : Control) :
    Decidable (c.Willing cl p spot) :=
  inferInstanceAs (Decidable (_ ∧ _ ∧ _))

variable {sv : Services} {size : SurfaceSize} {p : PointerId} {spot : Point} {d : Desk}
  {c : Control}

theorem consumed_down_iff : (c.down sv size p d spot).consumed = true ↔
    c.pointer? = none ∧ (d.claims.owner? p = none ∨ d.claims.owner? p = some c.id) := by
  constructor
  · intro h
    have ht := takes_down h
    exact ⟨ht.free, (Claims.take?_eq_some ht.claims).1⟩
  · rintro ⟨hfree, hown⟩
    rcases c.behaviour.down_cases sv (c.site size) p (c.bounds.toLocal spot) d with ⟨-, hnone⟩ | ht
    · have htake := Option.map_eq_none_iff.1 (hnone hfree)
      exact absurd htake (Claims.take?_ne_none_iff.2 hown)
    · exact ht.consumed

theorem willing_iff (sv : Services) (size : SurfaceSize) : c.Willing d.claims p spot ↔
    c.bounds.contains spot = true ∧ (c.down sv size p d spot).consumed = true := by
  rw [Willing, consumed_down_iff]

/-- A refusal leaves no trace. -/
theorem down_of_not_consumed (h : (c.down sv size p d spot).consumed = false) :
    c.down sv size p d spot = .ignored c d := by
  rcases c.behaviour.down_cases sv (c.site size) p (c.bounds.toLocal spot) d with ⟨hr, -⟩ | ht
  · rw [down, hr]
    rfl
  · have hc : (c.down sv size p d spot).consumed = true := ht.consumed
    rw [h] at hc
    cases hc

end Control

namespace Surface
open TimerQueue

variable {sv : Services} {s : Surface} {size : SurfaceSize} {p : PointerId} {spot : Point}
  {d : Desk} {c : Control} {cs pre post : List Control} {e : TouchEvent}

/-! ## From top to bottom -/

theorem offer_eq_none (h : ∀ c ∈ cs, ¬ c.Willing d.claims p spot) :
    offer sv size p spot d cs = none := by
  induction cs with
  | nil => rfl
  | cons c cs ih =>
    obtain ⟨hc, hcs⟩ := List.forall_mem_cons.1 h
    rw [Control.willing_iff sv size] at hc
    simp only [offer, ih hcs]
    split
    · rename_i hb
      rw [if_neg fun hcons => hc ⟨hb, hcons⟩]
    · rfl

theorem offer_topmost (hc : c.Willing d.claims p spot)
    (hpost : ∀ c' ∈ post, ¬ c'.Willing d.claims p spot) :
    offer sv size p spot d (pre ++ c :: post) =
      some (c.id, (c.down sv size p d spot).map (pre ++ · :: post)) := by
  induction pre with
  | nil =>
    obtain ⟨hb, hcons⟩ := (Control.willing_iff sv size).1 hc
    simp only [List.nil_append, offer, offer_eq_none hpost, hb, hcons, if_true]
  | cons c' pre ih =>
    simp only [List.cons_append, offer, ih]
    rfl

theorem exists_topmost (h : ∃ c ∈ cs, c.Willing d.claims p spot) :
    ∃ pre c post, cs = pre ++ c :: post ∧ c.Willing d.claims p spot ∧
      ∀ c' ∈ post, ¬ c'.Willing d.claims p spot := by
  induction cs with
  | nil =>
    obtain ⟨c, hc, -⟩ := h
    exact absurd hc List.not_mem_nil
  | cons x cs ih =>
    by_cases hcs : ∃ c ∈ cs, c.Willing d.claims p spot
    · obtain ⟨pre, c, post, rfl, hc, hpost⟩ := ih hcs
      exact ⟨x :: pre, c, post, rfl, hc, hpost⟩
    · obtain ⟨c, hc, hw⟩ := h
      rcases List.mem_cons.1 hc with rfl | hc
      · exact ⟨[], c, cs, rfl, hw, fun c' hc' hw' => hcs ⟨c', hc', hw'⟩⟩
      · exact absurd ⟨c, hc, hw⟩ hcs

/-! ## The control that takes the contact -/

/-- `s'` is `s` after the control between `pre` and `post` has taken the pointer `p`. -/
structure TakenBy (s : Surface) (p : PointerId) (pre : List Control) (c : Control)
    (post : List Control) (s' : Surface) : Prop where
  size : s'.size = s.size
  now : s'.now = s.now
  controls : ∃ c', s'.controls = pre ++ c' :: post ∧ c'.config = c.config ∧ c'.bounds = c.bounds ∧
    c'.pointer? = some p
  route : ∀ q, s'.route? q = if q = p then some c.id else s.route? q
  claim : ∀ q, s'.claims.owner? q =
    if q = p ∧ c.passThrough = false then some c.id else s.claims.owner? q
  timer : ∀ t : ExpiredTimer, t.owner ≠ c.id → (t ∈ s'.desk.timers ↔ t ∈ s.desk.timers)

theorem takenBy_place (hn : s.ids.Nodup) (hb : s.desk.timers.Balanced s.ledger)
    (hs : s.controls = pre ++ c :: post) (hc : (c.down sv s.size p s.desk spot).consumed = true) :
    s.TakenBy p pre c post
      { s.place pre post (c.down sv s.size p s.desk spot) with routes := s.routes.insert p c.id } := by
  have ht := Control.takes_down hc
  exact
    { size := rfl
      now := ht.turn.now_eq
      controls := by
        refine ⟨(c.down sv s.size p s.desk spot).state, rfl, ?_, rfl, ht.pointer⟩
        simp only [Control.config, Control.down, Control.react, Reaction.map, ht.kind]
      route := fun q => by
        rw [route?, getElem?_insert_route]
        simp only [eq_comm]
        rfl
      claim := fun q => by
        have hown := (Claims.take?_eq_some ht.claims).2 q
        simp only [eq_comm (a := q), and_comm (a := p = q)]
        exact hown
      timer := fun t hne =>
        ht.turn.mem_iff hb.wf (holds_of_balanced hn hb (mem_controls hs)) hne }

/-- A press is ignored without a trace, or the topmost willing control takes it. -/
theorem touchDown_spec (sv : Services) (hn : s.ids.Nodup) (hb : s.desk.timers.Balanced s.ledger)
    (p : PointerId) (spot : Point) :
    (s.route? p ≠ none ∨ ∀ c ∈ s.controls, ¬ c.Willing s.claims p spot) ∧
        s.touchDown sv p spot = { state := s, issued := [], consumed := false } ∨
      s.route? p = none ∧ ∃ pre c post, s.controls = pre ++ c :: post ∧
        c.Willing s.claims p spot ∧ (∀ c' ∈ post, ¬ c'.Willing s.claims p spot) ∧
        (s.touchDown sv p spot).consumed = true ∧
        s.TakenBy p pre c post (s.touchDown sv p spot).state ∧
        ∀ i ∈ (s.touchDown sv p spot).issued, i.control = c.id := by
  have hcontains : s.routes.contains p = (s.route? p).isSome :=
    Std.ExtTreeMap.contains_eq_isSome_getElem?
  unfold touchDown
  rw [hcontains]
  cases hroute : s.route? p with
  | some id => exact .inl ⟨.inl (Option.some_ne_none id), rfl⟩
  | none =>
    by_cases hw : ∃ c ∈ s.controls, c.Willing s.claims p spot
    · obtain ⟨pre, c, post, hs, hc, hpost⟩ := exists_topmost hw
      have hoffer : offer sv s.size p spot s.desk s.controls = _ := hs ▸ offer_topmost hc hpost
      have hcons := ((Control.willing_iff sv s.size).1 hc).2
      refine .inr ⟨rfl, pre, c, post, hs, hc, hpost, ?_⟩
      simp only [Option.isSome_none, Bool.false_eq_true, if_false, hoffer]
      refine ⟨trivial, takenBy_place hn hb hs hcons, fun i hi => ?_⟩
      obtain ⟨_, -, rfl⟩ := List.mem_map.1 hi
      rfl
    · have hw : ∀ c ∈ s.controls, ¬ c.Willing s.claims p spot := fun c hc h => hw ⟨c, hc, h⟩
      have hoffer : offer sv s.size p spot s.desk s.controls = none := offer_eq_none hw
      refine .inl ⟨.inr hw, ?_⟩
      simp only [Option.isSome_none, Bool.false_eq_true, if_false, hoffer]

theorem TakenBy.claimed {s' : Surface} (ht : s.TakenBy p pre c post s') (hs : s.NamesApart)
    (hc : c ∈ s.controls) : s'.claims.owner? p = some c.id ↔ c.passThrough = false := by
  rw [ht.claim]
  constructor
  · split
    · rename_i hpass
      exact fun _ => hpass.2
    · exact fun ho => (hs c hc p ho).1
  · exact fun hpass => if_pos ⟨rfl, hpass⟩

theorem FairRun.namesApart_advance {sts : List Step} {now : Millis}
    (hf : FairRun sv sts (empty size)) :
    ((run sv sts (empty size)).state.advance sv now).state.NamesApart := by
  have hn : (run sv sts (empty size)).state.ids.Nodup :=
    nodup_ids_run sts (nodup_ids_empty size .empty)
  obtain ⟨-, hp⟩ := chain_advance.keeps (R := Input sv)
    (P := fun s => s.ids.Nodup ∧ s.Protocol (· ∉ everMounted sv sts (empty size)))
    (fun _ _ _ hi h => ⟨ids_of_input hi ▸ h.1, (h.2.input h.1 hi).1⟩) ⟨hn, hf.protocol⟩
  exact hp.namesApart

/-- **A press goes to the topmost willing control**, in every state of a run in which others may
work on the claims. `s` is the surface after the timers that are due at the time of the touch. If the
pointer is routed in `s`, or no control is willing, the press is ignored and leaves `s` with nothing
more asked for; the controls that have been offered it have refused without a trace. Otherwise the
last willing control of the list takes it. It owns the pointer then, which is routed to it, and has
claimed it if it withholds its contacts. If the others claim pointers for identifiers that are not
on the surface, it has not otherwise. All else is as in `s`, apart from timers of the control. Any
other touch that is ignored leaves `s` too. -/
theorem topmost_willing_takes (sv : Services) (size : SurfaceSize) (sts : List Step)
    (e : TouchEvent) :
    let s₀ := (run sv sts (empty size)).state
    let fired := s₀.advance sv e.time
    let s := fired.state
    let r := s₀.touch sv e
    let ignored : TouchOutcome := { state := s, issued := fired.issued, consumed := false }
    (e.phase = .down →
      (s.route? e.pointer ≠ none ∨
          ∀ c ∈ s.controls, ¬ c.Willing s.claims e.pointer e.position) ∧ r = ignored ∨
        s.route? e.pointer = none ∧ ∃ pre c post, s.controls = pre ++ c :: post ∧
          c.Willing s.claims e.pointer e.position ∧
          (∀ c' ∈ post, ¬ c'.Willing s.claims e.pointer e.position) ∧
          r.consumed = true ∧ s.TakenBy e.pointer pre c post r.state ∧
          (s.NamesApart →
            (r.state.claims.owner? e.pointer = some c.id ↔ c.passThrough = false)) ∧
          ∃ is, r.issued = fired.issued ++ is ∧ ∀ i ∈ is, i.control = c.id) ∧
    (∀ c ∈ s.controls, c.bounds.contains e.position = true →
      ¬ c.Willing s.claims e.pointer e.position →
        c.down sv s.size e.pointer s.desk e.position = .ignored c s.desk) ∧
    (e.phase ≠ .down → r.consumed = false → r = ignored) ∧
    (FairRun sv sts (empty size) → s.NamesApart) := by
  intro s₀ fired s r ignored
  have hstart := nodup_ids_empty size .empty
  have hs₀ : s₀.Tidy .empty := (Tidy.empty size .empty).run sv sts
  have hr₀ : s₀.Routed := (Routed.empty size .empty).run hstart sv sts
  obtain ⟨hn, hb, -⟩ : s.Tidy .empty := hs₀.perform sv (.advance e.time)
  have hrouted : s.Routed := hr₀.run hs₀.nodup sv [.operation (.advance e.time)]
  have hr : r = { s.route sv e with issued := fired.issued ++ (s.route sv e).issued } := rfl
  have hignored (h : s.route sv e = { state := s, issued := [], consumed := false }) :
      r = ignored := by
    rw [hr, h]
    simp only [List.append_nil, ignored]
  refine ⟨fun hph => ?_, fun c _ hit hw => ?_, fun he hcons => ?_, FairRun.namesApart_advance⟩
  · have hdown : s.route sv e = s.touchDown sv e.pointer e.position := by
      simp only [route, hph]
    rcases touchDown_spec sv hn hb e.pointer e.position with
      ⟨hnobody, hout⟩ | ⟨hroute, pre, c, post, hs, hc, hpost, hcons, htaken, hissued⟩
    · exact .inl ⟨hnobody, hignored (hdown.trans hout)⟩
    · rw [← hdown] at hcons htaken hissued
      exact .inr ⟨hroute, pre, c, post, hs, hc, hpost, hcons, htaken,
        fun hapart => htaken.claimed hapart (mem_controls hs), _, rfl, hissued⟩
  · refine Control.down_of_not_consumed (Bool.eq_false_iff.2 fun hcons => hw ?_)
    exact (Control.willing_iff sv s.size).2 ⟨hit, hcons⟩
  · have hnone : s.route? e.pointer = none := by
      rw [hr₀.consumed_touch hs₀.nodup he, Option.isSome_eq_false_iff,
        Option.isNone_iff_eq_none] at hcons
      rw [route?, routes_advance]
      exact hcons
    exact hignored (route_of_not_routed sv he hnone)

/-- Three controls on top of each other, the middle one pass-through. The pointer 5 is on the top
one, and somebody else has claimed the pointer 8. -/
def threeDeep : List Step :=
  [.operation (.replaceLayout
      [{ id := .ofNat 1, placement := ⟨0, 0, 1, 1⟩, kind := .button (.key 30) false },
        { id := .ofNat 2, placement := ⟨0, 0, 1, 1⟩, passThrough := true,
          kind := .button (.key 31) false },
        { id := .ofNat 3, placement := ⟨0, 0, 1, 1⟩, kind := .touchpad true }]),
    .operation (.touch ⟨5, .down, ⟨10, 10⟩, 0⟩), .foreign (.claim 8 (.ofNat 9))]

/-- The pointer 6 goes to the one in the middle, which does not claim it. -/
theorem topmost_willing_takes_of_threeDeep :
    let s₀ := (run {} threeDeep (empty ⟨100, 100⟩)).state
    let s := (s₀.advance {} 10).state
    let r := s₀.touch {} ⟨6, .down, ⟨10, 10⟩, 10⟩
    FairRun {} threeDeep (empty ⟨100, 100⟩) ∧ r.consumed = true ∧
      ∃ pre c post, s.TakenBy 6 pre c post r.state ∧ c.id = .ofNat 2 ∧
        r.state.claims.owner? 6 ≠ some c.id := by
  intro s₀ s r
  have hfair : FairRun {} threeDeep (empty ⟨100, 100⟩) := fairRun_iff.2 (by decide +kernel)
  obtain ⟨hdown, -, -, hapart⟩ :=
    topmost_willing_takes {} ⟨100, 100⟩ threeDeep ⟨6, .down, ⟨10, 10⟩, 10⟩
  have hcons : r.consumed = true := by decide +kernel
  rcases hdown rfl with ⟨-, hr⟩ | ⟨-, pre, c, post, hs, -, -, -, htaken, hclaim, -⟩
  · rw [show r = _ from hr] at hcons
    cases hcons
  · have hroute : r.state.route? 6 = some (.ofNat 2) := by decide +kernel
    have hid : c.id = .ofNat 2 := by
      rw [show r.state.route? 6 = _ from htaken.route 6, if_pos rfl] at hroute
      exact Option.some.inj hroute
    have hpass : ∀ c ∈ s.controls, c.id = .ofNat 2 → c.passThrough = true := by decide +kernel
    refine ⟨hfair, hcons, pre, c, post, htaken, hid, fun ho => ?_⟩
    have hc := (hclaim (hapart hfair)).1 ho
    rw [hpass c (mem_controls hs) hid] at hc
    cases hc

end Surface
end TouchOverlay
