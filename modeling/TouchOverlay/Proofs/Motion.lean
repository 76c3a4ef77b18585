import TouchOverlay.Surface.Touch
import TouchOverlay.Proofs.Session

/-!
# The elementary changes of a surface

Every operation of a surface is a `Chain` of elementary changes, each of which involves one
control at most. `Input` are those that touches and the clock bring about; `Change` are those of
the layout. An invariant is shown to survive each of them and then holds across every operation
(`Chain.preserve`).

`detachAll` empties the list of controls before it ends their sessions. Its sessions do not look
at the list, so it is the same as removing the controls one at a time (`chain_detachEach`), and
no invariant has to speak of sessions without a control.
-/

namespace TouchOverlay
namespace Surface

/-! ## Chains -/

/-- Changes one after the other, with the requests of all of them. -/
inductive Chain (R : Surface → List Issued → Surface → Prop) :
    Surface → List Issued → Surface → Prop
  | nil {s : Surface} : Chain R s [] s
  | cons {s s' s'' : Surface} {is js : List Issued} :
      R s is s' → Chain R s' js s'' → Chain R s (is ++ js) s''

namespace Chain
variable {R R' : Surface → List Issued → Surface → Prop} {s s' s'' : Surface}
  {is js : List Issued}

theorem single (h : R s is s') : Chain R s is s' := by
  simpa using Chain.cons h .nil

theorem append (h : Chain R s is s') (h' : Chain R s' js s'') : Chain R s (is ++ js) s'' := by
  induction h with
  | nil => exact h'
  | cons h _ ih => rw [List.append_assoc]; exact .cons h (ih h')

theorem andThen (h : Chain R s is s') (h' : Chain R s' [] s'') : Chain R s is s'' := by
  simpa using h.append h'

theorem mono (hR : ∀ s is s', R s is s' → R' s is s') (h : Chain R s is s') :
    Chain R' s is s' := by
  induction h with
  | nil => exact .nil
  | cons h _ ih => exact .cons (hR _ _ _ h) ih

/-- A property of a surface and of the requests so far survives a chain if each link keeps it. -/
theorem preserve {P : Surface → List Issued → Prop}
    (hR : ∀ s out is s', R s is s' → P s out → P s' (out ++ is)) (h : Chain R s is s')
    (out : List Issued) (hp : P s out) : P s' (out ++ is) := by
  induction h generalizing out with
  | nil => simpa using hp
  | cons h _ ih => rw [← List.append_assoc]; exact ih _ (hR _ _ _ _ h hp)

/-- The same for a property of the surface alone. -/
theorem keeps {P : Surface → Prop} (hR : ∀ s is s', R s is s' → P s → P s') (h : Chain R s is s')
    (hp : P s) : P s' :=
  h.preserve (P := fun s _ => P s) (fun s _ is s' => hR s is s') [] hp

end Chain

/-! ## Links -/

/-- The surface after the control between `pre` and `post` has reacted. -/
def place (s : Surface) (pre post : List Control) (r : Reaction Control) : Surface :=
  { s with controls := pre ++ r.state :: post, desk := r.desk }

def withTimers (s : Surface) (q : TimerQueue) : Surface :=
  { s with desk := { s.desk with timers := q } }

/-- What a touch does to a surface, apart from the timers before it. `stray` is a route to a control
that is not on the surface. -/
inductive ContactStep (sv : Services) : Surface → List Issued → Surface → Prop
  | down {s : Surface} {pre post : List Control} {c : Control} {p : PointerId} {spot : Point} :
      s.controls = pre ++ c :: post → s.route? p = none →
        (c.down sv s.size p s.desk spot).consumed = true →
          ContactStep sv s ((c.down sv s.size p s.desk spot).issuedBy c.id)
            { s.place pre post (c.down sv s.size p s.desk spot) with
              routes := s.routes.insert p c.id }
  | move {s : Surface} {pre post : List Control} {c : Control} {p : PointerId} {spot : Point} :
      s.controls = pre ++ c :: post → s.route? p = some c.id →
        ContactStep sv s ((c.move sv s.size p s.desk spot).issuedBy c.id)
          (s.place pre post (c.move sv s.size p s.desk spot))
  | up {s : Surface} {pre post : List Control} {c : Control} {p : PointerId} :
      s.controls = pre ++ c :: post → s.route? p = some c.id →
        ContactStep sv s ((c.up s.size p s.desk).issuedBy c.id)
          { s.place pre post (c.up s.size p s.desk) with routes := s.routes.erase p }
  | stray {s : Surface} {p : PointerId} {id : ControlId} :
      s.route? p = some id → (∀ c ∈ s.controls, c.id ≠ id) →
        ContactStep sv s [] { s with routes := s.routes.erase p }

/-- What touches and the clock do to a surface, one control at a time. `lapse` is a timer whose
control is not on the surface. -/
inductive Input (sv : Services) : Surface → List Issued → Surface → Prop
  | tick {s : Surface} (now : Millis) :
      Input sv s [] (s.withTimers (s.desk.timers.advanceClock now))
  | fire {s s' : Surface} {pre post : List Control} {c : Control} {now : Millis}
      {t : ExpiredTimer} :
      s.popExpired? now = some (t, s') → s.controls = pre ++ c :: post → c.id = t.owner →
        Input sv s ((c.timer sv s'.size s'.desk t.handle).issuedBy c.id)
          (s'.place pre post (c.timer sv s'.size s'.desk t.handle))
  | lapse {s s' : Surface} {now : Millis} {t : ExpiredTimer} :
      s.popExpired? now = some (t, s') → (∀ c ∈ s.controls, c.id ≠ t.owner) → Input sv s [] s'
  | contact {s s' : Surface} {is : List Issued} : ContactStep sv s is s' → Input sv s is s'

/-- What operations on the layout do to a surface, one control at a time. Only controls whose
identifier satisfies `K` are mounted. -/
inductive Change (K : ControlId → Prop) : Surface → List Issued → Surface → Prop
  | reset {s : Surface} {pre post : List Control} {c : Control} :
      s.controls = pre ++ c :: post →
        Change K s ((c.resetToggle s.size s.desk).issuedBy c.id)
          (s.place pre post (c.resetToggle s.size s.desk))
  | detach {s : Surface} {pre post : List Control} {c : Control} :
      s.controls = pre ++ c :: post →
        Change K s (({ s with controls := pre ++ post } : Surface).detach c).issued
          (({ s with controls := pre ++ post } : Surface).detach c).state
  | mount {s : Surface} {cfg : ControlConfig} :
      K cfg.id → (∀ c ∈ s.controls, c.id ≠ cfg.id) → cfg.placement.isValid = true →
        Change K s [] (s.mount cfg)
  | resize {s : Surface} {size : SurfaceSize} :
      s.controls = [] → Change K s [] { s with size }

def Motion (sv : Services) (K : ControlId → Prop) (s : Surface) (is : List Issued) (s' : Surface) :
    Prop :=
  Input sv s is s' ∨ Change K s is s'

variable {sv : Services} {s s' : Surface} {cs : List Control} {id : ControlId} {now : Millis}
  {t : ExpiredTimer} {K : ControlId → Prop}

section Split
variable {pre post : List Control} {c c' : Control}

theorem mem_middle_iff : c' ∈ pre ++ c :: post ↔ c' = c ∨ c' ∈ pre ++ post := by
  rw [List.perm_middle.mem_iff, List.mem_cons]

theorem mem_controls_iff (hs : s.controls = pre ++ c :: post) :
    c' ∈ s.controls ↔ c' = c ∨ c' ∈ pre ++ post := by
  rw [hs, mem_middle_iff]

theorem mem_controls (hs : s.controls = pre ++ c :: post) : c ∈ s.controls :=
  (mem_controls_iff hs).2 (.inl rfl)

end Split

/-! ## Touches and timers as chains -/

theorem updateFirst_eq_some {f : Control → Reaction Control} {r : Reaction (List Control)}
    (h : updateFirst id f cs = some r) :
    ∃ pre c post, cs = pre ++ c :: post ∧ c.id = id ∧ r = (f c).map (pre ++ · :: post) := by
  induction cs generalizing r with
  | nil => cases h
  | cons c cs ih =>
    rw [updateFirst] at h
    split at h
    · rename_i hc
      cases h
      exact ⟨[], c, cs, rfl, hc, rfl⟩
    · obtain ⟨r', hr', rfl⟩ := Option.map_eq_some_iff.1 h
      obtain ⟨pre, c', post, rfl, hc', rfl⟩ := ih hr'
      exact ⟨c :: pre, c', post, rfl, hc', rfl⟩

theorem updateFirst_eq_none_iff {f : Control → Reaction Control} :
    updateFirst id f cs = none ↔ ∀ c ∈ cs, c.id ≠ id := by
  induction cs with
  | nil => simp [updateFirst]
  | cons c cs ih =>
    rw [updateFirst]
    split
    · rename_i hc
      simp [hc]
    · rename_i hc
      simp [ih, hc]

theorem offer_eq_some {size : SurfaceSize} {p : PointerId} {spot : Point} {d : Desk}
    {r : Reaction (List Control)} (h : offer sv size p spot d cs = some (id, r)) :
    ∃ pre c post, cs = pre ++ c :: post ∧ c.id = id ∧ c.bounds.contains spot = true ∧
      (c.down sv size p d spot).consumed = true ∧
      r = (c.down sv size p d spot).map (pre ++ · :: post) := by
  induction cs generalizing r with
  | nil => cases h
  | cons c cs ih =>
    rw [offer] at h
    split at h
    · rename_i id' r' hr'
      cases h
      obtain ⟨pre, c', post, rfl, hc', hb, hcons, rfl⟩ := ih hr'
      exact ⟨c :: pre, c', post, rfl, hc', hb, hcons, rfl⟩
    · split at h
      · rename_i hb
        dsimp only at h
        split at h
        · rename_i hcons
          cases h
          exact ⟨[], c, cs, rfl, rfl, hb, hcons, rfl⟩
        · cases h
      · cases h

theorem popExpired?_eq_some (h : s.popExpired? now = some (t, s')) :
    ∃ q, s.desk.timers.popExpired? now = some (t, q) ∧ s' = s.withTimers q := by
  obtain ⟨⟨t', q⟩, hq, he⟩ := Option.map_eq_some_iff.1 h
  cases he
  exact ⟨q, hq, rfl⟩

theorem input_deliver (h : s.popExpired? now = some (t, s')) :
    Input sv s (s'.deliver sv t).issued (s'.deliver sv t).state := by
  obtain ⟨q, -, hs'⟩ := popExpired?_eq_some h
  have hc : s'.controls = s.controls := by rw [hs']; rfl
  unfold deliver
  split
  · rename_i r hr
    obtain ⟨pre, c, post, hcs, hid, rfl⟩ := updateFirst_eq_some hr
    have hin : Input sv s _ _ := .fire h (hc ▸ hcs) hid
    rw [← hid]
    exact hin
  · rename_i hr
    exact .lapse h fun c hm => updateFirst_eq_none_iff.1 hr c (hc ▸ hm)

theorem chain_deliverDue (sv : Services) (s : Surface) (now : Millis) (limit : Nat) :
    Chain (Input sv) s (deliverDue sv now limit s).issued (deliverDue sv now limit s).state := by
  induction limit generalizing s with
  | zero => exact .nil
  | succ limit ih =>
    rw [deliverDue]
    split
    · exact .nil
    · rename_i t s' h
      exact .cons (input_deliver h) (ih _)

theorem chain_advance : Chain (Input sv) s (s.advance sv now).issued (s.advance sv now).state :=
  (chain_deliverDue sv s now s.pendingWork).andThen (.single (.tick now))

theorem chain_route (e : TouchEvent) :
    Chain (ContactStep sv) s (s.route sv e).issued (s.route sv e).state := by
  have hup : Chain (ContactStep sv) s (s.touchUp e.pointer).issued (s.touchUp e.pointer).state := by
    unfold touchUp
    split
    · rename_i id hr
      unfold touchControl
      split
      · rename_i r hr'
        obtain ⟨pre, c, post, hcs, rfl, rfl⟩ := updateFirst_eq_some hr'
        exact .single (.up hcs hr)
      · rename_i hn
        exact .single (.stray hr (updateFirst_eq_none_iff.1 hn))
    · exact .nil
  unfold route
  split
  · unfold touchDown
    split
    · exact .nil
    · rename_i hr
      have hr : s.route? e.pointer = none := by
        rw [route?, Std.ExtTreeMap.getElem?_eq_none]
        exact fun hm => hr (Std.ExtTreeMap.contains_iff_mem.2 hm)
      split
      · rename_i id r ho
        obtain ⟨pre, c, post, hcs, rfl, -, hcons, rfl⟩ := offer_eq_some ho
        exact .single (.down hcs hr hcons)
      · exact .nil
  · unfold touchMove
    split
    · rename_i id hr
      unfold touchControl
      split
      · rename_i r hr'
        obtain ⟨pre, c, post, hcs, rfl, rfl⟩ := updateFirst_eq_some hr'
        exact .single (.move hcs hr)
      · exact .nil
    · exact .nil
  · exact hup
  · exact hup

theorem chain_touch (e : TouchEvent) :
    Chain (Input sv) s (s.touch sv e).issued (s.touch sv e).state :=
  chain_advance.append ((chain_route e).mono fun _ _ _ => .contact)

/-! ## Operations on the layout as chains -/

theorem chain_detachEach (cs : List Control) (s : Surface) (hs : s.controls = []) :
    Chain (Change K) { s with controls := cs } (detachEach cs s).issued
      (detachEach cs s).state := by
  induction cs generalizing s with
  | nil =>
    have he : ({ s with controls := [] } : Surface) = s := by rw [← hs]
    rw [he]
    exact .nil
  | cons c cs ih =>
    have h : Change K { s with controls := c :: cs } _ _ := @Change.detach K _ [] cs c rfl
    exact .cons h (ih (s.detach c).state hs)

theorem controls_detachEach : (detachEach cs s).state.controls = s.controls := by
  induction cs generalizing s with
  | nil => rfl
  | cons c cs ih => exact ih

theorem controls_detachAll : s.detachAll.state.controls = [] := controls_detachEach

theorem size_detachEach : (detachEach cs s).state.size = s.size := by
  induction cs generalizing s with
  | nil => rfl
  | cons c cs ih => exact ih

theorem size_detachAll : s.detachAll.state.size = s.size := size_detachEach

theorem chain_detachAll : Chain (Change K) s s.detachAll.issued s.detachAll.state :=
  chain_detachEach s.controls { s with controls := [] } rfl

theorem mountAll_eq (cfgs : List ControlConfig) :
    s.mountAll cfgs = { s with controls := s.controls ++ cfgs.map (Control.mount s.size) } := by
  induction cfgs generalizing s with
  | nil => simp [mountAll]
  | cons c cfgs ih =>
    show (s.mount c).mountAll cfgs = _
    rw [ih]
    simp [mount]

theorem controls_mountAll (cfgs : List ControlConfig) :
    (s.mountAll cfgs).controls = s.controls ++ cfgs.map (Control.mount s.size) := by
  rw [mountAll_eq]

theorem chain_mountAll {cfgs : List ControlConfig} (hn : (cfgs.map (·.id)).Nodup)
    (hc : ∀ cfg ∈ cfgs, K cfg.id ∧ cfg.placement.isValid = true ∧ ∀ c ∈ s.controls, c.id ≠ cfg.id) :
    Chain (Change K) s [] (s.mountAll cfgs) := by
  induction cfgs generalizing s with
  | nil => exact .nil
  | cons cfg cfgs ih =>
    obtain ⟨hK, hv, hne⟩ := hc cfg (by simp)
    rw [List.map_cons, List.nodup_cons] at hn
    refine .cons (.mount hK hne hv) (ih hn.2 fun cfg' hm => ?_)
    obtain ⟨hK', hv', hne'⟩ := hc cfg' (by simp [hm])
    refine ⟨hK', hv', fun c hcm => ?_⟩
    rcases List.mem_append.1 hcm with hcm | hcm
    · exact hne' c hcm
    · rw [List.mem_singleton.1 hcm]
      exact fun he => hn.1 (List.mem_map.2 ⟨cfg', hm, he.symm⟩)

/-- A layout without a fault has valid placements and distinct identifiers, new ones at that. -/
theorem firstFault?_eq_none {seen : List ControlId} {cfgs : List ControlConfig}
    (h : firstFault? seen cfgs = none) :
    (cfgs.map (·.id)).Nodup ∧ ∀ cfg ∈ cfgs, cfg.id ∉ seen ∧ cfg.placement.isValid = true := by
  induction cfgs generalizing seen with
  | nil => simp
  | cons c cfgs ih =>
    rw [firstFault?] at h
    split at h
    · cases h
    · rename_i hs
      split at h
      · rename_i hv
        obtain ⟨hn, hall⟩ := ih h
        refine ⟨List.nodup_cons.2 ⟨fun hm => ?_, hn⟩, fun cfg hm => ?_⟩
        · obtain ⟨cfg, hm, he⟩ := List.mem_map.1 hm
          exact (hall cfg hm).1 (by simp [he])
        · rcases List.mem_cons.1 hm with rfl | hm
          · exact ⟨hs, hv⟩
          · exact ⟨fun hs' => (hall cfg hm).1 (by simp [hs']), (hall cfg hm).2⟩
      · cases h

theorem firstFault?_of_valid {seen : List ControlId} {cfgs : List ControlConfig}
    (hn : (cfgs.map (·.id)).Nodup)
    (hall : ∀ cfg ∈ cfgs, cfg.id ∉ seen ∧ cfg.placement.isValid = true) :
    firstFault? seen cfgs = none := by
  induction cfgs generalizing seen with
  | nil => rfl
  | cons c cfgs ih =>
    obtain ⟨hne, hn⟩ := List.nodup_cons.1 hn
    obtain ⟨hs, hv⟩ := hall c List.mem_cons_self
    rw [firstFault?, if_neg hs, if_pos hv]
    refine ih hn fun cfg hm => ?_
    obtain ⟨hs', hv'⟩ := hall cfg (List.mem_cons_of_mem c hm)
    refine ⟨fun hseen => ?_, hv'⟩
    rcases List.mem_cons.1 hseen with he | hseen
    · exact hne (List.mem_map.2 ⟨cfg, hm, he⟩)
    · exact hs' hseen

theorem chain_resetEach {R : Surface → List Issued → Surface → Prop}
    (hR : ∀ {s : Surface} {pre post : List Control} {c : Control}, s.controls = pre ++ c :: post →
      R s ((c.resetToggle s.size s.desk).issuedBy c.id)
        (s.place pre post (c.resetToggle s.size s.desk)))
    (pre : List Control) (d : Desk) :
    Chain R { s with controls := pre ++ cs, desk := d } (resetEach s.size cs d).issued
      { s with
        controls := pre ++ (resetEach s.size cs d).state.1
        desk := (resetEach s.size cs d).state.2 } := by
  induction cs generalizing pre d with
  | nil => exact .nil
  | cons c cs ih =>
    have h : R { s with controls := pre ++ c :: cs, desk := d } _ _ := hR rfl
    have h' := ih (pre ++ [(c.resetToggle s.size d).state]) (c.resetToggle s.size d).desk
    simp only [List.append_assoc, List.singleton_append] at h'
    exact .cons h h'

theorem chain_resetToggles : Chain (Change K) s s.resetToggles.issued s.resetToggles.state :=
  chain_resetEach .reset [] s.desk

end Surface
end TouchOverlay
