import Mathlib.Data.List.Forall2
import TouchOverlay.Proofs.Session
import TouchOverlay.Proofs.TimeSlicing

/-!
# Two surfaces side by side

Two surfaces get the same operations. Their controls are paired by a relation `R`, and their desks
are related by `D`, which may let them differ in what the controls do not see. Calls reach the desk in
three ways only, so three closure properties of `D` (`Site.Parallel`) are enough for every call on
every kind of control to have the same requests on both sides. From there a timer, an advance and a
touch are the same on both sides.
-/

namespace TouchOverlay

/-- Two reactions that show the same. -/
structure Reaction.Alike {σ τ : Type} (S : σ → τ → Prop) (D : Desk → Desk → Prop) (r : Reaction σ)
    (r' : Reaction τ) : Prop where
  state : S r.state r'.state
  desk : D r.desk r'.desk
  requests : r.requests = r'.requests
  consumed : r.consumed = r'.consumed

theorem Reaction.Alike.map {σ τ σ' τ' : Type} {S : σ → τ → Prop} {T : σ' → τ' → Prop}
    {D : Desk → Desk → Prop} {r : Reaction σ} {r' : Reaction τ} {f : σ → σ'} {g : τ → τ'}
    (h : r.Alike S D r') (hf : ∀ x y, S x y → T (f x) (g y)) : (r.map f).Alike T D (r'.map g) :=
  ⟨hf _ _ h.state, h.desk, h.requests, h.consumed⟩

/-- The delays that a touchpad asks for. -/
def Services.Delays (sv : Services) (delay : Millis) : Prop :=
  delay = sv.tuning.idleTimeout ∨ delay = sv.tuning.clickTimeout

/-- Calls at two sites keep the desks related. -/
structure Site.Parallel (sv : Services) (D : Desk → Desk → Prop) (site site' : Site) : Prop where
  id : site.id = site'.id
  bounds : site.bounds = site'.bounds
  surface : site.surface = site'.surface
  schedule {d d' : Desk} {delay : Millis} : sv.Delays delay → D d d' →
    (site.schedule delay d).1 = (site'.schedule delay d').1 ∧
      D (site.schedule delay d).2 (site'.schedule delay d').2
  cancel {d d' : Desk} (h : TimerHandle) : D d d' → D (d.cancel h) (d'.cancel h)
  drop {d d' : Desk} (p : PointerId) : D d d' → D (site.drop p d) (site'.drop p d')

section
variable {sv : Services} {D : Desk → Desk → Prop} {site site' : Site} {d d' : Desk} {p : PointerId}
  {spot : Point} {h : TimerHandle}

theorem Site.Parallel.anchor (hs : site.Parallel sv D site') : site.anchor = site'.anchor := by
  rw [Site.anchor, Site.anchor, hs.bounds]

/-! ## Buttons -/

namespace Button
variable (b : Button)

theorem alike_down (hs : site.Parallel sv D site') (hd : D d d')
    (ht : Option.Rel D (site.take? p d) (site'.take? p d')) :
    (b.down site p d).Alike Eq D (b.down site' p d') := by
  unfold down
  cases b.pointer? with
  | some q => exact ⟨rfl, hd, rfl, rfl⟩
  | none =>
    rw [hs.anchor]
    revert ht
    generalize site.take? p d = o, site'.take? p d' = o'
    rintro (⟨hd⟩ | _)
    · exact ⟨rfl, hd, rfl, rfl⟩
    · exact ⟨rfl, hd, rfl, rfl⟩

theorem alike_up (hs : site.Parallel sv D site') (hd : D d d') :
    (b.up site p d).Alike Eq D (b.up site' p d') := by
  unfold up releaseRequests
  rw [hs.anchor]
  split
  · exact ⟨rfl, hs.drop p hd, rfl, rfl⟩
  · exact ⟨rfl, hd, rfl, rfl⟩

theorem alike_resetToggle (hs : site.Parallel sv D site') (hd : D d d') :
    (b.resetToggle site d).Alike Eq D (b.resetToggle site' d') := by
  unfold resetToggle
  rw [hs.anchor]
  split
  · exact ⟨rfl, hd, rfl, rfl⟩
  · exact ⟨rfl, hd, rfl, rfl⟩

theorem alike_detach (hs : site.Parallel sv D site') (hd : D d d') :
    (b.detach site d).Alike Eq D (b.detach site' d') := by
  unfold detach releaseRequests
  rw [hs.anchor]
  split
  · rename_i q _
    exact ⟨rfl, hs.drop q hd, rfl, rfl⟩
  · exact ⟨rfl, hd, rfl, rfl⟩

end Button

/-! ## Direction pads -/

namespace DirectionPad
variable (pad : DirectionPad)

theorem alike_down (hs : site.Parallel sv D site') (hd : D d d')
    (ht : Option.Rel D (site.take? p d) (site'.take? p d')) :
    (pad.down site p spot d).Alike Eq D (pad.down site' p spot d') := by
  unfold down
  cases pad.pointer? with
  | some q => exact ⟨rfl, hd, rfl, rfl⟩
  | none =>
    rw [hs.anchor, hs.bounds]
    revert ht
    generalize site.take? p d = o, site'.take? p d' = o'
    rintro (⟨hd⟩ | _)
    · exact ⟨rfl, hd, rfl, rfl⟩
    · exact ⟨rfl, hd, rfl, rfl⟩

theorem alike_move (hs : site.Parallel sv D site') (hd : D d d') :
    (pad.move site p spot d).Alike Eq D (pad.move site' p spot d') := by
  unfold move
  rw [hs.anchor, hs.bounds]
  split
  · exact ⟨rfl, hd, rfl, rfl⟩
  · exact ⟨rfl, hd, rfl, rfl⟩

theorem alike_release (hs : site.Parallel sv D site') (hd : D d d') :
    (pad.release site p d).Alike Eq D (pad.release site' p d') := by
  unfold release
  rw [hs.anchor]
  exact ⟨rfl, hs.drop p hd, rfl, rfl⟩

theorem alike_up (hs : site.Parallel sv D site') (hd : D d d') :
    (pad.up site p d).Alike Eq D (pad.up site' p d') := by
  unfold up
  split
  · exact pad.alike_release hs hd
  · exact ⟨rfl, hd, rfl, rfl⟩

theorem alike_detach (hs : site.Parallel sv D site') (hd : D d d') :
    (pad.detach site d).Alike Eq D (pad.detach site' d') := by
  unfold detach
  split
  · exact pad.alike_release hs hd
  · exact ⟨rfl, hd, rfl, rfl⟩

end DirectionPad

/-! ## Touchpads -/

namespace Touchpad
variable (pad : Touchpad)

theorem alike_startPending (hs : site.Parallel sv D site') (hd : D d d') :
    (startPending sv site pad d).1 = (startPending sv site' pad d').1 ∧
      D (startPending sv site pad d).2 (startPending sv site' pad d').2 := by
  obtain ⟨hh, hd⟩ := hs.schedule (.inl rfl) hd
  exact ⟨congrArg (fun h => { pad with phase := .pending h }) hh, hd⟩

theorem alike_cancelClick (hs : site.Parallel sv D site') (hd : D d d') :
    D (pad.cancelClick d) (pad.cancelClick d') := by
  unfold cancelClick
  cases pad.clickTimer? with
  | none => exact hd
  | some h => exact hs.cancel h hd

theorem alike_resolveClick (hs : site.Parallel sv D site') (hd : D d d') :
    (resolveClick sv site pad d).1 = (resolveClick sv site' pad d').1 ∧
      D (resolveClick sv site pad d).2 (resolveClick sv site' pad d').2 := by
  obtain ⟨hh, hd⟩ := hs.schedule (.inr rfl) (pad.alike_cancelClick hs hd)
  exact ⟨congrArg (fun h => { pad with clickTimer? := some h }) hh, hd⟩

theorem Parallel.dragTarget (hs : site.Parallel sv D site') :
    dragTarget sv site spot = dragTarget sv site' spot := by
  rw [Touchpad.dragTarget, Touchpad.dragTarget, hs.surface, hs.bounds]

theorem alike_beginContact (hs : site.Parallel sv D site') (hd : D d d') :
    (beginContact sv site spot pad d).Alike Eq D (beginContact sv site' spot pad d') := by
  have hopen {pad pad' : Touchpad} {d d' : Desk} (rs : List Request) (hpad : pad = pad')
      (hd : D d d') : Reaction.Alike Eq D
        { state := (startPending sv site pad d).1
          desk := (startPending sv site pad d).2
          requests := rs }
        { state := (startPending sv site' pad' d').1
          desk := (startPending sv site' pad' d').2
          requests := rs } := by
    subst hpad
    obtain ⟨hpad, hd⟩ := pad.alike_startPending hs hd
    exact ⟨hpad, hd, rfl, rfl⟩
  unfold beginContact
  split
  · rename_i h _
    have hd := hs.cancel h hd
    split
    · rw [Parallel.dragTarget hs]
      exact ⟨rfl, hd, rfl, rfl⟩
    · obtain ⟨hpad, hd⟩ := pad.alike_resolveClick hs hd
      exact hopen _ hpad hd
  · exact hopen _ rfl hd

theorem alike_down (hs : site.Parallel sv D site') (hd : D d d')
    (ht : Option.Rel D (site.take? p d) (site'.take? p d')) :
    (pad.down sv site p spot d).Alike Eq D (pad.down sv site' p spot d') := by
  unfold down
  cases pad.contact? with
  | some c => exact ⟨rfl, hd, rfl, rfl⟩
  | none =>
    revert ht
    generalize site.take? p d = o, site'.take? p d' = o'
    rintro (⟨hd⟩ | _)
    · exact alike_beginContact _ hs hd
    · exact ⟨rfl, hd, rfl, rfl⟩

theorem alike_slide (hs : site.Parallel sv D site') (hd : D d d') (c : Contact) :
    (pad.slide sv site c spot d).Alike Eq D (pad.slide sv site' c spot d') := by
  unfold slide
  rw [Parallel.dragTarget hs]
  cases pad.phase with
  | pending timer =>
    dsimp only
    split
    · exact ⟨rfl, hs.cancel timer hd, rfl, rfl⟩
    · exact ⟨rfl, hd, rfl, rfl⟩
  | _ => exact ⟨rfl, hd, rfl, rfl⟩

theorem alike_move (hs : site.Parallel sv D site') (hd : D d d') :
    (pad.move sv site p spot d).Alike Eq D (pad.move sv site' p spot d') := by
  unfold move
  split
  · split
    · exact pad.alike_slide hs hd _
    · exact ⟨rfl, hd, rfl, rfl⟩
  · exact ⟨rfl, hd, rfl, rfl⟩

theorem alike_up (hs : site.Parallel sv D site') (hd : D d d') :
    (pad.up site p d).Alike Eq D (pad.up site' p d') := by
  unfold up
  split
  · have hd := hs.drop p hd
    cases pad.phase with
    | _ => exact ⟨rfl, hd, rfl, rfl⟩
  · exact ⟨rfl, hd, rfl, rfl⟩

theorem alike_timer (hs : site.Parallel sv D site') (hd : D d d') :
    (pad.timer sv site h d).Alike Eq D (pad.timer sv site' h d') := by
  by_cases hc : pad.clickTimer? = some h
  · rw [timer_of_click hc, timer_of_click hc]
    exact ⟨rfl, hd, rfl, rfl⟩
  · by_cases hp : pad.phase = .pending h
    · rw [timer_of_idle hc hp, timer_of_idle hc hp]
      unfold closeWindow
      split
      · exact ⟨rfl, hd, rfl, rfl⟩
      · obtain ⟨hpad, hd⟩ := pad.alike_resolveClick hs hd
        exact ⟨congrArg (fun pad : Touchpad => { pad with phase := .idle }) hpad, hd, rfl, rfl⟩
    · have hm := not_mem_timers hc hp
      rw [timer_of_not_mem hm, timer_of_not_mem hm]
      exact ⟨rfl, hd, rfl, rfl⟩

theorem alike_detach (hs : site.Parallel sv D site') (hd : D d d') :
    (pad.detach site d).Alike Eq D (pad.detach site' d') := by
  have hd : D (pad.cancelTimers d) (pad.cancelTimers d') := by
    unfold cancelTimers
    split
    · rename_i h _
      exact pad.alike_cancelClick hs (hs.cancel h hd)
    · exact pad.alike_cancelClick hs hd
  refine ⟨rfl, ?_, rfl, rfl⟩
  unfold detach
  cases pad.pointer? with
  | none => exact hd
  | some p => exact hs.drop p hd

end Touchpad

/-! ## All kinds -/

namespace Behaviour
variable (b : Behaviour)

theorem alike_down (hs : site.Parallel sv D site') (hd : D d d')
    (ht : Option.Rel D (site.take? p d) (site'.take? p d')) :
    (b.down sv site p spot d).Alike Eq D (b.down sv site' p spot d') := by
  cases b with
  | button b => exact (b.alike_down hs hd ht).map fun _ _ h => congrArg button h
  | directionPad pad => exact (pad.alike_down hs hd ht).map fun _ _ h => congrArg directionPad h
  | touchpad pad => exact (pad.alike_down hs hd ht).map fun _ _ h => congrArg touchpad h

theorem alike_move (hs : site.Parallel sv D site') (hd : D d d') :
    (b.move sv site p spot d).Alike Eq D (b.move sv site' p spot d') := by
  cases b with
  | button b => exact ⟨rfl, hd, rfl, rfl⟩
  | directionPad pad => exact (pad.alike_move hs hd).map fun _ _ h => congrArg directionPad h
  | touchpad pad => exact (pad.alike_move hs hd).map fun _ _ h => congrArg touchpad h

theorem alike_up (hs : site.Parallel sv D site') (hd : D d d') :
    (b.up site p d).Alike Eq D (b.up site' p d') := by
  cases b with
  | button b => exact (b.alike_up hs hd).map fun _ _ h => congrArg button h
  | directionPad pad => exact (pad.alike_up hs hd).map fun _ _ h => congrArg directionPad h
  | touchpad pad => exact (pad.alike_up hs hd).map fun _ _ h => congrArg touchpad h

theorem alike_timer (hs : site.Parallel sv D site') (hd : D d d') :
    (b.timer sv site d h).Alike Eq D (b.timer sv site' d' h) := by
  cases b with
  | touchpad pad => exact (pad.alike_timer hs hd).map fun _ _ h => congrArg touchpad h
  | _ => exact ⟨rfl, hd, rfl, rfl⟩

theorem alike_resetToggle (hs : site.Parallel sv D site') (hd : D d d') :
    (b.resetToggle site d).Alike Eq D (b.resetToggle site' d') := by
  cases b with
  | button b => exact (b.alike_resetToggle hs hd).map fun _ _ h => congrArg button h
  | _ => exact ⟨rfl, hd, rfl, rfl⟩

theorem alike_detach (hs : site.Parallel sv D site') (hd : D d d') :
    (b.detach site d).Alike Eq D (b.detach site' d') := by
  cases b with
  | button b => exact (b.alike_detach hs hd).map fun _ _ h => congrArg button h
  | directionPad pad => exact (pad.alike_detach hs hd).map fun _ _ h => congrArg directionPad h
  | touchpad pad => exact (pad.alike_detach hs hd).map fun _ _ h => congrArg touchpad h

end Behaviour
end

/-! ## Surfaces -/

/-- Paired controls have the same session, and sites that keep the desks related. -/
structure Control.Pairing (sv : Services) (R : Control → Control → Prop)
    (D : Desk → Desk → Prop) : Prop where
  behaviour {c c' : Control} : R c c' → c.behaviour = c'.behaviour
  update {c c' : Control} (b : Behaviour) : R c c' →
    R { c with behaviour := b } { c' with behaviour := b }
  parallel {c c' : Control} (size : SurfaceSize) : R c c' →
    (c.site size).Parallel sv D (c'.site size)

/-- The same timers are due on related desks at two times. -/
structure Desk.Paced (D : Desk → Desk → Prop) (now now' : Millis) : Prop where
  pop {d d' : Desk} : D d d' → Option.Rel
    (fun x x' => x.1.owner = x'.1.owner ∧ x.1.handle = x'.1.handle ∧
      D { d with timers := x.2 } { d' with timers := x'.2 })
    (d.timers.popExpired? now) (d'.timers.popExpired? now')
  tick {d d' : Desk} : D d d' → D { d with timers := d.timers.advanceClock now }
    { d' with timers := d'.timers.advanceClock now' }

namespace Control.Pairing
variable {sv : Services} {R : Control → Control → Prop} {D : Desk → Desk → Prop} {c c' : Control}
  {d d' : Desk} {size : SurfaceSize} {p : PointerId} {spot : Point} {h : TimerHandle}
  {r r' : Reaction Behaviour}

theorem id (hp : Pairing sv R D) (hc : R c c') : c.id = c'.id := (hp.parallel ⟨0, 0⟩ hc).id

theorem bounds (hp : Pairing sv R D) (hc : R c c') : c.bounds = c'.bounds :=
  (hp.parallel ⟨0, 0⟩ hc).bounds

theorem react (hp : Pairing sv R D) (hc : R c c') (hr : r.Alike Eq D r') :
    (c.react r).Alike R D (c'.react r') :=
  hr.map fun b _ hb => hb ▸ hp.update b hc

theorem down (hp : Pairing sv R D) (hc : R c c') (hd : D d d')
    (ht : Option.Rel D ((c.site size).take? p d) ((c'.site size).take? p d')) :
    (c.down sv size p d spot).Alike R D (c'.down sv size p d' spot) := by
  unfold Control.down
  rw [← hp.behaviour hc, ← hp.bounds hc]
  exact hp.react hc (c.behaviour.alike_down (hp.parallel size hc) hd ht)

theorem move (hp : Pairing sv R D) (hc : R c c') (hd : D d d') :
    (c.move sv size p d spot).Alike R D (c'.move sv size p d' spot) := by
  unfold Control.move
  rw [← hp.behaviour hc, ← hp.bounds hc]
  exact hp.react hc (c.behaviour.alike_move (hp.parallel size hc) hd)

theorem up (hp : Pairing sv R D) (hc : R c c') (hd : D d d') :
    (c.up size p d).Alike R D (c'.up size p d') := by
  unfold Control.up
  rw [← hp.behaviour hc]
  exact hp.react hc (c.behaviour.alike_up (hp.parallel size hc) hd)

theorem timer (hp : Pairing sv R D) (hc : R c c') (hd : D d d') :
    (c.timer sv size d h).Alike R D (c'.timer sv size d' h) := by
  unfold Control.timer
  rw [← hp.behaviour hc]
  exact hp.react hc (c.behaviour.alike_timer (hp.parallel size hc) hd)

theorem resetToggle (hp : Pairing sv R D) (hc : R c c') (hd : D d d') :
    (c.resetToggle size d).Alike R D (c'.resetToggle size d') := by
  unfold Control.resetToggle
  rw [← hp.behaviour hc]
  exact hp.react hc (c.behaviour.alike_resetToggle (hp.parallel size hc) hd)

theorem detach (hp : Pairing sv R D) (hc : R c c') (hd : D d d') :
    (c.detach size d).Alike R D (c'.detach size d') := by
  unfold Control.detach
  rw [← hp.behaviour hc]
  exact hp.react hc (c.behaviour.alike_detach (hp.parallel size hc) hd)

end Control.Pairing

namespace Surface

/-- The two surfaces differ only in what `R` and `D` leave open. -/
structure Alike (R : Control → Control → Prop) (D : Desk → Desk → Prop) (s s' : Surface) : Prop where
  size : s.size = s'.size
  desk : D s.desk s'.desk
  controls : List.Forall₂ R s.controls s'.controls
  routes : s.routes = s'.routes

variable {sv : Services} {R : Control → Control → Prop} {D : Desk → Desk → Prop} {s s' : Surface}
  {c c' : Control} {cs cs' : List Control} {d d' : Desk} {size : SurfaceSize} {p : PointerId}
  {spot : Point} {id : ControlId} {t t' : ExpiredTimer} {e : TouchEvent} {now now' : Millis}

theorem issuedBy_of_alike {σ τ : Type} {S : σ → τ → Prop} {r : Reaction σ} {r' : Reaction τ}
    (hr : r.Alike S D r') : r.issuedBy id = r'.issuedBy id := by
  rw [Reaction.issuedBy, Reaction.issuedBy, hr.requests]

theorem alike_updateFirst (id : ControlId) (hp : Control.Pairing sv R D)
    {f f' : Control → Reaction Control}
    (hf : ∀ {c c'}, R c c' → (f c).Alike R D (f' c')) (hcs : List.Forall₂ R cs cs') :
    Option.Rel (Reaction.Alike (List.Forall₂ R) D) (updateFirst id f cs) (updateFirst id f' cs') := by
  induction hcs with
  | nil => exact .none
  | cons hc hcs ih =>
    unfold updateFirst
    rw [hp.id hc]
    split
    · exact .some ((hf hc).map fun _ _ h => .cons h hcs)
    · revert ih
      generalize updateFirst id f _ = o, updateFirst id f' _ = o'
      rintro (⟨hr⟩ | _)
      · exact .some (hr.map fun _ _ h => .cons hc h)
      · exact .none

theorem alike_offer (spot : Point) (hp : Control.Pairing sv R D) (hd : D d d')
    (ht : ∀ {c c'}, R c c' → Option.Rel D ((c.site size).take? p d) ((c'.site size).take? p d'))
    (hcs : List.Forall₂ R cs cs') :
    Option.Rel (fun x x' => x.1 = x'.1 ∧ x.2.Alike (List.Forall₂ R) D x'.2)
      (offer sv size p spot d cs) (offer sv size p spot d' cs') := by
  induction hcs with
  | nil => exact .none
  | @cons c c' cs cs' hc hcs ih =>
    unfold offer
    revert ih
    generalize offer sv size p spot d cs = o, offer sv size p spot d' cs' = o'
    rintro (⟨hid, hr⟩ | _)
    · exact .some ⟨hid, hr.map fun _ _ h => .cons hc h⟩
    · have hr : (c.down sv size p d spot).Alike R D (c'.down sv size p d' spot) :=
        hp.down hc hd (ht hc)
      dsimp only
      rw [← hp.bounds hc, ← hr.consumed]
      split
      · split
        · exact .some ⟨hp.id hc, hr.map (T := List.Forall₂ R) fun _ _ h => .cons h hcs⟩
        · exact .none
      · exact .none

namespace Alike

theorem absorb (h : s.Alike R D s') {r r' : Reaction (List Control)}
    (hr : r.Alike (List.Forall₂ R) D r') : (s.absorb r).Alike R D (s'.absorb r') :=
  ⟨h.size, hr.desk, hr.state, h.routes⟩

theorem deliver (hp : Control.Pairing sv R D) (h : s.Alike R D s') (ho : t.owner = t'.owner)
    (hh : t.handle = t'.handle) :
    (s.deliver sv t).state.Alike R D (s'.deliver sv t').state ∧
      (s.deliver sv t).issued = (s'.deliver sv t').issued := by
  have hu : Option.Rel (Reaction.Alike (List.Forall₂ R) D)
      (updateFirst t.owner (fun c => c.timer sv s.size s.desk t.handle) s.controls)
      (updateFirst t'.owner (fun c => c.timer sv s'.size s'.desk t'.handle) s'.controls) := by
    rw [← ho, ← hh, ← h.size]
    exact alike_updateFirst t.owner hp (fun hc => hp.timer hc h.desk) h.controls
  unfold Surface.deliver
  revert hu
  generalize updateFirst t.owner _ _ = o, updateFirst t'.owner _ _ = o'
  rintro (@⟨r, r', hr⟩ | _)
  · refine ⟨h.absorb hr, ?_⟩
    show r.issuedBy t.owner = r'.issuedBy t'.owner
    rw [issuedBy_of_alike hr, ho]
  · exact ⟨h, rfl⟩

theorem advance (hp : Control.Pairing sv R D) (hc : Desk.Paced D now now') (h : s.Alike R D s') :
    (s.advance sv now).state.Alike R D (s'.advance sv now').state ∧
      (s.advance sv now).issued = (s'.advance sv now').issued ∧
      (s.advance sv now).delivered = (s'.advance sv now').delivered := by
  have hnext {s s' : Surface} (h : s.Alike R D s') : Option.Rel
      (fun x x' => x.1.owner = x'.1.owner ∧ x.1.handle = x'.1.handle ∧ x.2.Alike R D x'.2)
      (s.popExpired? now) (s'.popExpired? now') := by
    have hq := hc.pop h.desk
    unfold popExpired?
    revert hq
    generalize s.desk.timers.popExpired? now = o, s'.desk.timers.popExpired? now' = o'
    rintro (⟨ho, hh, hd⟩ | _)
    · exact .some ⟨ho, hh, h.size, hd, h.controls, h.routes⟩
    · exact .none
  induction s using advance_induction sv now generalizing s' with
  | idle s hs =>
    have hs' : s'.popExpired? now' = none := by
      have hr := hnext h
      rw [hs] at hr
      generalize s'.popExpired? now' = o at hr
      cases hr
      rfl
    rw [advance_of_popExpired?_eq_none hs, advance_of_popExpired?_eq_none hs']
    exact ⟨⟨h.size, hc.tick h.desk, h.controls, h.routes⟩, rfl, rfl⟩
  | pop s t s₁ hs ih =>
    have hr := hnext h
    rw [hs] at hr
    cases hs' : s'.popExpired? now' with
    | none =>
      rw [hs'] at hr
      cases hr
    | some x =>
      obtain ⟨t', s₁'⟩ := x
      rw [hs'] at hr
      obtain ⟨ho, hh, h₁⟩ := hr
      obtain ⟨hstate, hissued⟩ := h₁.deliver hp ho hh
      obtain ⟨hrest, hi, hn⟩ := ih hstate
      rw [advance_of_popExpired? hs, advance_of_popExpired? hs']
      refine ⟨hrest, ?_, ?_⟩
      · exact congrArg₂ (· ++ ·) hissued hi
      · exact congrArg (1 + ·) hn

theorem touchControl (hp : Control.Pairing sv R D) {f f' : Control → Reaction Control}
    (h : s.Alike R D s') (hf : ∀ {c c'}, R c c' → (f c).Alike R D (f' c')) :
    (s.touchControl id f).state.Alike R D (s'.touchControl id f').state ∧
      (s.touchControl id f).issued = (s'.touchControl id f').issued ∧
      (s.touchControl id f).consumed = (s'.touchControl id f').consumed := by
  have hu := alike_updateFirst id hp hf h.controls
  unfold Surface.touchControl
  revert hu
  generalize updateFirst id f _ = o, updateFirst id f' _ = o'
  rintro (⟨hr⟩ | _)
  · exact ⟨h.absorb hr, issuedBy_of_alike hr, hr.consumed⟩
  · exact ⟨h, rfl, rfl⟩

/-- A touch without the timers before it. A new contact is one that both sides take or refuse. -/
theorem route (hp : Control.Pairing sv R D) (h : s.Alike R D s')
    (ht : s.route? e.pointer = none → ∀ {c c'}, R c c' → Option.Rel D
      ((c.site s.size).take? e.pointer s.desk) ((c'.site s.size).take? e.pointer s'.desk)) :
    (s.route sv e).state.Alike R D (s'.route sv e).state ∧
      (s.route sv e).issued = (s'.route sv e).issued ∧
      (s.route sv e).consumed = (s'.route sv e).consumed := by
  have hroute (p : PointerId) : s'.route? p = s.route? p := by rw [route?, route?, h.routes]
  have hup : (s.touchUp e.pointer).state.Alike R D (s'.touchUp e.pointer).state ∧
      (s.touchUp e.pointer).issued = (s'.touchUp e.pointer).issued ∧
      (s.touchUp e.pointer).consumed = (s'.touchUp e.pointer).consumed := by
    unfold touchUp
    rw [hroute, ← h.routes, ← h.size]
    split
    · have h₁ : Surface.Alike R D { s with routes := s.routes.erase e.pointer }
          { s' with size := s.size, routes := s.routes.erase e.pointer } :=
        ⟨rfl, h.desk, h.controls, rfl⟩
      exact h₁.touchControl hp fun hc => hp.up hc h.desk
    · exact ⟨h, rfl, rfl⟩
  unfold Surface.route
  split
  · unfold touchDown
    rw [← h.routes, ← h.size]
    split
    · exact ⟨h, rfl, rfl⟩
    · rename_i hc
      have hnone : s.route? e.pointer = none := by
        refine Std.ExtTreeMap.getElem?_eq_none ?_
        rwa [← Std.ExtTreeMap.contains_iff_mem]
      have ho := alike_offer e.position hp h.desk (ht hnone) h.controls
      revert ho
      generalize offer sv _ _ _ s.desk _ = o, offer sv _ _ _ s'.desk _ = o'
      rintro (@⟨x, x', hid, hr⟩ | _)
      · obtain ⟨id, r⟩ := x
        obtain ⟨id', r'⟩ := x'
        obtain rfl : id = id' := hid
        exact ⟨⟨h.size, hr.desk, hr.state, rfl⟩, issuedBy_of_alike hr, rfl⟩
      · exact ⟨h, rfl, rfl⟩
  · unfold touchMove
    rw [hroute, ← h.size]
    split
    · exact h.touchControl hp fun hc => hp.move hc h.desk
    · exact ⟨h, rfl, rfl⟩
  · exact hup
  · exact hup

theorem touch (hp : Control.Pairing sv R D) (hc : Desk.Paced D e.time now') (h : s.Alike R D s')
    (ht : let s₁ := (s.advance sv e.time).state
      let s₁' := (s'.advance sv now').state
      s₁.route? e.pointer = none → ∀ {c c'}, R c c' → Option.Rel D
        ((c.site s₁.size).take? e.pointer s₁.desk) ((c'.site s₁.size).take? e.pointer s₁'.desk)) :
    (s.touch sv e).state.Alike R D (s'.touch sv { e with time := now' }).state ∧
      (s.touch sv e).issued = (s'.touch sv { e with time := now' }).issued ∧
      (s.touch sv e).consumed = (s'.touch sv { e with time := now' }).consumed := by
  obtain ⟨ha, hi, -⟩ := h.advance hp hc
  obtain ⟨hr, hj, hn⟩ := ha.route hp ht
  exact ⟨hr, congrArg₂ (· ++ ·) hi hj, hn⟩

end Alike
end Surface
end TouchOverlay
