import TouchOverlay.Proofs.Exclusive
import TouchOverlay.Proofs.SideBySide

/-!
# What passing through changes

Two layouts differ in nothing but which of their controls let contacts pass through. A withholding
control claims a pointer and a pass-through one only looks who has it; on a surface that nobody else
works on both take every pointer that is not routed, since such a pointer is never claimed. So the
surfaces stay the same but for the flags and the claims.
-/

namespace TouchOverlay

/-! ## Without the flags -/

def ControlConfig.forgetFlag (c : ControlConfig) : ControlConfig := { c with passThrough := false }

def Control.forgetFlag (c : Control) : Control := { c with passThrough := false }

/-- The surface without flags and without claims. -/
def Surface.forgetFlags (s : Surface) : Surface :=
  { s with controls := s.controls.map Control.forgetFlag, desk := { s.desk with claims := .empty } }

def Operation.forgetFlags : Operation → Operation
  | addControl c => addControl c.forgetFlag
  | replaceLayout cs => replaceLayout (cs.map ControlConfig.forgetFlag)
  | op => op

def Answer.forgetFlags : Answer → Answer
  | removed c => removed c.forgetFlag
  | a => a

def Moment.forgetFlags (m : Moment) : Moment :=
  { answer := m.answer.forgetFlags, issued := m.issued, surface := m.surface.forgetFlags }

/-! ## Alike but for the flags -/

/-- The same control but for the flag. -/
def Control.Flagged (c c' : Control) : Prop := c.forgetFlag = c'.forgetFlag

def Desk.SameTimers (d d' : Desk) : Prop := d.timers = d'.timers

namespace Control.Flagged
variable {c c' : Control}

theorem id (h : c.Flagged c') : c.id = c'.id := congrArg (·.id) h

theorem behaviour (h : c.Flagged c') : c.behaviour = c'.behaviour := congrArg (·.behaviour) h

theorem config (h : c.Flagged c') : c.config.forgetFlag = c'.config.forgetFlag :=
  congrArg Control.config h

theorem parallel (sv : Services) (size : SurfaceSize) (h : c.Flagged c') :
    (c.site size).Parallel sv Desk.SameTimers (c'.site size) where
  id := h.id
  bounds := congrArg (·.bounds) h
  surface := rfl
  schedule {d d' delay} _ hd := by
    have hid : (c.site size).id = (c'.site size).id := h.id
    have hd : d.timers = d'.timers := hd
    unfold Site.schedule
    rw [hid, hd]
    exact ⟨rfl, rfl⟩
  cancel h hd := congrArg (fun q : TimerQueue => (q.cancel h).2) hd
  drop p hd := hd

theorem pairing (sv : Services) : Control.Pairing sv Control.Flagged Desk.SameTimers where
  behaviour h := h.behaviour
  update b h := congrArg (fun c : Control => ({ c with behaviour := b } : Control)) h
  parallel size h := h.parallel sv size

end Control.Flagged

theorem Desk.paced_sameTimers (now : Millis) : Desk.Paced Desk.SameTimers now now where
  pop {d d'} hd := by
    have hd : d.timers = d'.timers := hd
    rw [hd]
    cases d'.timers.popExpired? now with
    | none => exact .none
    | some x => exact .some ⟨rfl, rfl, rfl⟩
  tick {d d'} hd := congrArg (fun q : TimerQueue => q.advanceClock now) hd

namespace Surface
variable {s s' : Surface} {c c' : Control} {cs cs' : List Control}

/-- The surfaces differ in flags and claims only. -/
abbrev FlagAlike (s s' : Surface) : Prop := s.Alike Control.Flagged Desk.SameTimers s'

theorem forall₂_flagged_iff :
    List.Forall₂ Control.Flagged cs cs' ↔ cs.map Control.forgetFlag = cs'.map Control.forgetFlag := by
  rw [← List.forall₂_eq_eq_eq, List.forall₂_map_left_iff, List.forall₂_map_right_iff]
  rfl

theorem firstFault?_forgetFlag (seen : List ControlId) (cfgs : List ControlConfig) :
    firstFault? seen (cfgs.map ControlConfig.forgetFlag) = firstFault? seen cfgs := by
  induction cfgs generalizing seen with
  | nil => rfl
  | cons cfg cfgs ih => simp only [List.map_cons, firstFault?, ControlConfig.forgetFlag, ih]

namespace FlagAlike

theorem forgetFlags_eq (h : s.FlagAlike s') : s.forgetFlags = s'.forgetFlags := by
  have hd : s.desk.timers = s'.desk.timers := h.desk
  simp only [Surface.forgetFlags, h.size, hd, forall₂_flagged_iff.1 h.controls, h.routes]

/-! ### Layout -/

theorem detach (h : s.FlagAlike s') (hc : c.Flagged c') :
    (s.detach c).state.FlagAlike (s'.detach c').state ∧
      (s.detach c).issued = (s'.detach c').issued := by
  have hr : (c.detach s.size s.desk).Alike Control.Flagged Desk.SameTimers
      (c'.detach s.size s'.desk) := (Control.Flagged.pairing {}).detach hc h.desk
  have ht : (c.detach s.size s.desk).desk.timers = (c'.detach s.size s'.desk).desk.timers := hr.desk
  unfold Surface.detach
  rw [← h.size, ← hc.id, ← h.routes]
  refine ⟨⟨rfl, ?_, h.controls, rfl⟩, ?_⟩
  · exact congrArg (fun q : TimerQueue => (q.cancelOwnedBy c.id).2) ht
  · exact issuedBy_of_alike hr

theorem detachEach (hcs : List.Forall₂ Control.Flagged cs cs') (h : s.FlagAlike s') :
    (detachEach cs s).state.FlagAlike (detachEach cs' s').state ∧
      (detachEach cs s).issued = (detachEach cs' s').issued := by
  induction hcs generalizing s s' with
  | nil => exact ⟨h, rfl⟩
  | cons hc hcs ih =>
    obtain ⟨hd, hi⟩ := h.detach hc
    obtain ⟨hds, hj⟩ := ih hd
    exact ⟨hds, congrArg₂ (· ++ ·) hi hj⟩

theorem detachAll (h : s.FlagAlike s') : s.detachAll.state.FlagAlike s'.detachAll.state ∧
    s.detachAll.issued = s'.detachAll.issued :=
  detachEach h.controls ⟨h.size, h.desk, .nil, h.routes⟩

theorem mountAll {cfgs cfgs' : List ControlConfig} (h : s.FlagAlike s')
    (hc : cfgs.map ControlConfig.forgetFlag = cfgs'.map ControlConfig.forgetFlag) :
    (s.mountAll cfgs).FlagAlike (s'.mountAll cfgs') := by
  rw [mountAll_eq, mountAll_eq]
  refine ⟨h.size, h.desk, ?_, h.routes⟩
  have hmount {cfgs : List ControlConfig} : (cfgs.map (Control.mount s.size)).map .forgetFlag =
      (cfgs.map ControlConfig.forgetFlag).map (Control.mount s.size) := by
    rw [List.map_map, List.map_map]
    rfl
  rw [← h.size, forall₂_flagged_iff, List.map_append, List.map_append, hmount, hmount, hc,
    forall₂_flagged_iff.1 h.controls]

theorem resize (h : s.FlagAlike s') (size : SurfaceSize) :
    (s.resize size).state.FlagAlike (s'.resize size).state ∧
      (s.resize size).issued = (s'.resize size).issued := by
  obtain ⟨hd, hi⟩ := h.detachAll
  refine ⟨mountAll ⟨rfl, hd.desk, hd.controls, hd.routes⟩ ?_, hi⟩
  have hvalid {s : Surface} : ((s.controls.map Control.config).filter (·.placement.isValid)).map
      ControlConfig.forgetFlag =
        ((s.controls.map Control.forgetFlag).map Control.config).filter (·.placement.isValid) := by
    have hc : (s.controls.map Control.forgetFlag).map Control.config =
        (s.controls.map Control.config).map ControlConfig.forgetFlag := by
      rw [List.map_map, List.map_map]
      rfl
    rw [hc]
    exact (List.filter_map (f := ControlConfig.forgetFlag)
      (p := fun cfg : ControlConfig => cfg.placement.isValid)).symm
  rw [hvalid, hvalid, forall₂_flagged_iff.1 h.controls]

theorem resetToggles (h : s.FlagAlike s') :
    s.resetToggles.state.FlagAlike s'.resetToggles.state ∧
      s.resetToggles.issued = s'.resetToggles.issued := by
  have heach {cs cs' : List Control} {d d' : Desk} (hcs : List.Forall₂ Control.Flagged cs cs')
      (hd : d.SameTimers d') :
      List.Forall₂ Control.Flagged (resetEach s.size cs d).state.1 (resetEach s.size cs' d').state.1 ∧
        (resetEach s.size cs d).state.2.SameTimers (resetEach s.size cs' d').state.2 ∧
        (resetEach s.size cs d).issued = (resetEach s.size cs' d').issued := by
    induction hcs generalizing d d' with
    | nil => exact ⟨.nil, hd, rfl⟩
    | @cons c c' cs cs' hc hcs ih =>
      have hr : (c.resetToggle s.size d).Alike Control.Flagged Desk.SameTimers
          (c'.resetToggle s.size d') := (Control.Flagged.pairing {}).resetToggle hc hd
      obtain ⟨hstate, hdesk, hi⟩ := ih hr.desk
      refine ⟨.cons hr.state hstate, hdesk, ?_⟩
      unfold resetEach
      rw [← hc.id]
      exact congrArg₂ (· ++ ·) (issuedBy_of_alike hr) hi
  obtain ⟨hcs, hd, hi⟩ := heach h.controls h.desk
  unfold Surface.resetToggles
  rw [← h.size]
  exact ⟨⟨rfl, hd, hcs, h.routes⟩, hi⟩

theorem shutdown (h : s.FlagAlike s') : s.shutdown.state.FlagAlike s'.shutdown.state ∧
    s.shutdown.issued = s'.shutdown.issued := by
  obtain ⟨hd, hi⟩ := h.detachAll
  exact ⟨⟨hd.size, hd.desk, hd.controls, hd.routes⟩, hi⟩

theorem addControl_cases (h : s.FlagAlike s') (cfg : ControlConfig) :
    (∃ e, s.addControl cfg = .error e ∧ s'.addControl cfg.forgetFlag = .error e) ∨
      s.addControl cfg = .ok (s.mount cfg) ∧
        s'.addControl cfg.forgetFlag = .ok (s'.mount cfg.forgetFlag) := by
  have hany : s.controls.any (·.id = cfg.id) = s'.controls.any (·.id = cfg.id) := by
    have hmap (cs : List Control) : cs.any (·.id = cfg.id) =
        (cs.map Control.forgetFlag).any (·.id = cfg.id) :=
      (List.any_map (f := Control.forgetFlag) (p := fun c : Control => decide (c.id = cfg.id))).symm
    rw [hmap s.controls, hmap s'.controls, forall₂_flagged_iff.1 h.controls]
  have hid : cfg.forgetFlag.id = cfg.id := rfl
  have hplacement : cfg.forgetFlag.placement = cfg.placement := rfl
  unfold Surface.addControl
  rw [hid, hplacement, ← hany]
  split
  · exact .inl ⟨_, rfl, rfl⟩
  · split
    · exact .inr ⟨rfl, rfl⟩
    · exact .inl ⟨_, rfl, rfl⟩

theorem removeControl_cases (h : s.FlagAlike s') (id : ControlId) :
    (∃ e, s.removeControl id = .error e ∧ s'.removeControl id = .error e) ∨
      ∃ c c' r r', s.removeControl id = .ok (c, r) ∧ s'.removeControl id = .ok (c', r') ∧
        c.forgetFlag = c'.forgetFlag ∧ r.state.FlagAlike r'.state ∧ r.issued = r'.issued := by
  have hfind {cs cs' : List Control} (hcs : List.Forall₂ Control.Flagged cs cs') :
      Option.Rel Control.Flagged (cs.find? (·.id = id)) (cs'.find? (·.id = id)) ∧
        List.Forall₂ Control.Flagged (cs.eraseP (·.id = id)) (cs'.eraseP (·.id = id)) := by
    induction hcs with
    | nil => exact ⟨.none, .nil⟩
    | @cons c c' cs cs' hc hcs ih =>
      rw [List.find?_cons, List.find?_cons, List.eraseP_cons, List.eraseP_cons, ← hc.id]
      by_cases hi : c.id = id
      · simp only [hi, decide_true]
        exact ⟨.some hc, hcs⟩
      · simp only [hi, decide_false]
        exact ⟨ih.1, .cons hc ih.2⟩
  obtain ⟨hf, he⟩ := hfind h.controls
  unfold Surface.removeControl Surface.control?
  revert hf
  generalize s.controls.find? _ = o, s'.controls.find? _ = o'
  rintro (⟨hc⟩ | _)
  · exact .inr ⟨_, _, _, _, rfl, rfl, hc.config, detach ⟨h.size, h.desk, he, h.routes⟩ hc⟩
  · exact .inl ⟨_, rfl, rfl⟩

end FlagAlike
end Surface

/-! ## Histories -/

/-- The moments differ in flags and claims only. -/
structure Moment.FlagAlike (m m' : Moment) : Prop where
  answer : m.answer.forgetFlags = m'.answer.forgetFlags
  issued : m.issued = m'.issued
  surface : m.surface.FlagAlike m'.surface

theorem Moment.FlagAlike.forgetFlags_eq {m m' : Moment} (h : m.FlagAlike m') :
    m.forgetFlags = m'.forgetFlags := by
  rw [forgetFlags, forgetFlags, h.answer, h.issued, h.surface.forgetFlags_eq]

namespace Surface
variable {sv : Services} {s s' : Surface}

/-- A pointer that is not routed is not claimed, so neither side refuses it. -/
theorem FlagAlike.take? (h : s.FlagAlike s') (hs : s.Exclusive) (hs' : s'.Exclusive)
    {p : PointerId} (hp : s.route? p = none) {c c' : Control} :
    Option.Rel Desk.SameTimers ((c.site s.size).take? p s.desk)
      ((c'.site s.size).take? p s'.desk) := by
  have htake {s : Surface} (hs : s.Exclusive) (hp : s.route? p = none) (c : Control)
      (size : SurfaceSize) :
      ∃ d, (c.site size).take? p s.desk = some d ∧ d.timers = s.desk.timers := by
    have hne : s.desk.claims.take? p c.id c.passThrough ≠ none :=
      Claims.take?_ne_none (hs.owner?_eq_none hp)
    obtain ⟨cl, hcl⟩ := Option.ne_none_iff_exists'.1 hne
    exact ⟨{ s.desk with claims := cl }, congrArg (Option.map _) hcl, rfl⟩
  obtain ⟨d, hd, ht⟩ := htake hs hp c s.size
  obtain ⟨d', hd', ht'⟩ := htake hs' (by rwa [route?, ← h.routes]) c' s.size
  rw [hd, hd']
  exact .some (ht.trans (Eq.trans h.desk ht'.symm))

theorem FlagAlike.touch (sv : Services) (h : s.FlagAlike s') (hs : s.Exclusive)
    (hs' : s'.Exclusive) (e : TouchEvent) :
    (s.touch sv e).state.FlagAlike (s'.touch sv e).state ∧
      (s.touch sv e).issued = (s'.touch sv e).issued ∧
      (s.touch sv e).consumed = (s'.touch sv e).consumed := by
  have hpair := Control.Flagged.pairing sv
  have hpace := Desk.paced_sameTimers e.time
  have ha := (Alike.advance hpair hpace h).1
  refine Alike.touch hpair hpace h ?_
  intro s₁ s₁' hp c c' _
  exact FlagAlike.take? ha (hs.perform sv (.advance e.time)) (hs'.perform sv (.advance e.time)) hp

theorem FlagAlike.moment (h : s.FlagAlike s') (hs : s.Exclusive) (hs' : s'.Exclusive)
    (op : Operation) : (s.moment sv op).FlagAlike (s'.moment sv op.forgetFlags) := by
  cases op with
  | addControl cfg =>
    simp only [Surface.moment, Operation.answer, Operation.perform, Operation.apply,
      Operation.forgetFlags]
    rcases h.addControl_cases cfg with ⟨e, he, he'⟩ | ⟨ho, ho'⟩
    · rw [he, he']
      exact ⟨rfl, rfl, h⟩
    · rw [ho, ho']
      have hm : (s.mountAll [cfg]).FlagAlike (s'.mountAll [cfg.forgetFlag]) := h.mountAll rfl
      exact ⟨rfl, rfl, hm⟩
  | removeControl id =>
    simp only [Surface.moment, Operation.answer, Operation.perform, Operation.apply,
      Operation.forgetFlags]
    rcases h.removeControl_cases id with ⟨e, he, he'⟩ | ⟨c, c', r, r', ho, ho', hc, hr, hi⟩
    · rw [he, he']
      exact ⟨rfl, rfl, h⟩
    · rw [ho, ho']
      exact ⟨congrArg Answer.removed hc, hi, hr⟩
  | replaceLayout cfgs =>
    simp only [Surface.moment, Operation.answer, Operation.perform, Operation.apply,
      Operation.forgetFlags, replaceLayout, firstFault?_forgetFlag]
    cases firstFault? [] cfgs with
    | some e => exact ⟨rfl, rfl, h⟩
    | none =>
      obtain ⟨hd, hi⟩ := h.detachAll
      exact ⟨rfl, hi, hd.mountAll (by simp [Function.comp_def, ControlConfig.forgetFlag])⟩
  | resize size => exact ⟨rfl, (h.resize size).2, (h.resize size).1⟩
  | resetToggles => exact ⟨rfl, h.resetToggles.2, h.resetToggles.1⟩
  | shutdown => exact ⟨rfl, h.shutdown.2, h.shutdown.1⟩
  | advance now =>
    obtain ⟨hstate, hissued, hn⟩ :=
      Alike.advance (Control.Flagged.pairing sv) (Desk.paced_sameTimers now) h
    exact ⟨congrArg Answer.delivered hn, hissued, hstate⟩
  | touch e =>
    obtain ⟨hstate, hissued, hc⟩ := h.touch sv hs hs' e
    exact ⟨congrArg Answer.touched hc, hissued, hstate⟩

theorem FlagAlike.history (h : s.FlagAlike s') (hs : s.Exclusive) (hs' : s'.Exclusive)
    (ops : List Operation) : (s.history sv ops).map Moment.forgetFlags =
      (s'.history sv (ops.map Operation.forgetFlags)).map Moment.forgetFlags := by
  induction ops generalizing s s' with
  | nil => rfl
  | cons op ops ih =>
    have hm : (s.moment sv op).FlagAlike (s'.moment sv op.forgetFlags) := h.moment hs hs' op
    have hrest := ih hm.surface (hs.perform sv op) (hs'.perform sv op.forgetFlags)
    rw [List.map_cons, Surface.history, Surface.history, List.map_cons, List.map_cons,
      hm.forgetFlags_eq]
    exact congrArg _ hrest

/-- **Passing contacts through changes who is withheld from the application, and nothing else.** Two
runs of a new surface, whose operations differ only in the flags of the controls that they add: the
answers, the requests, the recorded events and the states are the same but for flags and claims. In
each run the claims are those of the routed pointers whose control does not let them pass. -/
theorem flags_only_withhold (sv : Services) (size : SurfaceSize) (ops ops' : List Operation)
    (h : ops.map Operation.forgetFlags = ops'.map Operation.forgetFlags) :
    let ms := (empty size).history sv ops
    let ms' := (empty size).history sv ops'
    ms.map Moment.forgetFlags = ms'.map Moment.forgetFlags ∧
    (empty size).recorded sv ops = (empty size).recorded sv ops' ∧
    ∀ m ∈ ms ++ ms', ∀ p id, m.surface.claims.owner? p = some id ↔
      m.surface.route? p = some id ∧
        ∃ c ∈ m.surface.controls, c.id = id ∧ c.passThrough = false := by
  intro ms ms'
  have hs : (empty size).Exclusive := .empty size
  have halike : (empty size).FlagAlike (empty size) := ⟨rfl, rfl, .nil, rfl⟩
  have hms : ms.map Moment.forgetFlags = ms'.map Moment.forgetFlags := by
    rw [halike.history hs hs ops, halike.history hs hs ops', h]
  refine ⟨hms, ?_, ?_⟩
  · have hissued := congrArg (List.map Moment.issued) hms
    rw [List.map_map, List.map_map] at hissued
    exact recorded_congr hissued
  · intro m hm p id
    rcases List.mem_append.1 hm with hm | hm
    · exact (hs.history hm).owner?_eq_some_iff
    · exact (hs.history hm).owner?_eq_some_iff

/-- A button is added, pressed and removed. -/
def pressedAndRemoved (passThrough : Bool) : List Operation :=
  [.addControl
      { id := .ofNat 1, placement := ⟨0, 0, 1, 1⟩, passThrough, kind := .button (.key 30) false },
    .touch ⟨5, .down, ⟨10, 10⟩, 0⟩, .removeControl (.ofNat 1)]

/-- The same press with and without a claim. -/
theorem flags_only_withhold_of_pressedAndRemoved :
    let withholding := (empty ⟨100, 100⟩).history {} (pressedAndRemoved false)
    let passing := (empty ⟨100, 100⟩).history {} (pressedAndRemoved true)
    withholding.map Moment.forgetFlags = passing.map Moment.forgetFlags ∧
      withholding.map (·.surface.claims.owner? 5) = [none, some (.ofNat 1), none] ∧
      passing.map (·.surface.claims.owner? 5) = [none, none, none] :=
  ⟨(flags_only_withhold {} ⟨100, 100⟩ (pressedAndRemoved false) (pressedAndRemoved true) rfl).1,
    by decide +kernel, by decide +kernel⟩

end Surface
end TouchOverlay
