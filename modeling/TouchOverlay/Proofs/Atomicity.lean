import Mathlib.Data.List.Induction
import TouchOverlay.Proofs.Exclusive
import TouchOverlay.Surface.Attempt

/-!
# Changes of the layout happen as a whole or not at all

Performed in place, check by check and change by change (`Surface.attempt`), a change that is refused
half way would show in what is `left`. None does, because the validation of a new layout finds
whatever mounting it would refuse (`mountEach_of_valid`), and so an attempt agrees with the operation
that it performs (`attempt_eq`).

After the old controls are gone nothing of their sessions is left: routes, timers and claims all
belong to controls, by the invariants of `Exclusive`.
-/

namespace TouchOverlay

/-! ## Faults -/

/-- A control that a layout cannot have after those before it. -/
def ControlConfig.Faulty (before : List ControlConfig) (c : ControlConfig) : Prop :=
  c.id ∈ before.map (·.id) ∨ c.placement.isValid = false

/-- Why the control cannot be there. That its identifier is taken comes first. -/
def ControlConfig.fault (before : List ControlConfig) (c : ControlConfig) : LayoutError :=
  if c.id ∈ before.map (·.id) then .duplicateControl c.id else .invalidPlacement c.id

def Faultless (cs : List ControlConfig) : Prop :=
  ∀ pre c post, cs = pre ++ c :: post → ¬ c.Faulty pre

variable {cs : List ControlConfig} {c : ControlConfig} {e : LayoutError}

theorem Faultless.nil : Faultless [] := by
  intro pre c post h
  simp at h

theorem faultless_concat_iff : Faultless (cs ++ [c]) ↔ Faultless cs ∧ ¬ c.Faulty cs := by
  constructor
  · intro h
    refine ⟨fun pre d post he => h pre d (post ++ [c]) (by simp [he]), h cs c [] rfl⟩
  · rintro ⟨hcs, hc⟩ pre d post he
    rcases List.eq_nil_or_concat post with rfl | ⟨post, x, rfl⟩
    · obtain ⟨rfl, hd⟩ := List.append_inj' he rfl
      rw [← List.singleton_inj.1 hd]
      exact hc
    · rw [List.concat_eq_append, ← List.cons_append, ← List.append_assoc] at he
      exact hcs pre d post (List.append_inj' he rfl).1

namespace Surface

theorem firstFault?_append (seen : List ControlId) (pre post : List ControlConfig) :
    firstFault? seen (pre ++ post) = (firstFault? seen pre).or
      (firstFault? ((pre.map (·.id)).reverse ++ seen) post) := by
  induction pre generalizing seen with
  | nil => simp [firstFault?]
  | cons d pre ih =>
    rw [List.cons_append, firstFault?, firstFault?]
    split
    · rfl
    · split
      · rw [ih]
        simp
      · rfl

theorem firstFault?_of_faulty {before : List ControlConfig} (hc : c.Faulty before)
    (post : List ControlConfig) :
    firstFault? ((before.map (·.id)).reverse ++ []) (c :: post) = some (c.fault before) := by
  unfold ControlConfig.fault
  simp only [firstFault?, List.append_nil, List.mem_reverse]
  by_cases hid : c.id ∈ before.map (·.id)
  · rw [if_pos hid, if_pos hid]
  · have hv : c.placement.isValid = false := hc.resolve_left hid
    rw [if_neg hid, if_neg hid, hv, if_neg Bool.false_ne_true]

/-- The validation gives the first fault, if there is one. -/
theorem firstFault?_spec (cs : List ControlConfig) :
    (firstFault? [] cs = none ∧ Faultless cs) ∨
      ∃ pre c post, cs = pre ++ c :: post ∧ Faultless pre ∧ c.Faulty pre ∧
        firstFault? [] cs = some (c.fault pre) := by
  induction cs using List.reverseRecOn with
  | nil => exact .inl ⟨rfl, .nil⟩
  | append_singleton cs c ih =>
    -- the last control is looked at if those before it have no fault
    rw [firstFault?_append]
    rcases ih with ⟨hnone, hcs⟩ | ⟨pre, d, post, rfl, hpre, hd, hsome⟩
    · rw [hnone, Option.none_or]
      by_cases hc : c.Faulty cs
      · exact .inr ⟨cs, c, [], rfl, hcs, hc, firstFault?_of_faulty hc []⟩
      · obtain ⟨hid, hv⟩ := not_or.1 hc
        refine .inl ⟨?_, faultless_concat_iff.2 ⟨hcs, hc⟩⟩
        simp only [firstFault?, List.append_nil, List.mem_reverse]
        rw [if_neg hid, if_pos (Bool.of_not_eq_false hv)]
    · rw [hsome, Option.some_or]
      exact .inr ⟨pre, d, post ++ [c], by simp, hpre, hd, rfl⟩

theorem firstFault?_eq_none_iff : firstFault? [] cs = none ↔ Faultless cs := by
  constructor
  · intro h
    rcases firstFault?_spec cs with ⟨-, hcs⟩ | ⟨_, _, _, _, _, _, hsome⟩
    · exact hcs
    · rw [h] at hsome
      cases hsome
  · intro h
    rcases firstFault?_spec cs with ⟨hnone, -⟩ | ⟨pre, c, post, hcs, -, hc, -⟩
    · exact hnone
    · exact absurd hc (h pre c post hcs)

theorem firstFault?_eq_some_iff : firstFault? [] cs = some e ↔
    ∃ pre c post, cs = pre ++ c :: post ∧ Faultless pre ∧ c.Faulty pre ∧ e = c.fault pre := by
  constructor
  · intro h
    rcases firstFault?_spec cs with ⟨hnone, -⟩ | ⟨pre, c, post, hcs, hpre, hc, hsome⟩
    · rw [h] at hnone
      cases hnone
    · rw [h] at hsome
      exact ⟨pre, c, post, hcs, hpre, hc, Option.some.inj hsome⟩
  · rintro ⟨pre, c, post, rfl, hpre, hc, rfl⟩
    rw [firstFault?_append, firstFault?_eq_none_iff.2 hpre, Option.none_or,
      firstFault?_of_faulty hc]

end Surface

/-! ## In place -/

/-- The operation that performs a change. -/
def LayoutChange.operation : LayoutChange → Operation
  | add c => .addControl c
  | remove id => .removeControl id
  | replace cs => .replaceLayout cs

namespace Surface
variable {sv : Services} {s : Surface} {q : TimerQueue}

theorem mountEach_of_valid (hv : ∀ c ∈ cs, c.placement.isValid = true) (s : Surface) :
    mountEach cs s = { left := { state := s.mountAll cs } } := by
  induction cs generalizing s with
  | nil => rfl
  | cons c cs ih =>
    have hc : s.tryMount c = { left := { state := s.mount c } } := if_pos (hv c List.mem_cons_self)
    rw [mountEach, hc, Attempt.andThen]
    simp only [ih (fun d hd => hv d (List.mem_cons_of_mem _ hd))]
    rfl

theorem attempt_replace (hf : firstFault? [] cs = none) :
    s.attempt (.replace cs) =
      { left := { state := s.detachAll.state.mountAll cs, issued := s.detachAll.issued } } := by
  have hv : ∀ c ∈ cs, c.placement.isValid = true := fun c hc => ((firstFault?_eq_none hf).2 c hc).2
  simp only [attempt, hf, Attempt.andThen, mountEach_of_valid hv, List.append_nil]

/-- An attempt in place is the operation: what that leaves, or its refusal and nothing else. -/
theorem attempt_eq (sv : Services) (s : Surface) (ch : LayoutChange) :
    s.attempt ch = match ch.operation.apply sv s with
      | .ok o => { left := o }
      | .error e => .refuse e s := by
  cases ch with
  | add c =>
    simp only [attempt, LayoutChange.operation, Operation.apply, addControl, tryMount]
    split
    · rfl
    · split <;> rfl
  | remove id =>
    simp only [attempt, LayoutChange.operation, Operation.apply, removeControl]
    cases s.control? id <;> rfl
  | replace cs =>
    simp only [LayoutChange.operation, Operation.apply, replaceLayout]
    cases hf : firstFault? [] cs with
    | some e => simp only [attempt, hf]
    | none => rw [attempt_replace hf]

theorem refusal?_replace (s : Surface) (cs : List ControlConfig) :
    (s.attempt (.replace cs)).refusal? = firstFault? [] cs := by
  cases hf : firstFault? [] cs with
  | some e => simp only [attempt, hf, Attempt.refuse]
  | none => rw [attempt_replace hf]

end Surface

/-! ## A clean slate -/

/-- A queue that has a timer for nobody has no timer. -/
theorem TimerQueue.Balanced.tables_eq_empty {q : TimerQueue} (hb : q.Balanced []) :
    q.byDeadline = ∅ ∧ q.deadlines = ∅ := by
  have hnone : ∀ d, d ∉ q.byDeadline := by
    intro d hd
    obtain ⟨o, ho⟩ := mem_byDeadline_iff.1 hd
    obtain ⟨e, he, -⟩ := (hb.owner d.handle o).1 (hb.wf.ownerOf?_eq_some_iff.2 ⟨d.deadline, ho⟩)
    exact absurd he List.not_mem_nil
  refine ⟨Std.ExtTreeMap.eq_empty_iff_forall_not_mem.2 hnone, ?_⟩
  refine Std.ExtTreeMap.ext_getElem? fun h => ?_
  rw [Std.ExtTreeMap.getElem?_empty, Option.eq_none_iff_forall_ne_some]
  intro t ht
  exact hnone ⟨t, h⟩ ((hb.wf.agree ⟨t, h⟩).2 ht)

namespace Surface
variable {sv : Services} {s : Surface}

/-- A surface without controls has no routes, no timers and no claims. -/
theorem Exclusive.eq_empty (hs : s.Exclusive) (hc : s.controls = []) :
    s = (Surface.empty s.size).withTimers
      { now := s.now, nextHandle := s.desk.timers.nextHandle } := by
  -- timers, routes and claims each name a control, and there is none
  have hb : s.desk.timers.Balanced [] := by
    have hb := hs.tidy.balanced
    rwa [ledger, hc, List.map_nil] at hb
  have hroute : ∀ p, s.route? p = none := by
    intro p
    refine hs.route?_eq_none fun c hm => ?_
    rw [hc] at hm
    exact absurd hm List.not_mem_nil
  have hroutes : s.routes = ∅ := Std.ExtTreeMap.ext_getElem? fun p => by
    rw [Std.ExtTreeMap.getElem?_empty]
    exact hroute p
  have hclaims : s.desk.claims = .empty := Claims.ext_owner fun p => by
    rw [Claims.owner?_empty]
    exact hs.owner?_eq_none (hroute p)
  obtain ⟨hdue, hhandles⟩ := hb.tables_eq_empty
  obtain ⟨size, ⟨claims, now, nextHandle, byDeadline, deadlines⟩, controls, routes⟩ := s
  cases hc
  cases hroutes
  cases hclaims
  cases hdue
  cases hhandles
  rfl

/-- Without its controls a surface is as good as new, but for the clock and the handles. -/
theorem Exclusive.detachAll_eq (hs : s.Exclusive) : ∃ now nextHandle,
    s.detachAll.state = (Surface.empty s.size).withTimers { now, nextHandle } := by
  have hgone : s.detachAll.state.Exclusive := hs.perform {} (.replaceLayout [])
  have heq := hgone.eq_empty controls_detachAll
  rw [size_detachAll] at heq
  exact ⟨_, _, heq⟩

theorem perform_addControl_of_valid (sv : Services) (hne : ∀ c' ∈ s.controls, c'.id ≠ c.id)
    (hv : c.placement.isValid = true) :
    (Operation.addControl c).perform sv s = { state := s.mount c } := by
  have hd : ¬ s.controls.any (·.id = c.id) = true := by simpa using hne
  simp only [Operation.perform, Operation.apply, addControl]
  rw [if_neg hd, if_pos hv]
  rfl

/-- Adding the controls of a layout without faults one at a time mounts all of them. -/
theorem run_addControl (sv : Services) (hn : (cs.map (·.id)).Nodup)
    (hc : ∀ c ∈ cs, c.placement.isValid = true ∧ ∀ c' ∈ s.controls, c'.id ≠ c.id) :
    run sv ((cs.map Operation.addControl).map .operation) s = { state := s.mountAll cs } := by
  induction cs generalizing s with
  | nil => rfl
  | cons c cs ih =>
    obtain ⟨hv, hne⟩ := hc c List.mem_cons_self
    obtain ⟨hnew, hn⟩ := List.nodup_cons.1 hn
    have hrest := ih (s := s.mount c) hn fun d hd => by
      refine ⟨(hc d (List.mem_cons_of_mem c hd)).1, fun c' hc' => ?_⟩
      rcases List.mem_append.1 hc' with hc' | hc'
      · exact (hc d (List.mem_cons_of_mem c hd)).2 c' hc'
      · rw [List.mem_singleton.1 hc']
        exact fun he => hnew (List.mem_map.2 ⟨d, hd, he.symm⟩)
    rw [List.map_cons, List.map_cons, run, step, perform_addControl_of_valid sv hne hv, hrest]
    rfl

/-- **Changes of the layout happen as a whole or not at all.** Performed in place, a change that is
refused leaves the surface as it was and asks for nothing, and one that is not leaves what the
operation does. A new layout is refused just if one of its controls has an identifier from before it
or a placement without extent, and the refusal is about the first such control, its identifier
first. Mounting a layout that has passed never refuses. On a surface that nobody else works on it
leaves what adding the controls one by one to a new surface does, with every session in its initial
state and no route, claim or timer, apart from the clock and the next handle. -/
theorem layout_changes_whole_or_not (sv : Services) :
    (∀ (s : Surface) (ch : LayoutChange),
      (∀ e, (s.attempt ch).refusal? = some e →
        (s.attempt ch).left = { state := s } ∧ ch.operation.apply sv s = .error e) ∧
      ((s.attempt ch).refusal? = none → ch.operation.apply sv s = .ok (s.attempt ch).left)) ∧
    (∀ (s : Surface) (cs : List ControlConfig),
      ((s.attempt (.replace cs)).refusal? ≠ none ↔
        ∃ pre c post, cs = pre ++ c :: post ∧ c.Faulty pre) ∧
      (∀ e, (s.attempt (.replace cs)).refusal? = some e ↔
        ∃ pre c post, cs = pre ++ c :: post ∧ Faultless pre ∧ c.Faulty pre ∧ e = c.fault pre) ∧
      (firstFault? [] cs = none → (mountEach cs s.detachAll.state).refusal? = none)) ∧
    ∀ (size : SurfaceSize) (ops : List Operation) (cs : List ControlConfig),
      let s := (run sv (ops.map .operation) (empty size)).state
      (s.attempt (.replace cs)).refusal? = none →
        let new := (run sv ((cs.map Operation.addControl).map .operation) (empty s.size)).state
        new = { empty s.size with controls := cs.map (Control.mount s.size) } ∧
          ∃ now nextHandle,
            (s.attempt (.replace cs)).left.state = new.withTimers { now, nextHandle } := by
  refine ⟨fun s ch => ?_, fun s cs => ⟨?_, fun e => ?_, fun hf => ?_⟩, fun size ops cs => ?_⟩
  · rw [attempt_eq sv s ch]
    cases ch.operation.apply sv s with
    | ok o => exact ⟨fun _ h => (Option.some_ne_none _ h.symm).elim, fun _ => rfl⟩
    | error e =>
      refine ⟨fun e' h => ⟨rfl, ?_⟩, fun h => (Option.some_ne_none _ h).elim⟩
      exact congrArg Except.error (Option.some.inj h)
  · rw [refusal?_replace, Ne, firstFault?_eq_none_iff, Faultless]
    simp only [not_forall, not_not, exists_prop]
  · rw [refusal?_replace]
    exact firstFault?_eq_some_iff
  · rw [mountEach_of_valid fun c hc => ((firstFault?_eq_none hf).2 c hc).2]
  · intro s hf new
    rw [refusal?_replace] at hf
    obtain ⟨hn, hv⟩ := firstFault?_eq_none hf
    have hnew : new = (empty s.size).mountAll cs := by
      have hadd := run_addControl sv (s := empty s.size) hn fun c hc =>
        ⟨(hv c hc).2, fun c' hc' => absurd hc' List.not_mem_nil⟩
      exact congrArg Outcome.state hadd
    have hs : s.Exclusive := (Exclusive.empty size).run sv ops
    obtain ⟨now, nextHandle, hgone⟩ := hs.detachAll_eq
    refine ⟨by rw [hnew, mountAll_eq]; rfl, now, nextHandle, ?_⟩
    rw [attempt_replace hf, hgone, hnew, mountAll_eq, mountAll_eq]
    rfl

/-- A button that is on the surface, and one without extent. -/
def plainButton : ControlConfig :=
  { id := .ofNat 1, placement := ⟨0, 0, 1, 1⟩, kind := .button (.key 30) false }

def flatButton : ControlConfig := { plainButton with placement := ⟨0, 0, 1, 0⟩ }

def holding : List Operation := [.addControl plainButton, .touch ⟨5, .down, ⟨10, 10⟩, 0⟩]

/-- While the button is pressed, a layout with a second button of its identifier is refused for
that, although the second one has no extent either, and the press goes on. A layout with the button
alone begins anew. -/
theorem layout_changes_whole_or_not_of_holding :
    let s := (run {} (holding.map .operation) (empty ⟨100, 100⟩)).state
    let refused := s.attempt (.replace [plainButton, flatButton])
    (s.route? 5 = some plainButton.id ∧
      refused.refusal? = some (.duplicateControl plainButton.id) ∧ refused.left = { state := s }) ∧
    let taken := s.attempt (.replace [plainButton])
    taken.refusal? = none ∧
      ∃ now nextHandle, taken.left.state =
        ((empty ⟨100, 100⟩).mount plainButton).withTimers { now, nextHandle } := by
  intro s refused
  obtain ⟨hwhole, -, hnew⟩ := layout_changes_whole_or_not {}
  have hrefused : refused.refusal? = some (.duplicateControl plainButton.id) := by decide +kernel
  have htaken : (s.attempt (.replace [plainButton])).refusal? = none := by decide +kernel
  obtain ⟨hsession, now, nextHandle, hstate⟩ := hnew ⟨100, 100⟩ holding [plainButton] htaken
  refine ⟨⟨by decide +kernel, hrefused, ((hwhole s _).1 _ hrefused).1⟩, htaken, now, nextHandle, ?_⟩
  rw [hstate, hsession]
  rfl

end Surface
end TouchOverlay
