import Mathlib.Data.List.Forall2
import TouchOverlay.Proofs.HeldButton
import TouchOverlay.Proofs.HeldInputs
import TouchOverlay.Proofs.Routing
import TouchOverlay.Proofs.TimerOwnership
import TouchOverlay.Proofs.ClaimProtocol
import TouchOverlay.Proofs.Withdrawals

/-!
# Removing one control

What a control leaves behind when it is removed lies in tables that it shares with the others: the
pending timers, the claims and the routes. `Surface.without` is the surface that is left, with
everything that goes named by the control alone; so two controls can be removed in either order
(`without_comm`). That the timers named by the session are all those of the control, and the pointer
all that it has claimed, are the invariants of timers and claims.
-/

namespace TouchOverlay

/-! ## What is held down -/

namespace ActionCode

/-- Whether the action is something that is held down: a wheel notch is not. -/
def isHeldDown : ActionCode → Bool
  | key _ | mouse _ | gamepad _ | trigger _ => true
  | textInput | wheel _ | unmapped _ => false

end ActionCode

def OutputEvent.releases (a : ActionCode) : OutputEvent → Bool
  | mouse button down _ => a = .mouse button && !down
  | e => e.switches a false

/-- The input that a control holds down. -/
def Behaviour.heldInputs : Behaviour → List ActionCode
  | button b => if b.pressed && b.holdsAction then [b.action].filter ActionCode.isHeldDown else []
  | directionPad pad =>
    ((Direction.all.filter pad.held.get).map pad.actions.get).filter ActionCode.isHeldDown
  | touchpad pad => if pad.holdsLeft then [.mouse .left] else []

/-- The events release the actions, one each, in order. -/
def ReleaseEach (es : List OutputEvent) (as : List ActionCode) : Prop :=
  List.Forall₂ (fun e a => e.releases a = true) es as

section Releases
variable {sv : Services} {site : Site} {anchor : Point} {d : Desk}

theorem releaseEach_dispatch (sv : Services) (a : ActionCode) (anchor : Point) :
    ReleaseEach (sv.events [.dispatch a false anchor]) ([a].filter ActionCode.isHeldDown) := by
  have hlevel : Trigger.level false = -1 := rfl
  cases a with
  | key _ | mouse _ | gamepad _ | trigger _ =>
    refine .cons ?_ .nil
    simp [OutputEvent.releases, OutputEvent.switches, hlevel]
  | textInput | wheel _ | unmapped _ => exact .nil

theorem ReleaseEach.append {es es' : List OutputEvent} {as as' : List ActionCode}
    (h : ReleaseEach es as) (h' : ReleaseEach es' as') : ReleaseEach (es ++ es') (as ++ as') :=
  List.rel_append h h'

theorem Button.releaseEach_detach {b : Button} (hb : b.pressed = b.pointer?.isSome) :
    ReleaseEach (sv.events (b.detach site d).requests) (Behaviour.button b).heldInputs := by
  simp only [Button.detach, Behaviour.heldInputs, Button.releaseRequests]
  cases hp : b.pointer? with
  | none =>
    rw [hp] at hb
    simp only [hb, Option.isSome_none, Bool.false_and, Bool.false_eq_true, if_false]
    exact .nil
  | some p =>
    rw [hp] at hb
    simp only [hb, Option.isSome_some, Bool.true_and, if_true]
    split
    · exact releaseEach_dispatch sv b.action site.anchor
    · exact .nil

namespace DirectionPad
variable {pad : DirectionPad}

theorem releaseEach_send (pad : DirectionPad) (dirs : List Direction) :
    ReleaseEach (sv.events (dirs.filterMap (pad.send false anchor)))
      ((dirs.map pad.actions.get).filter ActionCode.isHeldDown) := by
  induction dirs with
  | nil => exact .nil
  | cons dir dirs ih =>
    have hdir : ReleaseEach (sv.events (pad.send false anchor dir).toList)
        ([pad.actions.get dir].filter ActionCode.isHeldDown) := by
      by_cases hi : (pad.actions.get dir).isDispatchable = true
      · simp only [send, hi, if_true]
        exact releaseEach_dispatch sv (pad.actions.get dir) anchor
      · -- an action that injects nothing is not held down either
        have hheld : (pad.actions.get dir).isHeldDown = false := by
          cases ha : pad.actions.get dir <;> rw [ha] at hi <;> first | rfl | exact absurd rfl hi
        simp only [send, hi, hheld, List.filter_cons, Bool.false_eq_true, if_false]
        exact .nil
    rw [filterMap_cons_toList, Services.events, List.filterMap_append, List.map_cons,
      ← List.singleton_append, List.filter_append]
    exact hdir.append ih

theorem transition_none : pad.transition .none anchor =
    (Direction.all.filter pad.held.get).filterMap (pad.send false anchor) := by
  have hnone : ∀ dir, Directions.none.get dir = false := fun dir => by cases dir <;> rfl
  simp [transition, leaving, entering, hnone]

theorem releaseEach_detach (hp : pad.pointer? = none → pad.held = .none) :
    ReleaseEach (sv.events (pad.detach site d).requests)
      (Behaviour.directionPad pad).heldInputs := by
  unfold detach
  cases hq : pad.pointer? with
  | none =>
    have hnone : Direction.all.filter pad.held.get = [] := by rw [hp hq]; rfl
    rw [Behaviour.heldInputs, hnone]
    exact .nil
  | some p =>
    simp only [release, transition_none]
    exact pad.releaseEach_send _

end DirectionPad

theorem Behaviour.releaseEach_detach {b : Behaviour} (hb : b.InHand) :
    ReleaseEach (sv.events (b.detach site d).requests) b.heldInputs := by
  cases b with
  | button b => exact Button.releaseEach_detach hb
  | directionPad pad => exact DirectionPad.releaseEach_detach hb
  | touchpad pad =>
    show ReleaseEach (sv.events (pad.detach site d).requests) _
    simp only [Touchpad.detach, heldInputs, Touchpad.holdsLeft, Bool.or_comm]
    split
    · exact .cons rfl .nil
    · exact .nil

end Releases

namespace Surface
open TimerQueue

variable {s : Surface} {c : Control} {id : ControlId}

/-! ## The surface that is left -/

/-- All that the removal of a control takes off the desk. -/
def withdrawals (s : Surface) (c : Control) : List Withdrawal :=
  c.behaviour.withdrawals (c.site s.size) ++ [.timersOf c.id]

/-- The surface after a control has been removed. -/
def without (s : Surface) (c : Control) : Surface :=
  { s with
    desk := s.desk.withdraw (s.withdrawals c)
    controls := s.controls.filter (·.id ≠ c.id)
    routes := s.routes.filter fun _ owner => owner ≠ c.id }

theorem removeControl_eq (hn : s.ids.Nodup) (hc : c ∈ s.controls) :
    s.removeControl c.id = .ok (c.config,
      { state := s.without c, issued := (c.detach s.size s.desk).issuedBy c.id }) := by
  obtain ⟨pre, post, hs⟩ := List.append_of_mem hc
  have hne := ne_of_nodup_ids hn hs
  have hpre : ∀ c' ∈ pre, c'.id ≠ c.id := fun c' hc' => hne c' (List.mem_append_left _ hc')
  have hfind : s.control? c.id = some c := by
    rw [control?, hs, List.find?_append, List.find?_eq_none.2 (by simpa using hpre)]
    simp
  have herase : s.controls.eraseP (·.id = c.id) = pre ++ post := by
    rw [hs, List.eraseP_append_right _ (by simpa using hpre)]
    simp
  have hfilter : s.controls.filter (·.id ≠ c.id) = pre ++ post := by
    have hall : (pre ++ post).filter (·.id ≠ c.id) = pre ++ post :=
      List.filter_eq_self.2 (by simpa using hne)
    rw [hs, List.filter_append, List.filter_cons_of_neg (by simp), ← List.filter_append, hall]
  have hdesk : (c.detach s.size s.desk).desk =
      s.desk.withdraw (c.behaviour.withdrawals (c.site s.size)) :=
    (Control.withdraws_detach s.size c).desk s.desk
  simp only [removeControl, hfind, herase, Surface.detach, hdesk, without, withdrawals, hfilter,
    Desk.withdraw_append]
  rfl

theorem removeControl_eq_error (hid : id ∉ s.ids) :
    s.removeControl id = .error (.unknownControl id) := by
  have hnone : s.control? id = none := List.find?_eq_none.2 fun c hc => by
    simpa using fun he => hid (mem_ids.2 ⟨c, hc, he⟩)
  simp only [removeControl, hnone]

theorem route?_without {p : PointerId} :
    (s.without c).route? p = some id ↔ s.route? p = some id ∧ id ≠ c.id := by
  show (s.routes.filter fun _ owner => owner ≠ c.id)[p]? = some id ↔ _
  rw [Std.ExtTreeMap.getElem?_filter', Option.filter_eq_some_iff, decide_eq_true_eq]
  rfl

theorem owner?_without {p : PointerId} : (s.without c).claims.owner? p = some id ↔
    s.claims.owner? p = some id ∧
      ¬ (id = c.id ∧ c.passThrough = false ∧ c.pointer? = some p) := by
  show (s.desk.withdraw (s.withdrawals c)).claims.owner? p = some id ↔ _
  rw [Desk.owner?_withdraw]
  refine and_congr_right fun _ => ?_
  simp only [withdrawals, Behaviour.withdrawals, List.mem_append, List.mem_map, Option.mem_toList,
    List.mem_singleton]
  constructor
  · rintro h ⟨rfl, hpass, hp⟩
    exact h _ (.inl (.inr ⟨p, hp, rfl⟩)) ⟨hpass, rfl, rfl⟩
  · rintro h w ((⟨_, _, rfl⟩ | ⟨q, hq, rfl⟩) | rfl)
    · trivial
    · rintro ⟨hpass, rfl, hid⟩
      exact h ⟨hid.symm, hpass, hq⟩
    · trivial

/-- The timers of the session are all that the control owns, so no other timer goes with them. -/
theorem mem_timers_without (hn : s.ids.Nodup) (hb : s.desk.timers.Balanced s.ledger)
    (hc : c ∈ s.controls) {t : ExpiredTimer} :
    t ∈ (s.without c).desk.timers ↔ t ∈ s.desk.timers ∧ t.owner ≠ c.id := by
  show t ∈ (s.desk.withdraw (s.withdrawals c)).timers ↔ _
  rw [Desk.mem_withdraw hb.wf]
  refine and_congr_right fun ht => ?_
  simp only [withdrawals, Behaviour.withdrawals, List.mem_append, List.mem_map,
    List.mem_singleton]
  constructor
  · intro h
    exact h _ (.inr rfl)
  · rintro hne w ((⟨h, hh, rfl⟩ | ⟨q, hq, rfl⟩) | rfl)
    · rintro rfl
      have ho := hb.wf.ownerOf?_of_mem ht
      rw [((holds_of_balanced hn hb hc).owner t.handle).2 hh] at ho
      exact hne (Option.some.inj ho).symm
    · trivial
    · exact hne

theorem without_comm (wf : s.desk.timers.WF) (c c' : Control) :
    (s.without c).without c' = (s.without c').without c := by
  have hdesk : ((s.without c).without c').desk = ((s.without c').without c).desk :=
    Desk.withdraw_comm wf (s.withdrawals c) (s.withdrawals c')
  have hcontrols : ((s.without c).without c').controls = ((s.without c').without c).controls := by
    simp only [without, List.filter_filter, Bool.and_comm]
  have hroutes : ((s.without c).without c').routes = ((s.without c').without c).routes := by
    refine Std.ExtTreeMap.ext_getElem? fun p => Option.ext fun id => ?_
    have h {a b : Control} : ((s.without a).without b).routes[p]? = some id ↔
        (s.route? p = some id ∧ id ≠ a.id) ∧ id ≠ b.id :=
      route?_without.trans (and_congr_left fun _ => route?_without)
    rw [h, h, and_right_comm]
  simp only [without] at hdesk hcontrols hroutes ⊢
  rw [hdesk, hcontrols, hroutes]

/-! ## In every state of a run -/

/-- `s'` is `s` but for the control with the identifier and what was its own. -/
structure OnlyLacks (s : Surface) (id : ControlId) (s' : Surface) : Prop where
  size : s'.size = s.size
  now : s'.now = s.now
  nextHandle : s'.desk.timers.nextHandle = s.desk.timers.nextHandle
  controls : s'.controls = s.controls.filter (·.id ≠ id)
  route : ∀ p i, s'.route? p = some i ↔ s.route? p = some i ∧ i ≠ id
  claim : ∀ p i, i ≠ id → (s'.claims.owner? p = some i ↔ s.claims.owner? p = some i)
  timer : ∀ t, t ∈ s'.desk.timers ↔ t ∈ s.desk.timers ∧ t.owner ≠ id

theorem onlyLacks_without (hn : s.ids.Nodup) (hb : s.desk.timers.Balanced s.ledger)
    (hc : c ∈ s.controls) : s.OnlyLacks c.id (s.without c) where
  size := rfl
  now := Desk.now_withdraw (s.withdrawals c)
  nextHandle := Desk.nextHandle_withdraw (s.withdrawals c)
  controls := rfl
  route _ _ := route?_without
  claim _ _ hne := owner?_without.trans (and_iff_left fun h => hne h.1)
  timer _ := mem_timers_without hn hb hc

theorem owner?_without_self (hs : s.NamesApart) (hc : c ∈ s.controls) (p : PointerId) :
    (s.without c).claims.owner? p ≠ some c.id := by
  intro ho
  obtain ⟨ho, hkept⟩ := owner?_without.1 ho
  obtain ⟨hpass, hp⟩ := hs c hc p ho
  exact hkept ⟨rfl, hpass, hp⟩

theorem perform_removeControl_of_mem (sv : Services) (hn : s.ids.Nodup) (hc : c ∈ s.controls) :
    ((Operation.removeControl c.id).perform sv s).state = s.without c := by
  simp only [Operation.perform, Operation.apply, removeControl_eq hn hc]
  rfl

theorem perform_removeControl_of_not_mem (sv : Services) (hid : id ∉ s.ids) :
    ((Operation.removeControl id).perform sv s).state = s := by
  simp only [Operation.perform, Operation.apply, removeControl_eq_error hid]
  rfl

theorem mem_ids_without : id ∈ (s.without c).ids ↔ id ∈ s.ids ∧ id ≠ c.id := by
  simp only [ids, without, List.mem_map, List.mem_filter, decide_eq_true_eq]
  constructor
  · rintro ⟨c', ⟨hc', hne⟩, rfl⟩
    exact ⟨⟨c', hc', rfl⟩, hne⟩
  · rintro ⟨⟨c', hc', rfl⟩, hne⟩
    exact ⟨c', ⟨hc', hne⟩, rfl⟩

theorem nodup_ids_without (hn : s.ids.Nodup) : (s.without c).ids.Nodup :=
  hn.sublist (List.filter_sublist.map _)

theorem removeControl_comm_of_not_mem (sv : Services) (hn : s.ids.Nodup) {id' : ControlId}
    (hid : id ∉ s.ids) :
    ((Operation.removeControl id').perform sv
        ((Operation.removeControl id).perform sv s).state).state =
      ((Operation.removeControl id).perform sv
        ((Operation.removeControl id').perform sv s).state).state := by
  rw [perform_removeControl_of_not_mem sv hid]
  by_cases hid' : id' ∈ s.ids
  · obtain ⟨c', hc', rfl⟩ := mem_ids.1 hid'
    rw [perform_removeControl_of_mem sv hn hc']
    exact (perform_removeControl_of_not_mem sv fun h => hid (mem_ids_without.1 h).1).symm
  · rw [perform_removeControl_of_not_mem sv hid', perform_removeControl_of_not_mem sv hid]

/-- Of two controls it does not matter which is removed first. -/
theorem removeControl_comm (sv : Services) (hn : s.ids.Nodup) (wf : s.desk.timers.WF)
    (id id' : ControlId) :
    ((Operation.removeControl id').perform sv
        ((Operation.removeControl id).perform sv s).state).state =
      ((Operation.removeControl id).perform sv
        ((Operation.removeControl id').perform sv s).state).state := by
  by_cases hid : id ∈ s.ids
  · by_cases hid' : id' ∈ s.ids
    · obtain ⟨c, hc, rfl⟩ := mem_ids.1 hid
      obtain ⟨c', hc', rfl⟩ := mem_ids.1 hid'
      by_cases he : c.id = c'.id
      · rw [he]
      · have hmem {a b : Control} (ha : a ∈ s.controls) (hne : a.id ≠ b.id) :
            a ∈ (s.without b).controls := List.mem_filter.2 ⟨ha, by simpa using hne⟩
        rw [perform_removeControl_of_mem sv hn hc, perform_removeControl_of_mem sv hn hc',
          perform_removeControl_of_mem sv (nodup_ids_without hn) (hmem hc' (Ne.symm he)),
          perform_removeControl_of_mem sv (nodup_ids_without hn) (hmem hc he)]
        exact without_comm wf c c'
    · exact (removeControl_comm_of_not_mem sv hn hid').symm
  · exact removeControl_comm_of_not_mem sv hn hid

theorem inHand_run (sv : Services) (size : SurfaceSize) (sts : List Step) :
    ∀ c ∈ (run sv sts (empty size)).state.controls, c.behaviour.InHand := by
  have hlaw : Law sv (fun _ => True) fun cs _ => ∀ c ∈ cs, c.behaviour.InHand :=
    .ofEach .ofKind fun hr hb => hr.inHand hb
  have hstart : Good (fun _ => True) (fun cs _ => ∀ c ∈ cs, c.behaviour.InHand)
      (empty size).controls [] :=
    ⟨fun _ _ => trivial, fun _ hc => absurd hc List.not_mem_nil⟩
  exact (hlaw.run sts (fun _ _ _ _ => trivial) hstart).holds

/-- **Removing a control touches nothing else**, in every state of a run in which others may work on
the claims. The description of the control is handed back. Every other control, the routes to the
others, their claims and their timers stay as they are. The control has no route and no timer then,
and no claim if nobody claims pointers in its name. Its requests are releases of the input that it
held down, one for each. Two removals give the same surface in either order. -/
theorem removal_touches_one_control (sv : Services) (size : SurfaceSize) (sts : List Step) :
    let s := (run sv sts (empty size)).state
    (∀ c ∈ s.controls, ∃ o, s.removeControl c.id = .ok (c.config, o) ∧
      s.OnlyLacks c.id o.state ∧
      (s.NamesApart → ∀ p, o.state.claims.owner? p ≠ some c.id) ∧
      (∀ i ∈ o.issued, i.control = c.id) ∧
      ReleaseEach (sv.outputs o.issued) c.behaviour.heldInputs) ∧
    (FairRun sv sts (empty size) → s.NamesApart) ∧
    ∀ id id' : ControlId,
      (run sv [.operation (.removeControl id), .operation (.removeControl id')] s).state =
        (run sv [.operation (.removeControl id'), .operation (.removeControl id)] s).state := by
  intro s
  obtain ⟨hn, hb, -⟩ := (Tidy.empty size .empty).run sv sts
  refine ⟨fun c hc => ⟨_, removeControl_eq hn hc, onlyLacks_without hn hb hc,
    fun hs => owner?_without_self hs hc, fun i hi => ?_, ?_⟩,
    fun hf => hf.protocol.namesApart, fun id id' => removeControl_comm sv hn hb.wf id id'⟩
  · obtain ⟨_, -, rfl⟩ := List.mem_map.1 hi
    rfl
  · rw [Services.outputs, map_request_issuedBy]
    exact Behaviour.releaseEach_detach (inHand_run sv size sts c hc)

/-- A finger on each of a touchpad, a direction pad and a button, and a click to be released on a
second touchpad. Somebody else has claimed the pointer 9. -/
def fourInUse : List Step :=
  [.operation (.replaceLayout
      [{ id := .ofNat 1, placement := ⟨0, 0, 0.5, 0.5⟩, kind := .touchpad true },
        { id := .ofNat 2, placement := ⟨0.5, 0, 0.5, 0.5⟩,
          kind := .directionPad ⟨.key 30, .key 31, .wheel .up, .key 33⟩ },
        { id := .ofNat 3, placement := ⟨0, 0.5, 0.5, 0.5⟩, kind := .button (.key 40) false },
        { id := .ofNat 4, placement := ⟨0.5, 0.5, 0.5, 0.5⟩, kind := .touchpad true }]),
    .foreign (.claim 9 (.ofNat 9)),
    .operation (.touch ⟨4, .down, ⟨60, 60⟩, 0⟩), .operation (.touch ⟨4, .up, ⟨60, 60⟩, 10⟩),
    .operation (.touch ⟨5, .down, ⟨10, 10⟩, 190⟩), .operation (.touch ⟨6, .down, ⟨99, 1⟩, 210⟩),
    .operation (.touch ⟨7, .down, ⟨10, 60⟩, 220⟩)]

/-- The direction pad releases its two keys when it goes, and the finger on the button stays. -/
theorem removal_touches_one_control_of_fourInUse :
    let s := (run {} fourInUse (empty ⟨100, 100⟩)).state
    s.desk.timers.pending.length = 2 ∧ ∃ o cfg, s.removeControl (.ofNat 2) = .ok (cfg, o) ∧
      s.OnlyLacks (.ofNat 2) o.state ∧ o.state.route? 7 = some (.ofNat 3) ∧
      (∀ p, o.state.claims.owner? p ≠ some (.ofNat 2)) ∧
      ReleaseEach (({} : Services).outputs o.issued) [.key 30, .key 31] := by
  intro s
  obtain ⟨hremove, hapart, -⟩ := removal_touches_one_control {} ⟨100, 100⟩ fourInUse
  have hfair : FairRun {} fourInUse (empty ⟨100, 100⟩) := fairRun_iff.2 (by decide +kernel)
  obtain ⟨c, hc, hid, hheld⟩ : ∃ c ∈ s.controls,
      c.id = .ofNat 2 ∧ c.behaviour.heldInputs = [.key 30, .key 31] := by
    decide +kernel
  obtain ⟨o, ho, hlacks, hclaim, -, hrelease⟩ := hremove c hc
  rw [hid] at ho hlacks hclaim
  rw [hheld] at hrelease
  have h7 : s.route? 7 = some (.ofNat 3) := by decide +kernel
  exact ⟨by decide +kernel, o, c.config, ho, hlacks,
    (hlacks.route 7 _).2 ⟨h7, by decide⟩, hclaim (hapart hfair), hrelease⟩

end Surface
end TouchOverlay
