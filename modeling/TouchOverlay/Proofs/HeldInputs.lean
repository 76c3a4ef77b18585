import Mathlib.Algebra.GroupWithZero.Nat
import Mathlib.Algebra.Ring.Int.Defs
import TouchOverlay.Proofs.Answers

/-!
# Presses and releases balance

Keys, gamepad buttons and triggers are switches: what presses them holds them until a release. A
button holds its action while it is pressed, a direction pad those of its held directions, and
several of them may hold the same one. `net` is presses minus releases. Each answer of a control
asks for as much as its holdings change by (`Behaviour.Answers.net_eq`), and so does the end of a
session, after which nothing is held.

Toggle buttons are left out, since theirs is a bit and not a pressed state.
-/

namespace TouchOverlay

/-- Whether an event is the press or the release of an action. A trigger is pressed by the value 1
and released by -1. -/
def OutputEvent.switches (a : ActionCode) (down : Bool) : OutputEvent → Bool
  | key scancode down' => a = .key scancode && down' = down
  | gamepad button down' => a = .gamepad button && down' = down
  | trigger t value => a = .trigger t && value = if down then 1 else -1
  | _ => false

/-- What a request adds to the presses less the releases of an action. -/
def Request.net (a : ActionCode) : Request → Int
  | dispatch action down _ => if action = a then if down then 1 else -1 else 0
  | _ => 0

/-- The presses of an action less its releases. -/
def net (a : ActionCode) (rs : List Request) : Int := (rs.map (Request.net a)).sum

def ActionCode.isSwitch : ActionCode → Bool
  | key _ | gamepad _ | trigger _ => true
  | _ => false

def ControlKind.isToggle : ControlKind → Bool
  | button _ isToggle => isToggle
  | _ => false

section Net
variable {a : ActionCode} {r : Request} {rs rs' : List Request}

@[simp] theorem net_nil : net a [] = 0 := rfl

@[simp] theorem net_cons : net a (r :: rs) = r.net a + net a rs := by simp [net]

@[simp] theorem net_append : net a (rs ++ rs') = net a rs + net a rs' := by simp [net]

/-- What becomes of a request counts as the request does. -/
theorem countP_event? (haptic : Option HapticPulse) (r : Request) (ha : a.isSwitch = true) :
    ((r.event? haptic).toList.countP (OutputEvent.switches a true) : Int) =
      (r.event? haptic).toList.countP (OutputEvent.switches a false) + r.net a := by
  have hlevel : Trigger.level true ≠ -1 ∧ Trigger.level false ≠ 1 := by decide +kernel
  cases r with
  | dispatch action down anchor =>
    by_cases he : action = a
    · subst he
      cases action with
      | trigger t =>
        cases down
        · simp [Request.event?, ActionCode.event?, OutputEvent.switches, Request.net, hlevel.2]; rfl
        · simp [Request.event?, ActionCode.event?, OutputEvent.switches, Request.net, hlevel.1]; rfl
      | key scancode =>
        cases down <;>
          simp [Request.event?, ActionCode.event?, OutputEvent.switches, Request.net]
      | gamepad button =>
        cases down <;>
          simp [Request.event?, ActionCode.event?, OutputEvent.switches, Request.net]
      | _ => cases ha
    · cases action with
      | wheel direction =>
        cases down <;>
          simp [Request.event?, ActionCode.event?, OutputEvent.switches, Request.net, he]
      | _ =>
        simp [Request.event?, ActionCode.event?, OutputEvent.switches, Request.net, he, Ne.symm he]
  | pulse => cases haptic <;> rfl
  | _ => rfl

theorem filterMap_cons_toList {α β : Type} (f : α → Option β) (x : α) (xs : List α) :
    (x :: xs).filterMap f = (f x).toList ++ xs.filterMap f := by
  rw [List.filterMap_cons]
  cases f x <;> rfl

theorem countP_events (sv : Services) (rs : List Request) (ha : a.isSwitch = true) :
    ((sv.events rs).countP (OutputEvent.switches a true) : Int) =
      (sv.events rs).countP (OutputEvent.switches a false) + net a rs := by
  induction rs with
  | nil => rfl
  | cons r rs ih =>
    have hr : sv.events (r :: rs) = (r.event? sv.haptic).toList ++ sv.events rs :=
      filterMap_cons_toList _ r rs
    have h := countP_event? sv.haptic r ha
    rw [hr, net_cons]
    simp only [List.countP_append, Int.natCast_add]
    omega

end Net

/-! ## Buttons -/

theorem ActionCode.isTextInput_of_isSwitch {a : ActionCode} (ha : a.isSwitch = true) :
    a.isTextInput = false := by
  cases a with
  | textInput => cases ha
  | _ => rfl

namespace Button
variable {a : ActionCode} {site : Site} {p : PointerId} {b : Button} {d : Desk}

def holds (a : ActionCode) (b : Button) : Nat := (b.pressed && b.action = a).toNat

theorem holds_of_pressed (hp : b.pressed = true) : b.holds a = if b.action = a then 1 else 0 := by
  unfold holds
  split <;> simp [*]

theorem holds_of_not_pressed (hp : b.pressed = false) : b.holds a = 0 := by simp [holds, hp]

theorem net_pressRequest {anchor : Point} (ha : a.isSwitch = true) (ht : b.isToggle = false) :
    (b.pressRequest anchor).net a = if b.action = a then 1 else 0 := by
  by_cases he : b.action = a
  · subst he
    simp [pressRequest, b.action.isTextInput_of_isSwitch ha, ht, Request.net]
  · unfold pressRequest
    split <;> simp [he, Request.net]

theorem net_releaseRequests (ha : a.isSwitch = true) (ht : b.isToggle = false) :
    net a (b.releaseRequests site) = if b.action = a then -1 else 0 := by
  by_cases he : b.action = a
  · subst he
    simp [releaseRequests, holdsAction, b.action.isTextInput_of_isSwitch ha, ht, Request.net]
  · unfold releaseRequests
    split
    · simp [he, Request.net]
    · rfl

theorem net_down (ha : a.isSwitch = true) (ht : b.isToggle = false)
    (hh : b.pressed = b.pointer?.isSome) :
    net a (b.down site p d).requests = (b.down site p d).state.holds a - b.holds a := by
  rcases b.down_cases site p d with ⟨hr, -⟩ | ⟨d', hn, -, hr⟩ <;> rw [hr]
  · simp [Reaction.ignored]
  · have hp : b.pressed = false := by rw [hh, hn]; rfl
    have hpress : ((b.press p).pressRequest site.anchor).net a = if b.action = a then 1 else 0 :=
      net_pressRequest ha ht
    rw [net_cons, net_cons, hpress, holds_of_pressed rfl, holds_of_not_pressed hp]
    show 0 + (_ + 0) = ((if b.action = a then 1 else 0 : Nat) : Int) - 0
    split <;> rfl

theorem net_lift (ha : a.isSwitch = true) (ht : b.isToggle = false) (hp : b.pressed = true) :
    net a (b.releaseRequests site) = 0 - (b.holds a : Int) := by
  rw [net_releaseRequests ha ht, holds_of_pressed hp]
  split <;> rfl

theorem net_up (ha : a.isSwitch = true) (ht : b.isToggle = false)
    (hh : b.pressed = b.pointer?.isSome) :
    net a (b.up site p d).requests = (b.up site p d).state.holds a - b.holds a := by
  by_cases hp : b.pointer? = some p
  · rw [up_of_pointer? hp, holds_of_not_pressed rfl]
    exact net_lift ha ht (by rw [hh, hp]; rfl)
  · rw [up_of_ne hp]
    simp [Reaction.ignored]

theorem resetToggle_of_not_toggle (ht : b.isToggle = false) :
    b.resetToggle site d = .ignored b d := by
  simp [resetToggle, ht]

theorem net_detach (ha : a.isSwitch = true) (ht : b.isToggle = false)
    (hh : b.pressed = b.pointer?.isSome) :
    net a (b.detach site d).requests = 0 - (b.holds a : Int) := by
  unfold detach
  cases hp : b.pointer? with
  | some p =>
    have hpressed : b.pressed = true := by rw [hh, hp]; rfl
    simp only [hpressed, if_true]
    exact net_lift ha ht hpressed
  | none => rw [holds_of_not_pressed (by rw [hh, hp]; rfl)]; rfl

end Button

/-! ## Direction pads -/

namespace DirectionPad
variable {a : ActionCode} {site : Site} {p : PointerId} {spot anchor : Point} {pad : DirectionPad}
  {d : Desk} {selected : Directions Bool}

/-- How many of some directions hold the action if they are held as given. -/
def countBound (a : ActionCode) (pad : DirectionPad) (f : Direction → Bool)
    (dirs : List Direction) : Nat :=
  dirs.countP fun dir => f dir && pad.actions.get dir = a

def holds (a : ActionCode) (pad : DirectionPad) : Nat :=
  pad.countBound a pad.held.get Direction.all

theorem net_send (ha : a.isSwitch = true) (down : Bool) (dir : Direction) :
    net a (pad.send down anchor dir).toList =
      if pad.actions.get dir = a then if down then 1 else -1 else 0 := by
  by_cases he : pad.actions.get dir = a
  · subst he
    have hi : (pad.actions.get dir).isDispatchable = true := by
      cases h : pad.actions.get dir <;> rw [h] at ha <;> first | rfl | cases ha
    simp [send, hi, Request.net]
  · unfold send
    dsimp only
    split
    · simp [he, Request.net]
    · simp only [Option.toList_none, net_nil]

/-- Sending the chosen directions counts each that is bound to the action. -/
theorem net_filterMap_send (ha : a.isSwitch = true) (down : Bool) (f : Direction → Bool)
    (dirs : List Direction) :
    net a ((dirs.filter f).filterMap (pad.send down anchor)) =
      (if down then 1 else -1) * (pad.countBound a f dirs : Int) := by
  induction dirs with
  | nil => simp [countBound]
  | cons dir dirs ih =>
    cases hf : f dir with
    | false =>
      rw [List.filter_cons_of_neg (by simp [hf]), ih]
      simp [countBound, hf]
    | true =>
      rw [List.filter_cons_of_pos hf, filterMap_cons_toList, net_append, net_send ha, ih]
      by_cases he : pad.actions.get dir = a
      · have hcount : pad.countBound a f (dir :: dirs) = pad.countBound a f dirs + 1 := by
          simp [countBound, hf, he]
        rw [if_pos he, hcount, Int.natCast_add, Int.natCast_one, Int.mul_add, Int.mul_one,
          Int.add_comm]
      · simp [countBound, hf, he]

/-- What is left and what is entered make up the difference. -/
theorem countBound_leaving (dirs : List Direction) (f g : Direction → Bool) :
    pad.countBound a (fun dir => f dir && !g dir) dirs + pad.countBound a g dirs =
      pad.countBound a (fun dir => g dir && !f dir) dirs + pad.countBound a f dirs := by
  induction dirs with
  | nil => rfl
  | cons dir dirs ih =>
    simp only [countBound, List.countP_cons] at ih ⊢
    cases f dir <;> cases g dir <;> simp <;> omega

theorem net_transition (ha : a.isSwitch = true) :
    net a (pad.transition selected anchor) =
      pad.countBound a selected.get Direction.all - pad.holds a := by
  have h := pad.countBound_leaving (a := a) Direction.all pad.held.get selected.get
  rw [transition, net_append, leaving, entering, net_filterMap_send ha, net_filterMap_send ha]
  simp only [holds]
  simp
  omega

theorem net_down (ha : a.isSwitch = true) :
    net a (pad.down site p spot d).requests = (pad.down site p spot d).state.holds a -
      pad.holds a := by
  rcases pad.down_cases site p spot d with ⟨hr, -⟩ | ⟨d', -, -, hr⟩ <;> rw [hr]
  · simp [Reaction.ignored]
  · rw [net_cons, net_transition ha]
    simp [Request.net, holds, countBound]

theorem net_move (ha : a.isSwitch = true) :
    net a (pad.move site p spot d).requests = (pad.move site p spot d).state.holds a -
      pad.holds a := by
  unfold move
  split
  · exact net_transition ha
  · simp [Reaction.ignored]

theorem holds_of_held_none (hn : pad.held = .none) : pad.holds a = 0 := by
  have hget : ∀ dir, pad.held.get dir = false := fun dir => by rw [hn]; cases dir <;> rfl
  simp [holds, countBound, hget]

theorem net_release (ha : a.isSwitch = true) :
    net a (pad.release site p d).requests = 0 - (pad.holds a : Int) := by
  have hnone : DirectionPad.holds a { pad with held := .none } = 0 := holds_of_held_none rfl
  rw [release, net_transition ha]
  exact congrArg (fun n : Nat => (n : Int) - pad.holds a) hnone

theorem net_up (ha : a.isSwitch = true) :
    net a (pad.up site p d).requests = (pad.up site p d).state.holds a - pad.holds a := by
  by_cases hp : pad.pointer? = some p
  · rw [up_of_pointer? hp, net_release ha]
    have hn : (pad.release site p d).state.holds a = 0 := holds_of_held_none rfl
    rw [hn]
    rfl
  · rw [up_of_ne hp]
    simp [Reaction.ignored]

theorem net_detach (ha : a.isSwitch = true) (hh : pad.pointer? = none → pad.held = .none) :
    net a (pad.detach site d).requests = 0 - (pad.holds a : Int) := by
  unfold detach
  cases hp : pad.pointer? with
  | some p => exact net_release ha
  | none =>
    rw [holds_of_held_none (hh hp)]
    rfl

end DirectionPad

/-! ## All kinds -/

namespace Touchpad
variable {a : ActionCode} {sv : Services} {site : Site} {p : PointerId} {spot : Point}
  {pad : Touchpad} {d : Desk} {h : TimerHandle}

theorem net_down : net a (pad.down sv site p spot d).requests = 0 := by
  rcases pad.down_cases sv site p spot d with ⟨hr, -⟩ | ⟨d', -, -, hr⟩ <;> rw [hr]
  · rfl
  · unfold beginContact
    split
    · split <;> rfl
    · rfl

theorem net_move : net a (pad.move sv site p spot d).requests = 0 := by
  unfold move
  split
  · split
    · unfold slide
      dsimp only
      split
      · split <;> rfl
      all_goals rfl
    · rfl
  · rfl

theorem net_up : net a (pad.up site p d).requests = 0 := by
  unfold up
  split
  · dsimp only
    split <;> rfl
  · rfl

theorem net_timer : net a (pad.timer sv site h d).requests = 0 := by
  by_cases hc : pad.clickTimer? = some h
  · rw [timer_of_click hc]
    rfl
  · by_cases hp : pad.phase = .pending h
    · rw [timer_of_idle hc hp]
      unfold closeWindow
      split <;> rfl
    · rw [timer_of_not_mem (not_mem_timers hc hp)]
      rfl

theorem net_detach : net a (pad.detach site d).requests = 0 := by
  simp only [detach]
  split <;> rfl

end Touchpad

namespace Behaviour
variable {a : ActionCode} {sv : Services} {site : Site} {b : Behaviour} {d : Desk}
  {r : Reaction Behaviour}

/-- The control is a button that is pressed and bound to the action. -/
def isPressedFor (a : ActionCode) : Behaviour → Bool
  | button b => b.pressed && b.action = a
  | _ => false

/-- The number of held directions that are bound to the action. -/
def heldDirections (a : ActionCode) : Behaviour → Nat
  | directionPad pad => Direction.all.countP fun dir => pad.held.get dir && pad.actions.get dir = a
  | _ => 0

/-- How often the control holds the action. -/
def holds (a : ActionCode) : Behaviour → Nat
  | button b => b.holds a
  | directionPad pad => pad.holds a
  | touchpad _ => 0

theorem holds_eq (b : Behaviour) : b.holds a = (b.isPressedFor a).toNat + b.heldDirections a := by
  cases b with
  | directionPad pad => exact (Nat.zero_add _).symm
  | _ => rfl

/-- A control without a contact holds nothing, and a button with one is pressed. -/
def InHand : Behaviour → Prop
  | button b => b.pressed = b.pointer?.isSome
  | directionPad pad => pad.pointer? = none → pad.held = .none
  | touchpad _ => True

theorem InHand.ofKind (k : ControlKind) : (ofKind k).InHand := by
  cases k with
  | touchpad _ => trivial
  | directionPad _ => exact fun _ => rfl
  | button _ _ => rfl

theorem holds_ofKind (k : ControlKind) : (ofKind k).holds a = 0 := by
  cases k with
  | directionPad actions => exact DirectionPad.holds_of_held_none rfl
  | _ => rfl

theorem Answers.inHand (h : b.Answers sv site r) (hb : b.InHand) : r.state.InHand := by
  cases b with
  | touchpad pad => cases h <;> trivial
  | button b =>
    have hb : b.pressed = b.pointer?.isSome := hb
    cases h with
    | down p spot d =>
      show (b.down site p d).state.pressed = (b.down site p d).state.pointer?.isSome
      rcases b.down_cases site p d with ⟨hr, -⟩ | ⟨d', -, -, hr⟩ <;> rw [hr]
      · exact hb
      · rfl
    | up p d =>
      show (b.up site p d).state.pressed = (b.up site p d).state.pointer?.isSome
      unfold Button.up
      split
      · rfl
      · exact hb
    | resetToggle d =>
      show (b.resetToggle site d).state.pressed = (b.resetToggle site d).state.pointer?.isSome
      unfold Button.resetToggle
      split <;> exact hb
    | _ => exact hb
  | directionPad pad =>
    have hb : pad.pointer? = none → pad.held = .none := hb
    cases h with
    | down p spot d =>
      show (pad.down site p spot d).state.pointer? = none → _
      rcases pad.down_cases site p spot d with ⟨hr, -⟩ | ⟨d', -, -, hr⟩ <;> rw [hr]
      · exact hb
      · exact nofun
    | move p spot d =>
      show (pad.move site p spot d).state.pointer? = none → _
      unfold DirectionPad.move
      split
      · rename_i hp
        exact fun hn => absurd (hp.symm.trans hn) (Option.some_ne_none p)
      · exact hb
    | up p d =>
      show (pad.up site p d).state.pointer? = none → _
      unfold DirectionPad.up
      split
      · exact fun _ => rfl
      · exact hb
    | _ => exact hb

/-- An answer asks for as much as the holdings of the control change by. -/
theorem Answers.net_eq (ha : a.isSwitch = true) (ht : b.kind.isToggle = false) (hb : b.InHand)
    (h : b.Answers sv site r) : net a r.requests = r.state.holds a - b.holds a := by
  cases b with
  | button b =>
    cases h with
    | down p spot d => exact Button.net_down ha ht hb
    | up p d => exact Button.net_up ha ht hb
    | resetToggle d =>
      show net a (b.resetToggle site d).requests = (b.resetToggle site d).state.holds a - b.holds a
      rw [Button.resetToggle_of_not_toggle ht]
      exact (Int.sub_self _).symm
    | _ => exact (Int.sub_self _).symm
  | directionPad pad =>
    cases h with
    | down p spot d => exact DirectionPad.net_down ha
    | move p spot d => exact DirectionPad.net_move ha
    | up p d => exact DirectionPad.net_up ha
    | _ => exact (Int.sub_self _).symm
  | touchpad pad =>
    cases h with
    | down p spot d => exact Touchpad.net_down
    | move p spot d => exact Touchpad.net_move
    | up p d => exact Touchpad.net_up
    | timer h d => exact Touchpad.net_timer
    | resetToggle d => rfl

/-- The end of a session releases all that the control holds. -/
theorem net_detach (ha : a.isSwitch = true) (ht : b.kind.isToggle = false) (hb : b.InHand) :
    net a (b.detach site d).requests = 0 - (b.holds a : Int) := by
  cases b with
  | button b => exact Button.net_detach ha ht hb
  | directionPad pad => exact DirectionPad.net_detach ha hb
  | touchpad pad =>
    show net a (pad.detach site d).requests = 0
    exact Touchpad.net_detach

end Behaviour

/-! ## Surfaces -/

namespace Surface
variable {a : ActionCode} {sv : Services} {cs pre post : List Control} {c : Control}
  {is out : List Issued} {size : SurfaceSize}

/-- How often some controls hold the action. -/
def held (a : ActionCode) (cs : List Control) : Nat := (cs.map (·.behaviour.holds a)).sum

theorem held_middle : held a (pre ++ c :: post) = c.behaviour.holds a + held a (pre ++ post) := by
  simp only [held, List.map_append, List.map_cons, List.sum_append, List.sum_cons]
  omega

theorem held_eq : held a cs = cs.countP (·.behaviour.isPressedFor a) +
    (cs.map (·.behaviour.heldDirections a)).sum := by
  induction cs with
  | nil => rfl
  | cons c cs ih =>
    have hc := c.behaviour.holds_eq (a := a)
    have hi : held a (c :: cs) = c.behaviour.holds a + held a cs := by simp [held]
    rw [hi, hc, ih, List.countP_cons, List.map_cons, List.sum_cons]
    cases c.behaviour.isPressedFor a <;> simp <;> omega

/-- The controls hold what has been pressed and not released. -/
structure Reconciled (a : ActionCode) (cs : List Control) (out : List Issued) : Prop where
  inHand : ∀ c ∈ cs, c.behaviour.InHand
  net : net a (out.map (·.request)) = held a cs

theorem net_issuedBy {σ : Type} {r : Reaction σ} {id : ControlId} :
    net a ((out ++ r.issuedBy id).map (·.request)) =
      net a (out.map (·.request)) + net a r.requests := by
  rw [List.map_append, net_append]
  simp [Reaction.issuedBy, Function.comp_def]

theorem law_reconciled (sv : Services) (ha : a.isSwitch = true) :
    Law sv (·.isToggle = false) (Reconciled a) where
  answer {size pre post c r out} ht hr hp := by
    have hc := hp.inHand c (by simp)
    refine ⟨fun c' hc' => ?_, ?_⟩
    · rcases mem_middle_iff.1 hc' with rfl | hc'
      · exact hr.inHand hc
      · exact hp.inHand c' (mem_middle_iff.2 (.inr hc'))
    · have hnet : net a (c.react r).requests = r.state.holds a - c.behaviour.holds a :=
        hr.net_eq ha ht hc
      have hout := hp.net
      rw [held_middle] at hout
      rw [net_issuedBy, hnet, hout, held_middle]
      show _ = ((r.state.holds a + held a (pre ++ post) : Nat) : Int)
      omega
  detach {size pre post c d out} ht hp := by
    refine ⟨fun c' hc' => hp.inHand c' (mem_middle_iff.2 (.inr hc')), ?_⟩
    have hnet : net a (c.detach size d).requests = 0 - (c.behaviour.holds a : Int) :=
      Behaviour.net_detach ha ht (hp.inHand c (by simp))
    have hout := hp.net
    rw [held_middle] at hout
    rw [net_issuedBy, hnet, hout]
    omega
  mount {size cs cfg out} _ hp := by
    refine ⟨fun c' hc' => ?_, ?_⟩
    · rcases List.mem_append.1 hc' with hc' | hc'
      · exact hp.inHand c' hc'
      · rw [List.mem_singleton.1 hc']
        exact .ofKind cfg.kind
    · have hheld : held a (cs ++ [.mount size cfg]) = held a cs := by
        simp [held, Control.mount, Behaviour.holds_ofKind]
      rw [hheld, hp.net]

/-- **Presses and releases balance.** Without toggle buttons, the presses of a key, gamepad button
or trigger that are still to be released are one for each pressed button bound to it and one for
each held direction bound to it. A button is pressed just while it has a contact. -/
theorem presses_balance_releases (sv : Services) (hacc : sv.accepting = true)
    (size : SurfaceSize) (cl : Claims) (sts : List Step)
    (hq : ∀ op, .operation op ∈ sts → ∀ cfg ∈ op.added, cfg.kind.isToggle = false) :
    let o := Surface.run sv sts ((empty size).withClaims cl)
    let events := (sv.recorder.record (sv.outputs o.issued)).events
    (∀ a : ActionCode, a.isSwitch = true →
      (events.countP (OutputEvent.switches a true) : Int) -
          events.countP (OutputEvent.switches a false) =
        o.state.controls.countP (·.behaviour.isPressedFor a) +
          (o.state.controls.map (·.behaviour.heldDirections a)).sum) ∧
    ∀ c ∈ o.state.controls, ∀ b, c.behaviour = .button b →
      (b.pressed = true ↔ b.pointer? ≠ none) := by
  intro o events
  have hlaw {a : ActionCode} (ha : a.isSwitch = true) : Reconciled a o.state.controls o.issued := by
    have hstart : Good (·.isToggle = false) (Reconciled a)
        ((empty size).withClaims cl).controls [] :=
      ⟨fun _ hc => absurd hc List.not_mem_nil, fun _ hc => absurd hc List.not_mem_nil, rfl⟩
    exact ((law_reconciled sv ha).run sts hq hstart).holds
  have hevents : events = sv.events (o.issued.map (·.request)) := by
    refine List.filter_eq_self.2 fun e _ => ?_
    simp [Recorder.keeps, Services.recorder, hacc]
  refine ⟨fun a ha => ?_, fun c hc b hb => ?_⟩
  · have hcount := countP_events sv (o.issued.map (·.request)) ha
    rw [(hlaw ha).net, held_eq] at hcount
    rw [hevents, hcount]
    omega
  · have hb' := (hlaw (a := .key 0) rfl).inHand c hc
    rw [hb] at hb'
    have hb' : b.pressed = b.pointer?.isSome := hb'
    rw [hb', ← Option.isSome_iff_ne_none]

/-- A button and two directions of a pad share a key. All three are pressed, and then the button is
taken away with the contact on it. -/
def sharedKey : List Step :=
  [.operation (.replaceLayout
      [{ id := .ofNat 1, placement := ⟨0, 0, 0.5, 1⟩, kind := .button (.key 30) false },
        { id := .ofNat 2, placement := ⟨0.5, 0, 0.5, 1⟩,
          kind := .directionPad ⟨.key 30, .key 31, .key 32, .key 30⟩ }]),
    .operation (.touch ⟨5, .down, ⟨10, 10⟩, 0⟩), .operation (.touch ⟨6, .down, ⟨52, 2⟩, 10⟩),
    .operation (.removeControl (.ofNat 1))]

/-- The key has been pressed three times and released once. -/
theorem presses_balance_releases_of_sharedKey :
    (∀ op, .operation op ∈ sharedKey → ∀ cfg ∈ op.added, cfg.kind.isToggle = false) ∧
      let o := Surface.run {} sharedKey ((empty ⟨100, 100⟩).withClaims .empty)
      let events := (({} : Services).recorder.record (({} : Services).outputs o.issued)).events
      events.countP (OutputEvent.switches (.key 30) true) = 3 ∧
        (events.countP (OutputEvent.switches (.key 30) true) : Int) -
          events.countP (OutputEvent.switches (.key 30) false) = 2 := by
  have hq : ∀ op, .operation op ∈ sharedKey → ∀ cfg ∈ op.added, cfg.kind.isToggle = false := by
    simp [sharedKey, Operation.added, ControlKind.isToggle]
  refine ⟨hq, ?_⟩
  intro o events
  have hpress : events.countP (OutputEvent.switches (.key 30) true) = 3 := by decide +kernel
  have hheld : (o.state.controls.countP (·.behaviour.isPressedFor (.key 30)) : Int) +
      (o.state.controls.map (·.behaviour.heldDirections (.key 30))).sum = 2 := by decide +kernel
  have h := (presses_balance_releases {} rfl ⟨100, 100⟩ .empty sharedKey hq).1 (.key 30) rfl
  exact ⟨hpress, h.trans hheld⟩

end Surface
end TouchOverlay
