import TouchOverlay.Proofs.Motion

/-!
# The left mouse button

`Request.left?` and `OutputEvent.left?` read off what a request or an event does to the left mouse
button, and `leftAfter` is what the last of some requests that concern it does. Controls that are
not touchpads stay `Silent` about it unless an action of theirs is the left button
(`Behaviour.silent_down` and its siblings).
-/

namespace TouchOverlay

/-- Whether an event presses or releases the left mouse button. -/
def OutputEvent.left? : OutputEvent → Option Bool
  | mouse .left down _ => some down
  | _ => none

/-- The last thing that events do to the left mouse button: `some true` is a press. -/
def lastLeft? (es : List OutputEvent) : Option Bool := (es.filterMap OutputEvent.left?).getLast?

def Request.left? : Request → Option Bool
  | dispatch (.mouse .left) down _ => some down
  | primary down _ => some down
  | _ => none

/-- The last thing that issued requests do to the left mouse button. -/
def leftAfter (is : List Issued) : Option Bool :=
  ((is.map (·.request)).filterMap Request.left?).getLast?

def Reaction.left? {σ : Type} (r : Reaction σ) : Option Bool :=
  (r.requests.filterMap Request.left?).getLast?

def Silent (rs : List Request) : Prop := ∀ r ∈ rs, r.left? = none

/-- Whether a control of the kind has the left mouse button as an action. -/
def ControlKind.pressesLeft : ControlKind → Bool
  | button action _ => action = .mouse .left
  | directionPad actions => .mouse .left ∈ actions.toList
  | touchpad _ => false

section Left
variable {σ τ : Type} {haptic : Option HapticPulse} {r : Request} {rs : List Request}
  {is js : List Issued} {id : ControlId} {sv : Services}

theorem left?_event? : (r.event? haptic).bind OutputEvent.left? = r.left? := by
  cases r with
  | dispatch action down anchor =>
    cases action with
    | mouse button => cases button <;> rfl
    | wheel direction => cases down <;> rfl
    | _ => rfl
  | pulse => cases haptic <;> rfl
  | _ => rfl

/-- The bridge sees what the requests say if it accepts every event. -/
theorem lastLeft?_record (h : sv.accepting = true) :
    lastLeft? (sv.recorder.record (sv.outputs is)).events = leftAfter is := by
  have hk : ∀ e, sv.recorder.keeps e = true := fun e => by
    simp [Recorder.keeps, Services.recorder, h]
  have he : (sv.recorder.record (sv.outputs is)).events = sv.outputs is :=
    List.filter_eq_self.2 fun e _ => hk e
  rw [he, lastLeft?, leftAfter, Services.outputs, Services.events, List.filterMap_filterMap]
  simp only [left?_event?]

theorem leftAfter_append : leftAfter (is ++ js) = (leftAfter js).or (leftAfter is) := by
  simp [leftAfter, List.getLast?_append]

theorem leftAfter_issuedBy (r : Reaction σ) : leftAfter (r.issuedBy id) = r.left? := by
  simp [leftAfter, Reaction.issuedBy, Reaction.left?, Function.comp_def]

theorem Silent.left? {r : Reaction σ} (h : Silent r.requests) : r.left? = none := by
  rw [Reaction.left?, List.filterMap_eq_nil_iff.2 h]
  rfl

theorem Silent.nil : Silent [] := fun _ h => absurd h List.not_mem_nil

theorem Silent.cons (hr : r.left? = none) (h : Silent rs) : Silent (r :: rs) :=
  List.forall_mem_cons.2 ⟨hr, h⟩

theorem left?_dispatch {action : ActionCode} {down : Bool} {anchor : Point}
    (h : action ≠ .mouse .left) : (Request.dispatch action down anchor).left? = none := by
  unfold Request.left?
  split
  · rename_i he
    cases he
    exact absurd rfl h
  · rename_i he
    cases he
  · rfl

end Left

/-! ## Buttons and direction pads -/

namespace Button
variable {site : Site} {p : PointerId} {b : Button} {d : Desk}

theorem silent_pressRequest {anchor : Point} (h : b.action ≠ .mouse .left) :
    (b.pressRequest anchor).left? = none := by
  unfold pressRequest
  split
  · rfl
  · exact left?_dispatch h

theorem silent_down (h : b.action ≠ .mouse .left) : Silent (b.down site p d).requests := by
  rcases b.down_cases site p d with ⟨hr, -⟩ | ⟨d', -, -, hr⟩ <;> rw [hr]
  · exact .nil
  · exact .cons rfl (.cons (silent_pressRequest h) .nil)

theorem silent_releaseRequests (h : b.action ≠ .mouse .left) : Silent (b.releaseRequests site) := by
  unfold releaseRequests
  split
  · exact .cons (left?_dispatch h) .nil
  · exact .nil

theorem silent_up (h : b.action ≠ .mouse .left) : Silent (b.up site p d).requests := by
  unfold up
  split
  · exact silent_releaseRequests h
  · exact .nil

theorem silent_resetToggle (h : b.action ≠ .mouse .left) :
    Silent (b.resetToggle site d).requests := by
  unfold resetToggle
  split
  · exact .cons (left?_dispatch h) .nil
  · exact .nil

theorem silent_detach (h : b.action ≠ .mouse .left) : Silent (b.detach site d).requests := by
  unfold detach
  split
  · show Silent (if b.pressed then b.releaseRequests site else [])
    split
    · exact silent_releaseRequests h
    · exact .nil
  · exact .nil

end Button

namespace DirectionPad
variable {site : Site} {p : PointerId} {spot anchor : Point} {pad : DirectionPad} {d : Desk}

theorem silent_transition {selected : Directions Bool} (h : .mouse .left ∉ pad.actions.toList) :
    Silent (pad.transition selected anchor) := by
  have hget : ∀ dir, pad.actions.get dir ≠ .mouse .left := fun dir he => by
    apply h
    rw [← he]
    cases dir <;> simp [Directions.get, Directions.toList]
  have hsend : ∀ down (dirs : List Direction), Silent (dirs.filterMap (pad.send down anchor)) := by
    intro down dirs r hr
    obtain ⟨dir, -, hd⟩ := List.mem_filterMap.1 hr
    unfold send at hd
    dsimp only at hd
    split at hd
    · cases hd
      exact left?_dispatch (hget dir)
    · cases hd
  exact List.forall_mem_append.2 ⟨hsend _ _, hsend _ _⟩

theorem silent_down (h : .mouse .left ∉ pad.actions.toList) :
    Silent (pad.down site p spot d).requests := by
  rcases pad.down_cases site p spot d with ⟨hr, -⟩ | ⟨d', -, -, hr⟩ <;> rw [hr]
  · exact .nil
  · exact .cons rfl (silent_transition h)

theorem silent_move (h : .mouse .left ∉ pad.actions.toList) :
    Silent (pad.move site p spot d).requests := by
  unfold move
  split
  · exact silent_transition h
  · exact .nil

theorem silent_up (h : .mouse .left ∉ pad.actions.toList) : Silent (pad.up site p d).requests := by
  unfold up
  split
  · exact silent_transition h
  · exact .nil

theorem silent_detach (h : .mouse .left ∉ pad.actions.toList) :
    Silent (pad.detach site d).requests := by
  unfold detach
  split
  · exact silent_transition h
  · exact .nil

end DirectionPad

/-! ## All kinds but touchpads -/

namespace Behaviour
variable {sv : Services} {site : Site} {p : PointerId} {spot : Point} {d : Desk} {h : TimerHandle}
  {b : Behaviour}

theorem silent_down (ht : b.kind.isTouchpad = false) (hl : b.kind.pressesLeft = false) :
    Silent (b.down sv site p spot d).requests := by
  cases b with
  | button b => exact Button.silent_down (of_decide_eq_false hl)
  | directionPad pad => exact DirectionPad.silent_down (of_decide_eq_false hl)
  | touchpad pad => cases ht

theorem silent_move (ht : b.kind.isTouchpad = false) (hl : b.kind.pressesLeft = false) :
    Silent (b.move sv site p spot d).requests := by
  cases b with
  | button b => exact .nil
  | directionPad pad => exact DirectionPad.silent_move (of_decide_eq_false hl)
  | touchpad pad => cases ht

theorem silent_up (ht : b.kind.isTouchpad = false) (hl : b.kind.pressesLeft = false) :
    Silent (b.up site p d).requests := by
  cases b with
  | button b => exact Button.silent_up (of_decide_eq_false hl)
  | directionPad pad => exact DirectionPad.silent_up (of_decide_eq_false hl)
  | touchpad pad => cases ht

theorem silent_resetToggle (hl : b.kind.pressesLeft = false) :
    Silent (b.resetToggle site d).requests := by
  cases b with
  | button b => exact Button.silent_resetToggle (of_decide_eq_false hl)
  | _ => exact .nil

theorem silent_detach (ht : b.kind.isTouchpad = false) (hl : b.kind.pressesLeft = false) :
    Silent (b.detach site d).requests := by
  cases b with
  | button b => exact Button.silent_detach (of_decide_eq_false hl)
  | directionPad pad => exact DirectionPad.silent_detach (of_decide_eq_false hl)
  | touchpad pad => cases ht

end Behaviour
end TouchOverlay
