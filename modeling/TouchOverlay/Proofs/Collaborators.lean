import TouchOverlay.Proofs.History

/-!
# Output has no say

The haptics and the bridge come after the controls: what a control does depends on the tuning and on
the density, and on nothing else of the services. Whoever takes the output away takes away events,
and nothing but events.
-/

namespace TouchOverlay

def OutputEvent.isVibration : OutputEvent → Bool
  | vibrate _ _ => true
  | _ => false

/-! ## Requests without haptics -/

theorem Request.event?_none (r : Request) (pulse : HapticPulse) :
    r.event? none = (r.event? (some pulse)).filter (!·.isVibration) := by
  cases r with
  | dispatch action down anchor =>
    cases action <;> cases down <;> rfl
  | _ => rfl

/-! ## The core -/

/-- The same services, but for haptics and bridge. -/
def Services.withOutput (sv : Services) (haptic : Option HapticPulse) (accepting : Bool) : Services :=
  { sv with haptic, accepting }

section
variable {sv : Services} {haptic : Option HapticPulse} {accepting : Bool}

theorem Touchpad.down_withOutput : down (sv.withOutput haptic accepting) = down sv := rfl

theorem Touchpad.move_withOutput : move (sv.withOutput haptic accepting) = move sv := rfl

theorem Touchpad.timer_withOutput : timer (sv.withOutput haptic accepting) = timer sv := rfl

theorem Control.down_withOutput : down (sv.withOutput haptic accepting) = down sv := by
  funext size p c d spot
  simp only [Control.down, Behaviour.down, Touchpad.down_withOutput]

theorem Control.move_withOutput : move (sv.withOutput haptic accepting) = move sv := by
  funext size p c d spot
  simp only [Control.move, Behaviour.move, Touchpad.move_withOutput]

theorem Control.timer_withOutput : timer (sv.withOutput haptic accepting) = timer sv := by
  funext size c d h
  simp only [Control.timer, Behaviour.timer, Touchpad.timer_withOutput]

namespace Surface
variable {s : Surface} {now : Millis} {e : TouchEvent} {op : Operation}

theorem deliverDue_withOutput (limit : Nat) :
    deliverDue (sv.withOutput haptic accepting) now limit s = deliverDue sv now limit s := by
  induction limit generalizing s with
  | zero => rfl
  | succ limit ih =>
    rw [deliverDue, deliverDue]
    cases s.popExpired? now with
    | none => rfl
    | some x => simp only [deliver, Control.timer_withOutput, ih]

theorem advance_withOutput :
    s.advance (sv.withOutput haptic accepting) now = s.advance sv now := by
  rw [advance, advance, deliverDue_withOutput]

theorem offer_withOutput {size : SurfaceSize} {p : PointerId} {spot : Point} {d : Desk}
    (cs : List Control) :
    offer (sv.withOutput haptic accepting) size p spot d cs = offer sv size p spot d cs := by
  induction cs with
  | nil => rfl
  | cons c cs ih => simp only [offer, ih, Control.down_withOutput]

theorem touch_withOutput : s.touch (sv.withOutput haptic accepting) e = s.touch sv e := by
  have hroute (s : Surface) : s.route (sv.withOutput haptic accepting) e = s.route sv e := by
    simp only [Surface.route, touchDown, touchMove, offer_withOutput, Control.move_withOutput]
  simp only [touch, advance_withOutput, hroute]

theorem moment_withOutput : s.moment (sv.withOutput haptic accepting) op = s.moment sv op := by
  cases op with
  | advance now =>
    simp only [moment, Operation.answer, Operation.perform, Operation.apply, advance_withOutput]
  | touch e =>
    simp only [moment, Operation.answer, Operation.perform, Operation.apply, touch_withOutput]
  | _ => rfl

theorem history_withOutput (ops : List Operation) (s : Surface) :
    s.history (sv.withOutput haptic accepting) ops = s.history sv ops := by
  induction ops generalizing s with
  | nil => rfl
  | cons op ops ih =>
    have hm : s.moment (sv.withOutput haptic accepting) op = s.moment sv op := moment_withOutput
    have hs : (op.perform (sv.withOutput haptic accepting) s).state = (op.perform sv s).state :=
      congrArg Moment.surface hm
    rw [history, history, hm, hs, ih]

end Surface
end

/-! ## What is recorded -/

theorem Services.outputs_none (sv : Services) (pulse : HapticPulse) (is : List Issued) :
    ({ sv with haptic := none } : Services).outputs is =
      (({ sv with haptic := some pulse } : Services).outputs is).filter (!·.isVibration) := by
  simp only [outputs, events, List.filter_filterMap]
  exact congrArg (List.filterMap · _) (funext fun r => r.event?_none pulse)

namespace Surface

/-- **Output has no say.** Whether haptics are on and whether the bridge takes what it is given, the
answer of every operation, its requests and the whole state that it leaves are the same. A bridge
that fails records what a working one records, without the injected input. Without haptics the
record is the same, without the vibrations. -/
theorem output_has_no_say (sv : Services) (ops : List Operation) (s : Surface) :
    (∀ haptic accepting, s.history { sv with haptic, accepting } ops = s.history sv ops) ∧
    s.recorded { sv with accepting := false } ops =
      (s.recorded { sv with accepting := true } ops).filter (!·.isInput) ∧
    ∀ pulse, s.recorded { sv with haptic := none } ops =
      (s.recorded { sv with haptic := some pulse } ops).filter (!·.isVibration) := by
  have hh : ∀ haptic accepting, s.history { sv with haptic, accepting } ops = s.history sv ops :=
    fun haptic accepting => history_withOutput ops s
  refine ⟨hh, ?_, ?_⟩
  · rw [recorded_eq, recorded_eq, hh sv.haptic false, hh sv.haptic true, List.filter_filter]
    refine List.filter_congr fun e _ => ?_
    simp [Recorder.keeps, Services.recorder]
  · intro pulse
    rw [recorded_eq, recorded_eq, hh none sv.accepting, hh (some pulse) sv.accepting,
      Services.outputs_none sv pulse, List.filter_filter, List.filter_filter]
    refine List.filter_congr fun e _ => ?_
    exact Bool.and_comm _ _

end Surface
end TouchOverlay
