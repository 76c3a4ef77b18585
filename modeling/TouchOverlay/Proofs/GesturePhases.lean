import Mathlib.Tactic.ByContra
import TouchOverlay.Proofs.Drags
import TouchOverlay.Proofs.Quiescence

/-!
# The phase of a gesture fits the contact

A touchpad keeps its phase and its contact apart. Only an open idle window may be there with a
contact and without one; an idle touchpad has none, and a drag has one (`Touchpad.PhaseFits`). Every
call keeps to that, whatever others do with the claims and the timers between the calls, so a press
that is taken meets no drag, and a contact that moves or lifts meets no idle touchpad.
-/

namespace TouchOverlay

namespace Phase
variable {phase : Phase}

/-- A drag, with the button down or without it. -/
def isDrag (phase : Phase) : Bool := phase.isDoubleClick || phase.isMoving || phase.isPressMoving

theorem isDrag_of_holdsButton (h : phase.holdsButton = true) : phase.isDrag = true := by
  cases phase with
  | doubleClick target => rfl
  | pressMoving => rfl
  | _ => cases h

theorem not_idle_or_pending (h : phase.isDrag = true) :
    ¬ (phase = .idle ∨ ∃ t, phase = .pending t) := by
  rintro (rfl | ⟨t, rfl⟩) <;> cases h

end Phase

namespace Touchpad
variable {sv : Services} {site : Site} {p : PointerId} {spot : Point} {pad : Touchpad} {d : Desk}
  {c : Call}

/-! ## One call -/

theorem contact_of_move (h : (pad.move sv site p spot d).consumed = true) :
    pad.contact? ≠ none := by
  intro hc
  rw [Touchpad.move, hc] at h
  cases h

theorem contact_of_up (h : (pad.up site p d).consumed = true) : pad.contact? ≠ none := by
  intro hc
  rw [up_of_ne (by simp [Touchpad.pointer?, hc])] at h
  cases h

/-- Only a press opens the idle window. -/
theorem isPending_of_answer (hc : ∀ p spot, c ≠ .down p spot)
    (h : (pad.answer sv site d c).state.phase.isPending = true) : pad.phase.isPending = true := by
  cases c with
  | down p spot => exact absurd rfl (hc p spot)
  | move p spot =>
    have h : (pad.move sv site p spot d).state.phase.isPending = true := h
    unfold Touchpad.move at h
    split at h
    · split at h
      · cases hp : pad.phase <;> simp [slide, hp, Phase.isPending] at h ⊢
      · exact h
    · exact h
  | up p =>
    have h : (pad.up site p d).state.phase.isPending = true := h
    unfold Touchpad.up at h
    split at h
    · cases hp : pad.phase <;> simp [hp, Phase.isPending] at h ⊢
    · exact h
  | detach => cases h
  | timer t =>
    have h : (pad.timer sv site t d).state.phase.isPending = true := h
    by_cases hk : pad.clickTimer? = some t
    · rw [timer_of_click hk] at h
      exact h
    · by_cases hp : pad.phase = .pending t
      · rw [hp]
        rfl
      · rw [timer_of_not_mem (not_mem_timers hk hp)] at h
        exact h

namespace PhaseFits

theorem answer (hf : pad.PhaseFits) : (pad.answer sv site d c).state.PhaseFits := by
  cases c with
  | down p spot => exact hf.down
  | move p spot => exact hf.move
  | up p => exact hf.up
  | detach => exact rfl
  | timer h => exact hf.timer

theorem not_idle (hf : pad.PhaseFits) (hc : pad.contact? ≠ none) : pad.phase ≠ .idle := by
  intro hp
  rw [PhaseFits, hp] at hf
  exact hc hf

theorem contact_of_drag (hf : pad.PhaseFits) (hd : pad.phase.isDrag = true) :
    pad.contact? ≠ none :=
  fun hc => Phase.not_idle_or_pending hd (hf.idle_or_pending hc)

/-- A drag has a contact, and a second one is ignored. -/
theorem down_of_drag (hf : pad.PhaseFits) (hd : pad.phase.isDrag = true) :
    pad.down sv site p spot d = .ignored pad d := by
  obtain ⟨con, hc⟩ := Option.ne_none_iff_exists'.1 (hf.contact_of_drag hd)
  exact down_of_contact hc

theorem not_pending_of_drag (hf : pad.PhaseFits) (hd : pad.phase.isDrag = true) :
    (pad.answer sv site d c).state.phase.isPending = false := by
  have hp : pad.phase.isPending = false := by
    cases hph : pad.phase with
    | pending t => exact absurd (.inr ⟨t, hph⟩) (Phase.not_idle_or_pending hd)
    | _ => rfl
  cases c with
  | down p spot =>
    have hans : pad.answer sv site d (.down p spot) = .ignored pad d := hf.down_of_drag hd
    rw [hans]
    exact hp
  | _ =>
    refine Bool.eq_false_iff.2 fun h => ?_
    rw [isPending_of_answer (by rintro _ _ ⟨⟩) h] at hp
    cases hp

end PhaseFits

/-! ## Any calls -/

/-- A call with what it meets: the collaborators and the place of the touchpad, and a desk that
others may have used. -/
structure Visit where
  services : Services := {}
  site : Site
  desk : Desk
  call : Call

/-- The touchpad after some calls. -/
def after (pad : Touchpad) (vs : List Visit) : Touchpad :=
  vs.foldl (fun pad v => (pad.answer v.services v.site v.desk v.call).state) pad

theorem PhaseFits.after {vs : List Visit} (hf : pad.PhaseFits) : (pad.after vs).PhaseFits := by
  induction vs generalizing pad with
  | nil => exact hf
  | cons v vs ih => exact ih hf.answer

/-- **Phase and contact agree**, whatever calls have been made on the touchpad, with any pointers,
positions and timers and at any desk: an idle touchpad has no contact, a drag has one, and without a
contact the touchpad is idle or its idle window is open. So a press that is taken meets an idle
touchpad or an open window, a contact that moves or lifts does not meet an idle touchpad, and a
press during a drag with the button down changes nothing: no call takes such a drag to an open
window. -/
theorem phase_agrees_with_contact (doubleTapDrag : Bool) (vs : List Visit) (sv : Services)
    (site : Site) (d : Desk) :
    let pad := after { doubleTapDrag } vs
    (pad.phase = .idle → pad.contact? = none) ∧
    (pad.phase.isDrag = true → pad.contact? ≠ none) ∧
    (pad.contact? = none → pad.phase = .idle ∨ ∃ t, pad.phase = .pending t) ∧
    (∀ p spot, (pad.down sv site p spot d).consumed = true →
      pad.phase = .idle ∨ ∃ t, pad.phase = .pending t) ∧
    (∀ p spot, (pad.move sv site p spot d).consumed = true → pad.phase ≠ .idle) ∧
    (∀ p, (pad.up site p d).consumed = true → pad.phase ≠ .idle) ∧
    (pad.phase.holdsButton = true →
      (∀ p spot, pad.down sv site p spot d = .ignored pad d) ∧
      ∀ c, (pad.answer sv site d c).state.phase.isPending = false) := by
  intro pad
  have hfresh : PhaseFits { doubleTapDrag } := rfl
  have hf : pad.PhaseFits := hfresh.after
  refine ⟨fun hp => ?_, hf.contact_of_drag, hf.idle_or_pending, fun p spot h => ?_,
    fun p spot h => hf.not_idle (contact_of_move h), fun p h => hf.not_idle (contact_of_up h),
    fun hb => ?_⟩
  · by_contra hc
    exact hf.not_idle hc hp
  · exact hf.idle_or_pending (down_of_consumed h).1
  · have hd := Phase.isDrag_of_holdsButton hb
    exact ⟨fun p spot => hf.down_of_drag hd, fun c => hf.not_pending_of_drag hd⟩

/-- A tap, a timer that the touchpad does not wait for, and a second press. -/
def doubleTap : List Visit :=
  [.down 5 ⟨10, 10⟩, .up 5, .timer 7, .down 6 ⟨12, 10⟩].map fun call =>
    { site := Bench.twoSites true, desk := {}, call }

/-- Between the presses the window is open without a contact. The second press drags with the button
down, and a third one is ignored. -/
theorem phase_agrees_with_contact_of_doubleTap :
    (after { doubleTapDrag := true } (doubleTap.take 3)).phase = .pending 0 ∧
    (after { doubleTapDrag := true } (doubleTap.take 3)).contact? = none ∧
    let pad := after { doubleTapDrag := true } doubleTap
    pad.phase.holdsButton = true ∧ pad.contact? ≠ none ∧
      ∀ p spot d, pad.down {} (Bench.twoSites true) p spot d = .ignored pad d := by
  refine ⟨rfl, rfl, ?_⟩
  intro pad
  have hb : pad.phase.holdsButton = true := rfl
  obtain ⟨-, hdrag, -⟩ :=
    phase_agrees_with_contact true doubleTap {} (Bench.twoSites true) {}
  refine ⟨hb, hdrag (Phase.isDrag_of_holdsButton hb), fun p spot d => ?_⟩
  obtain ⟨-, -, -, -, -, -, hheld⟩ :=
    phase_agrees_with_contact true doubleTap {} (Bench.twoSites true) d
  exact (hheld hb).1 p spot

end Touchpad
end TouchOverlay
