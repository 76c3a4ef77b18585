import TouchOverlay.Control
import TouchOverlay.Proofs.TimerQueue

/-!
# What a call on a control changes

For each call (`down`, `move`, `up`, `timer`, `resetToggle`, `detach`): the pointer that the
control owns afterwards, the claims it leaves, and its turn on the timer queue. All three kinds of
control follow one pattern. A contact that is taken is taken from the claims as `Claims.take?`
says, a contact that ends is dropped as `Claims.drop` says, nothing else touches the claims, and
only touchpads have timers.
-/

namespace TouchOverlay

/-! ## The desk -/

namespace Site
variable {s : Site} {p : PointerId} {d d' : Desk}

theorem take?_eq_some (h : s.take? p d = some d') :
    d.claims.take? p s.id s.passThrough = some d'.claims ∧ d'.timers = d.timers := by
  obtain ⟨c, hc, rfl⟩ := Option.map_eq_some_iff.1 h
  exact ⟨hc, rfl⟩

@[simp] theorem claims_drop : (s.drop p d).claims = d.claims.drop p s.id s.passThrough := rfl

end Site

namespace Desk
variable {d : Desk} {h : TimerHandle}

@[simp] theorem claims_cancel : (d.cancel h).claims = d.claims := rfl

@[simp] theorem timers_cancel : (d.cancel h).timers = (d.timers.cancel h).2 := rfl

end Desk

namespace Reaction
variable {σ τ : Type} {f : σ → τ} {r : Reaction σ}

@[simp] theorem state_map : (r.map f).state = f r.state := rfl

@[simp] theorem desk_map : (r.map f).desk = r.desk := rfl

@[simp] theorem consumed_map : (r.map f).consumed = r.consumed := rfl

end Reaction

/-! ## Buttons -/

namespace Button
variable {site : Site} {p : PointerId} {b : Button} {d : Desk}

theorem down_cases (b : Button) (site : Site) (p : PointerId) (d : Desk) :
    b.down site p d = .ignored b d ∧ (b.pointer? = none → site.take? p d = none) ∨
      ∃ d', b.pointer? = none ∧ site.take? p d = some d' ∧
        b.down site p d =
          { state := b.press p
            desk := d'
            requests := [.pulse, (b.press p).pressRequest site.anchor] } := by
  unfold down
  cases b.pointer? <;> cases site.take? p d <;> simp

theorem up_of_pointer? (h : b.pointer? = some p) :
    b.up site p d =
      { state := { b with pointer? := none, pressed := false }
        desk := site.drop p d
        requests := b.releaseRequests site } := by
  simp [up, h]

theorem up_of_ne (h : b.pointer? ≠ some p) : b.up site p d = .ignored b d := by simp [up, h]

theorem desk_resetToggle : (b.resetToggle site d).desk = d := by
  unfold resetToggle; split <;> rfl

theorem pointer?_resetToggle : (b.resetToggle site d).state.pointer? = b.pointer? := by
  unfold resetToggle; split <;> rfl

theorem desk_detach : (b.detach site d).desk = b.pointer?.elim d (site.drop · d) := by
  unfold detach; cases b.pointer? <;> rfl

end Button

/-! ## Direction pads -/

namespace DirectionPad
variable {site : Site} {p : PointerId} {spot : Point} {pad : DirectionPad} {d : Desk}

theorem down_cases (pad : DirectionPad) (site : Site) (p : PointerId) (spot : Point) (d : Desk) :
    pad.down site p spot d = .ignored pad d ∧ (pad.pointer? = none → site.take? p d = none) ∨
      ∃ d', pad.pointer? = none ∧ site.take? p d = some d' ∧
        pad.down site p spot d =
          { state := { pad with pointer? := some p, held := Directions.selectedAt spot site.bounds }
            desk := d'
            requests := .pulse ::
              pad.transition (Directions.selectedAt spot site.bounds) site.anchor } := by
  unfold down
  cases pad.pointer? <;> cases site.take? p d <;> simp

theorem up_of_pointer? (h : pad.pointer? = some p) : pad.up site p d = pad.release site p d := by
  simp [up, h]

theorem up_of_ne (h : pad.pointer? ≠ some p) : pad.up site p d = .ignored pad d := by simp [up, h]

theorem desk_detach : (pad.detach site d).desk = pad.pointer?.elim d (site.drop · d) := by
  unfold detach; cases pad.pointer? <;> rfl

end DirectionPad

/-! ## Touchpads -/

namespace Touchpad
open TimerQueue

def idleTimer? (pad : Touchpad) : Option TimerHandle :=
  match pad.phase with
  | .pending h => some h
  | _ => none

/-- The timers that a touchpad holds: that of the idle window and that of an outstanding click. -/
def timers (pad : Touchpad) : List TimerHandle := pad.idleTimer?.toList ++ pad.clickTimer?.toList

variable {sv : Services} {site : Site} {p : PointerId} {spot : Point} {pad : Touchpad} {d : Desk}
  {h : TimerHandle} {c : Contact}

theorem timers_of_pending (hp : pad.phase = .pending h) :
    pad.timers = h :: pad.clickTimer?.toList := by
  simp [timers, idleTimer?, hp]

theorem timers_of_ne (hp : ∀ h, pad.phase ≠ .pending h) : pad.timers = pad.clickTimer?.toList := by
  unfold timers idleTimer?
  split
  · rename_i h; exact absurd h (hp _)
  · rfl

theorem mem_timers : h ∈ pad.timers ↔ pad.phase = .pending h ∨ pad.clickTimer? = some h := by
  unfold timers idleTimer?
  split
  · rename_i h' hp
    simp [hp, eq_comm]
  · rename_i hp
    simpa using fun hp' => (hp h hp').elim

theorem turn_startPending :
    Turn site.id d.timers pad.clickTimer?.toList (startPending sv site pad d).2.timers
      (startPending sv site pad d).1.timers :=
  .schedule _ (.done (.refl _))

theorem turn_cancelClick :
    Turn site.id d.timers pad.clickTimer?.toList (pad.cancelClick d).timers [] := by
  unfold cancelClick
  cases pad.clickTimer? with
  | none => exact .done (.refl _)
  | some h => exact .cancel (h := h) (by simp) (.done (by simp))

theorem turn_resolveClick :
    Turn site.id d.timers pad.clickTimer?.toList (resolveClick sv site pad d).2.timers
      (resolveClick sv site pad d).1.clickTimer?.toList :=
  turn_cancelClick.trans (.schedule _ (.done (.refl _)))

theorem claims_cancelClick : (pad.cancelClick d).claims = d.claims := by
  unfold cancelClick; cases pad.clickTimer? <;> rfl

theorem claims_resolveClick (sv : Services) (site : Site) :
    (resolveClick sv site pad d).2.claims = d.claims :=
  claims_cancelClick

theorem now_resolveClick : (resolveClick sv site pad d).2.timers.now = d.timers.now := by
  show (pad.cancelClick d).timers.now = _
  unfold cancelClick
  cases pad.clickTimer? with
  | none => rfl
  | some h => exact now_cancel

theorem down_cases (sv : Services) (site : Site) (p : PointerId) (spot : Point) (pad : Touchpad)
    (d : Desk) :
    pad.down sv site p spot d = .ignored pad d ∧ (pad.contact? = none → site.take? p d = none) ∨
      ∃ d', pad.contact? = none ∧ site.take? p d = some d' ∧
        pad.down sv site p spot d = beginContact sv site spot
          { pad with contact? := some { pointer := p, initial := spot, last := spot } } d' := by
  unfold down
  cases pad.contact? <;> cases site.take? p d <;> simp

/-- Whatever the phase, beginning a contact touches only the phase, the timers and the requests. -/
theorem beginContact_frame (sv : Services) (site : Site) (spot : Point) (pad : Touchpad)
    (d : Desk) :
    (beginContact sv site spot pad d).state.contact? = pad.contact? ∧
      (beginContact sv site spot pad d).state.doubleTapDrag = pad.doubleTapDrag ∧
      (beginContact sv site spot pad d).desk.claims = d.claims ∧
      (beginContact sv site spot pad d).consumed = true := by
  unfold beginContact; split
  · split
    · exact ⟨rfl, rfl, rfl, rfl⟩
    · exact ⟨rfl, rfl, claims_resolveClick sv site, rfl⟩
  · exact ⟨rfl, rfl, rfl, rfl⟩

theorem turn_beginContact (sv : Services) (site : Site) (spot : Point) (pad : Touchpad) (d : Desk) :
    Turn site.id d.timers pad.timers (beginContact sv site spot pad d).desk.timers
      (beginContact sv site spot pad d).state.timers := by
  cases hp : pad.phase with
  | pending timer =>
    rw [timers_of_pending hp]
    refine .cancel (h := timer) List.mem_cons_self ?_
    rw [List.erase_cons_head]
    unfold beginContact
    simp only [hp]
    split
    · exact .done (.refl _)
    · exact (turn_resolveClick (d := d.cancel timer)).trans turn_startPending
  | _ =>
    rw [timers_of_ne (by simp [hp])]
    simp only [beginContact, hp]
    exact turn_startPending

theorem slide_frame (sv : Services) (site : Site) (spot : Point) (d : Desk)
    (hc : pad.contact? = some c) :
    (slide sv site c spot pad d).state.pointer? = pad.pointer? ∧
      (slide sv site c spot pad d).state.doubleTapDrag = pad.doubleTapDrag ∧
      (slide sv site c spot pad d).desk.claims = d.claims ∧
      (slide sv site c spot pad d).consumed = true := by
  have hp : pad.pointer? = some c.pointer := by simp [pointer?, hc]
  rw [hp]
  unfold slide; dsimp only; split
  · split <;> exact ⟨rfl, rfl, rfl, rfl⟩
  all_goals exact ⟨rfl, rfl, rfl, rfl⟩

theorem turn_slide :
    Turn site.id d.timers pad.timers (slide sv site c spot pad d).desk.timers
      (slide sv site c spot pad d).state.timers := by
  cases hp : pad.phase with
  | pending timer =>
    rw [timers_of_pending hp]
    simp only [slide, hp]
    split
    · refine .cancel (h := timer) List.mem_cons_self ?_
      rw [List.erase_cons_head]
      exact .done (.refl _)
    · rw [timers_of_pending rfl]
      exact .done (.refl _)
  | _ =>
    rw [timers_of_ne (by simp [hp])]
    simp only [slide, hp]
    rw [timers_of_ne (by simp)]
    exact .done (.refl _)

theorem up_of_ne (h : pad.pointer? ≠ some p) : pad.up site p d = .ignored pad d := by simp [up, h]

theorem up_frame (site : Site) (d : Desk) (h : pad.pointer? = some p) :
    (pad.up site p d).state.contact? = none ∧
      (pad.up site p d).state.doubleTapDrag = pad.doubleTapDrag ∧
      (pad.up site p d).desk = site.drop p d ∧ (pad.up site p d).consumed = true := by
  unfold up; rw [if_pos h]; dsimp only; split <;> exact ⟨rfl, rfl, rfl, rfl⟩

theorem timers_up : (pad.up site p d).state.timers = pad.timers := by
  by_cases h : pad.pointer? = some p
  · cases hp : pad.phase <;> simp [up, timers, idleTimer?, h, hp]
  · rw [up_of_ne h]; rfl

theorem not_mem_timers (hc : pad.clickTimer? ≠ some h) (hp : pad.phase ≠ .pending h) :
    h ∉ pad.timers := by
  rw [mem_timers]
  exact fun hm => hm.elim hp hc

theorem timer_of_click (hc : pad.clickTimer? = some h) :
    pad.timer sv site h d =
      { state := { pad with clickTimer? := none }
        desk := d
        requests := [.primary false .here] } := by
  simp [timer, hc]

theorem timer_of_idle (hc : pad.clickTimer? ≠ some h) (hp : pad.phase = .pending h) :
    pad.timer sv site h d = closeWindow sv site pad d := by
  simp [timer, hc, hp]

theorem timer_of_not_mem (hh : h ∉ pad.timers) : pad.timer sv site h d = .ignored pad d := by
  have hc : pad.clickTimer? ≠ some h := fun hc => hh (by simp [timers, hc])
  have hp : pad.phase ≠ .pending h := fun hp => hh (by simp [timers_of_pending hp])
  simp only [timer, hc, if_false]
  split
  · rename_i timer ht
    have hne : timer ≠ h := fun heq => hp (heq ▸ ht)
    rw [if_neg hne]
  · rfl

theorem closeWindow_frame (sv : Services) (site : Site) (pad : Touchpad) (d : Desk) :
    (closeWindow sv site pad d).state.contact? = pad.contact? ∧
      (closeWindow sv site pad d).state.doubleTapDrag = pad.doubleTapDrag ∧
      (closeWindow sv site pad d).desk.claims = d.claims := by
  unfold closeWindow; split
  · exact ⟨rfl, rfl, rfl⟩
  · exact ⟨rfl, rfl, claims_resolveClick sv site⟩

theorem timer_frame (sv : Services) (site : Site) (h : TimerHandle) (pad : Touchpad) (d : Desk) :
    (pad.timer sv site h d).state.contact? = pad.contact? ∧
      (pad.timer sv site h d).state.doubleTapDrag = pad.doubleTapDrag ∧
      (pad.timer sv site h d).desk.claims = d.claims := by
  unfold timer
  split
  · exact ⟨rfl, rfl, rfl⟩
  · split
    · split
      · exact closeWindow_frame sv site pad d
      · exact ⟨rfl, rfl, rfl⟩
    · exact ⟨rfl, rfl, rfl⟩

theorem turn_closeWindow :
    Turn site.id d.timers pad.clickTimer?.toList (closeWindow sv site pad d).desk.timers
      (closeWindow sv site pad d).state.timers := by
  unfold closeWindow; split
  · exact .done (.refl _)
  · exact turn_resolveClick

/-- A timer that fires has left the queue before the touchpad hears of it. -/
theorem turn_timer (sv : Services) (site : Site) (d : Desk) (h : TimerHandle)
    (hn : pad.timers.Nodup) :
    Turn site.id d.timers (pad.timers.erase h) (pad.timer sv site h d).desk.timers
      (pad.timer sv site h d).state.timers := by
  by_cases hc : pad.clickTimer? = some h
  · rw [timer_of_click hc]
    cases hp : pad.phase with
    | pending timer =>
      rw [timers_of_pending hp, hc] at hn ⊢
      have hne : timer ≠ h := by simpa using hn
      rw [timers_of_pending rfl]
      exact .done (by simp [hne])
    | _ =>
      rw [timers_of_ne (by simp [hp]), timers_of_ne (by simp), hc]
      exact .done (by simp)
  · by_cases hp : pad.phase = .pending h
    · rw [timer_of_idle hc hp, timers_of_pending hp, List.erase_cons_head]
      exact turn_closeWindow
    · have hh := not_mem_timers hc hp
      rw [timer_of_not_mem hh, List.erase_of_not_mem hh]
      exact .done (.refl _)

theorem turn_detach :
    Turn site.id d.timers pad.timers (pad.detach site d).desk.timers [] := by
  have hd : (pad.detach site d).desk.timers = (pad.cancelTimers d).timers := by
    unfold detach; cases pad.pointer? <;> rfl
  rw [hd]
  unfold cancelTimers
  cases hp : pad.phase with
  | pending timer =>
    rw [timers_of_pending hp]
    refine .cancel (h := timer) List.mem_cons_self ?_
    rw [List.erase_cons_head]
    exact turn_cancelClick (d := d.cancel timer)
  | _ =>
    rw [timers_of_ne (by simp [hp])]
    exact turn_cancelClick

theorem claims_detach :
    (pad.detach site d).desk.claims =
      pad.pointer?.elim d.claims fun p => d.claims.drop p site.id site.passThrough := by
  have hc : (pad.cancelTimers d).claims = d.claims := by
    unfold cancelTimers; split <;> simp [claims_cancelClick]
  unfold detach
  cases pad.pointer? <;> simp [hc]

end Touchpad

/-! ## All kinds -/

def ControlKind.isTouchpad : ControlKind → Bool
  | touchpad _ => true
  | _ => false

namespace Behaviour
open TimerQueue

def timers : Behaviour → List TimerHandle
  | touchpad pad => pad.timers
  | _ => []

@[simp] theorem timers_ofKind (k : ControlKind) : (ofKind k).timers = [] := by cases k <;> rfl

/-- The control has taken the pointer `p`, which it did not own. -/
structure Takes (site : Site) (p : PointerId) (b : Behaviour) (d : Desk) (r : Reaction Behaviour) :
    Prop where
  consumed : r.consumed = true
  free : b.pointer? = none
  pointer : r.state.pointer? = some p
  claims : d.claims.take? p site.id site.passThrough = some r.desk.claims
  kind : r.state.kind = b.kind
  turn : Turn site.id d.timers b.timers r.desk.timers r.state.timers
  timerless : b.kind.isTouchpad = false → r.desk.timers = d.timers

/-- The control, which holds the timers `hs`, goes on with the contact it has. -/
structure Keeps (site : Site) (hs : List TimerHandle) (b : Behaviour) (d : Desk)
    (r : Reaction Behaviour) : Prop where
  pointer : r.state.pointer? = b.pointer?
  claims : r.desk.claims = d.claims
  kind : r.state.kind = b.kind
  turn : Turn site.id d.timers hs r.desk.timers r.state.timers
  timerless : b.kind.isTouchpad = false → r.desk.timers = d.timers

structure Drops (site : Site) (p : PointerId) (b : Behaviour) (d : Desk) (r : Reaction Behaviour) :
    Prop where
  consumed : r.consumed = true
  pointer : r.state.pointer? = none
  claims : r.desk.claims = d.claims.drop p site.id site.passThrough
  kind : r.state.kind = b.kind
  turn : Turn site.id d.timers b.timers r.desk.timers r.state.timers
  timerless : b.kind.isTouchpad = false → r.desk.timers = d.timers

variable (b : Behaviour) (sv : Services) (site : Site) (p : PointerId) (spot : Point) (d : Desk)
  (h : TimerHandle)

theorem Keeps.ignored : Keeps site b.timers b d (.ignored b d) :=
  ⟨rfl, rfl, rfl, .done (.refl _), fun _ => rfl⟩

/-- A contact is taken, or refused without a trace. -/
theorem down_cases :
    b.down sv site p spot d = .ignored b d ∧ (b.pointer? = none → site.take? p d = none) ∨
      Takes site p b d (b.down sv site p spot d) := by
  cases b with
  | button b =>
    rcases b.down_cases site p d with ⟨hr, hn⟩ | ⟨d', hn, ht, hr⟩
    · exact .inl ⟨by simp only [down, hr]; rfl, hn⟩
    · obtain ⟨hc, ht⟩ := Site.take?_eq_some ht
      simp only [down, hr]
      exact .inr ⟨rfl, hn, rfl, hc, rfl, by rw [← ht]; exact .done (.refl _), fun _ => ht⟩
  | directionPad pad =>
    rcases pad.down_cases site p spot d with ⟨hr, hn⟩ | ⟨d', hn, ht, hr⟩
    · exact .inl ⟨by simp only [down, hr]; rfl, hn⟩
    · obtain ⟨hc, ht⟩ := Site.take?_eq_some ht
      simp only [down, hr]
      exact .inr ⟨rfl, hn, rfl, hc, rfl, by rw [← ht]; exact .done (.refl _), fun _ => ht⟩
  | touchpad pad =>
    rcases pad.down_cases sv site p spot d with ⟨hr, hn⟩ | ⟨d', hn, ht, hr⟩
    · exact .inl ⟨by simp only [down, hr]; rfl, fun h => hn (Option.map_eq_none_iff.1 h)⟩
    · obtain ⟨hc, ht⟩ := Site.take?_eq_some ht
      simp only [down, hr]
      obtain ⟨hcon, hdrag, hclaims, hcons⟩ := Touchpad.beginContact_frame sv site spot
        { pad with contact? := some { pointer := p, initial := spot, last := spot } } d'
      refine .inr ⟨hcons, Option.map_eq_none_iff.2 hn, ?_, hclaims ▸ hc, ?_, ?_, nofun⟩
      · exact congrArg (Option.map Contact.pointer) hcon
      · exact congrArg ControlKind.touchpad hdrag
      · rw [← ht]
        exact Touchpad.turn_beginContact sv site spot
          { pad with contact? := some { pointer := p, initial := spot, last := spot } } d'

theorem move_of_ne {b : Behaviour} {p : PointerId} (h : b.pointer? ≠ some p) :
    b.move sv site p spot d = .ignored b d := by
  cases b with
  | button b => simp_all [move, Button.move, Reaction.map, Reaction.ignored, pointer?]
  | directionPad pad =>
    have h : pad.pointer? ≠ some p := h
    simp only [move, DirectionPad.move, h, if_false]; rfl
  | touchpad pad =>
    simp only [move, Touchpad.move]
    cases hc : pad.contact? with
    | none => rfl
    | some c =>
      have hne : c.pointer ≠ p := fun he => h (by simp [pointer?, Touchpad.pointer?, hc, he])
      simp only [hne, if_false]; rfl

theorem keeps_move : Keeps site b.timers b d (b.move sv site p spot d) ∧
    ((b.move sv site p spot d).consumed = true ↔ b.pointer? = some p) := by
  by_cases h : b.pointer? = some p
  · cases b with
    | button b =>
      exact ⟨⟨rfl, rfl, rfl, .done (.refl _), fun _ => rfl⟩, by simp [move, Button.move, pointer?]⟩
    | directionPad pad =>
      have hp : pad.pointer? = some p := h
      simp only [move, DirectionPad.move, hp, if_true]
      exact ⟨⟨h.symm, rfl, rfl, .done (.refl _), fun _ => rfl⟩, iff_of_true rfl h⟩
    | touchpad pad =>
      obtain ⟨c, hc, rfl⟩ := Option.map_eq_some_iff.1 h
      obtain ⟨hp, hdrag, hclaims, hcons⟩ := Touchpad.slide_frame sv site spot d hc
      simp only [move, Touchpad.move, hc, if_true]
      exact ⟨⟨hp, hclaims, congrArg ControlKind.touchpad hdrag, Touchpad.turn_slide, nofun⟩,
        iff_of_true hcons h⟩
  · rw [move_of_ne sv site spot d h]
    exact ⟨.ignored b site d, iff_of_false Bool.false_ne_true h⟩

theorem up_of_ne {b : Behaviour} {p : PointerId} (h : b.pointer? ≠ some p) :
    b.up site p d = .ignored b d := by
  cases b with
  | button b => simp only [up, Button.up_of_ne h]; rfl
  | directionPad pad => simp only [up, DirectionPad.up_of_ne h]; rfl
  | touchpad pad => simp only [up, Touchpad.up_of_ne h]; rfl

theorem drops_up {b : Behaviour} {p : PointerId} (h : b.pointer? = some p) :
    Drops site p b d (b.up site p d) := by
  cases b with
  | button b =>
    simp only [up, Button.up_of_pointer? h]
    exact ⟨rfl, rfl, rfl, rfl, .done (.refl _), fun _ => rfl⟩
  | directionPad pad =>
    simp only [up, DirectionPad.up_of_pointer? h]
    exact ⟨rfl, rfl, rfl, rfl, .done (.refl _), fun _ => rfl⟩
  | touchpad pad =>
    obtain ⟨hcon, hdrag, hdesk, hcons⟩ := Touchpad.up_frame site d h
    simp only [up]
    refine ⟨hcons, congrArg (Option.map Contact.pointer) hcon, ?_,
      congrArg ControlKind.touchpad hdrag, ?_, nofun⟩
    · simp only [Reaction.desk_map, hdesk]; rfl
    · simp only [Reaction.desk_map, hdesk]
      exact .done (by simp only [timers, Reaction.state_map, Touchpad.timers_up]; rfl)

/-- Whatever the control holds, a timer leaves its contact and the claims alone. -/
theorem timer_frame : (b.timer sv site d h).state.pointer? = b.pointer? ∧
    (b.timer sv site d h).desk.claims = d.claims ∧ (b.timer sv site d h).state.kind = b.kind := by
  cases b with
  | touchpad pad =>
    obtain ⟨hcon, hdrag, hclaims⟩ := Touchpad.timer_frame sv site h pad d
    exact ⟨congrArg (Option.map Contact.pointer) hcon, hclaims,
      congrArg ControlKind.touchpad hdrag⟩
  | _ => exact ⟨rfl, rfl, rfl⟩

/-- A timer has left the queue when its control hears of it. -/
theorem keeps_timer {b : Behaviour} (hn : b.timers.Nodup) :
    Keeps site (b.timers.erase h) b d (b.timer sv site d h) := by
  obtain ⟨hp, hclaims, hkind⟩ := b.timer_frame sv site d h
  cases b with
  | touchpad pad => exact ⟨hp, hclaims, hkind, Touchpad.turn_timer sv site d h hn, nofun⟩
  | _ => exact ⟨hp, hclaims, hkind, .done (.refl _), fun _ => rfl⟩

theorem keeps_resetToggle : Keeps site b.timers b d (b.resetToggle site d) := by
  cases b with
  | button b =>
    have hd : ((button b).resetToggle site d).desk = d := b.desk_resetToggle
    refine ⟨b.pointer?_resetToggle, congrArg Desk.claims hd, ?_, ?_, fun _ => ?_⟩
    · simp only [resetToggle, Button.resetToggle]; split <;> rfl
    · rw [hd]; exact .done (.refl _)
    · rw [hd]
  | directionPad pad => exact .ignored _ site d
  | touchpad pad => exact .ignored _ site d

theorem claims_detach : (b.detach site d).desk.claims =
    b.pointer?.elim d.claims fun p => d.claims.drop p site.id site.passThrough := by
  cases b with
  | button b =>
    show (b.detach site d).desk.claims = b.pointer?.elim _ _
    rw [Button.desk_detach]; cases b.pointer? <;> rfl
  | directionPad pad =>
    show (pad.detach site d).desk.claims = pad.pointer?.elim _ _
    rw [DirectionPad.desk_detach]; cases pad.pointer? <;> rfl
  | touchpad pad => exact Touchpad.claims_detach

theorem turn_detach : Turn site.id d.timers b.timers (b.detach site d).desk.timers [] := by
  cases b with
  | button b =>
    show Turn site.id d.timers [] (b.detach site d).desk.timers []
    rw [Button.desk_detach]; cases b.pointer? <;> exact .done (.refl _)
  | directionPad pad =>
    show Turn site.id d.timers [] (pad.detach site d).desk.timers []
    rw [DirectionPad.desk_detach]; cases pad.pointer? <;> exact .done (.refl _)
  | touchpad pad => exact Touchpad.turn_detach

end Behaviour

/-- A contact that a control consumes is one that it has taken. -/
theorem Control.takes_down {sv : Services} {size : SurfaceSize} {p : PointerId} {c : Control}
    {d : Desk} {spot : Point} (h : (c.down sv size p d spot).consumed = true) :
    Behaviour.Takes (c.site size) p c.behaviour d
      (c.behaviour.down sv (c.site size) p (c.bounds.toLocal spot) d) := by
  rcases c.behaviour.down_cases sv (c.site size) p (c.bounds.toLocal spot) d with ⟨hr, -⟩ | ht
  · have hf : (c.down sv size p d spot).consumed = false := congrArg Reaction.consumed hr
    exact absurd h (by simp [hf])
  · exact ht

end TouchOverlay
