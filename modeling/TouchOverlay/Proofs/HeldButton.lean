import TouchOverlay.Proofs.LeftButton
import TouchOverlay.Proofs.Run

/-!
# A pressed left button is held by a touchpad

A touchpad presses the left button for a drag and for a click. `Touchpad.holdsLeft` says that it
still owes the release: it is in a drag, or the timer of a click is outstanding. Each call on a
touchpad accounts for what it does to the button (`Behaviour.Accounts`): after a press it owes the
release, and it is rid of that debt only by sending one. That the release may be one for two
presses, or the leading one of a new click, makes no difference to this.

A drag without a contact would be forgotten by the next press, so it has to be ruled out as well
(`Touchpad.Grounded`).
-/

namespace TouchOverlay

namespace Touchpad

/-- The touchpad has pressed the left button and has still to release it. -/
def holdsLeft (pad : Touchpad) : Bool := pad.phase.holdsButton || pad.clickTimer?.isSome

/-- There is no drag without a contact. -/
def Grounded (pad : Touchpad) : Prop := pad.contact? = none → pad.phase.holdsButton = false

variable {sv : Services} {site : Site} {p : PointerId} {spot : Point} {pad : Touchpad} {d : Desk}
  {h : TimerHandle} {c : Contact}

theorem holdsLeft_iff : pad.holdsLeft = true ↔
    pad.phase.holdsButton = true ∨ pad.clickTimer?.isSome = true := by
  simp [holdsLeft]

/-! ## Grounded touchpads -/

theorem Grounded.down (hg : pad.Grounded) : (pad.down sv site p spot d).state.Grounded := by
  rcases pad.down_cases sv site p spot d with ⟨hr, -⟩ | ⟨d', -, -, hr⟩ <;> rw [hr]
  · exact hg
  · intro hc
    rw [(beginContact_frame sv site spot _ d').1] at hc
    cases hc

theorem Grounded.move (hg : pad.Grounded) : (pad.move sv site p spot d).state.Grounded := by
  unfold Touchpad.move
  split
  · rename_i c hc
    split
    · intro hn
      have hp := (slide_frame sv site spot d hc).1
      simp [pointer?, hn, hc] at hp
    · exact hg
  · exact hg

theorem Grounded.up (hg : pad.Grounded) : (pad.up site p d).state.Grounded := by
  by_cases hp : pad.pointer? = some p
  · intro _
    unfold Touchpad.up
    rw [if_pos hp]
    cases hph : pad.phase <;> simp [Phase.holdsButton]
  · rw [up_of_ne hp]
    exact hg

theorem Grounded.timer (hg : pad.Grounded) : (pad.timer sv site h d).state.Grounded := by
  by_cases hc : pad.clickTimer? = some h
  · rw [timer_of_click hc]
    exact hg
  · by_cases hp : pad.phase = .pending h
    · rw [timer_of_idle hc hp]
      unfold closeWindow
      split
      · rename_i hcon
        intro hn
        have hn : pad.contact? = none := hn
        rw [hn] at hcon
        cases hcon
      · exact fun _ => rfl
    · rw [timer_of_not_mem (not_mem_timers hc hp)]
      exact hg

/-! ## What a touchpad does to the button -/

/-- After a press of the left button the touchpad has to release it, and as long as it says nothing
about the button it has no less to do than before. -/
structure Accounts (pad : Touchpad) (r : Reaction Touchpad) : Prop where
  press : r.left? = some true → r.state.holdsLeft = true
  silent : r.left? = none → pad.holdsLeft = true → r.state.holdsLeft = true

theorem Accounts.ignored : pad.Accounts (.ignored pad d) := ⟨nofun, fun _ hh => hh⟩

theorem Accounts.of_press {r : Reaction Touchpad} (hr : r.left? = some true)
    (hh : r.state.holdsLeft = true) : pad.Accounts r :=
  ⟨fun _ => hh, fun hn => by rw [hr] at hn; cases hn⟩

theorem Accounts.of_release {r : Reaction Touchpad} (hr : r.left? = some false) : pad.Accounts r :=
  ⟨fun ht => (by rw [hr] at ht; cases ht), fun hn => by rw [hr] at hn; cases hn⟩

theorem Accounts.of_silent {r : Reaction Touchpad} (hr : r.left? = none)
    (hh : pad.holdsLeft = true → r.state.holdsLeft = true) : pad.Accounts r :=
  ⟨fun ht => (by rw [hr] at ht; cases ht), fun _ => hh⟩

/-- Out of a drag only a click can be owed. -/
theorem holdsLeft_of_not_drag {pad' : Touchpad} (hp : pad.phase.holdsButton = false)
    (hc : pad'.clickTimer? = pad.clickTimer?) (hh : pad.holdsLeft = true) :
    pad'.holdsLeft = true := by
  rw [holdsLeft_iff, hp] at hh
  rw [holdsLeft_iff, hc]
  exact .inr (hh.resolve_left Bool.false_ne_true)

theorem accounts_beginContact (hp : pad.phase.holdsButton = false) :
    pad.Accounts (beginContact sv site spot pad d) := by
  unfold beginContact
  split
  · split
    · exact .of_press rfl rfl
    · exact .of_press rfl rfl
  · exact .of_silent rfl (holdsLeft_of_not_drag hp rfl)

theorem accounts_down (hg : pad.Grounded) : pad.Accounts (pad.down sv site p spot d) := by
  rcases pad.down_cases sv site p spot d with ⟨hr, -⟩ | ⟨d', hc, -, hr⟩ <;> rw [hr]
  · exact .ignored
  · have hp : Phase.holdsButton pad.phase = false := hg hc
    have ha : Accounts _ (beginContact sv site spot
      { pad with contact? := some { pointer := p, initial := spot, last := spot } } d') :=
        accounts_beginContact hp
    exact ⟨ha.press, ha.silent⟩

theorem accounts_move : pad.Accounts (pad.move sv site p spot d) := by
  unfold Touchpad.move
  split
  · rename_i c hc
    split
    · cases hp : pad.phase with
      | pending timer =>
        simp only [slide, hp]
        split
        · exact .of_silent rfl (holdsLeft_of_not_drag (by rw [hp]; rfl) rfl)
        · exact .of_silent rfl (holdsLeft_of_not_drag (by rw [hp]; rfl) rfl)
      | doubleClick target =>
        simp only [slide, hp]
        exact .of_silent rfl fun _ => rfl
      | pressMoving =>
        simp only [slide, hp]
        exact .of_silent rfl fun _ => rfl
      | _ =>
        simp only [slide, hp]
        exact .of_silent rfl (holdsLeft_of_not_drag (by rw [hp]; rfl) rfl)
    · exact .ignored
  · exact .ignored

theorem accounts_up : pad.Accounts (pad.up site p d) := by
  by_cases h : pad.pointer? = some p
  · unfold Touchpad.up
    rw [if_pos h]
    cases hp : pad.phase with
    | doubleClick target => exact .of_release rfl
    | pressMoving => exact .of_release rfl
    | _ => exact .of_silent rfl (holdsLeft_of_not_drag (by rw [hp]; rfl) rfl)
  · rw [up_of_ne h]
    exact .ignored

theorem accounts_timer : pad.Accounts (pad.timer sv site h d) := by
  by_cases hc : pad.clickTimer? = some h
  · rw [timer_of_click hc]
    exact .of_release rfl
  · by_cases hp : pad.phase = .pending h
    · rw [timer_of_idle hc hp]
      unfold closeWindow
      split
      · exact .of_press rfl rfl
      · exact .of_press rfl rfl
    · rw [timer_of_not_mem (not_mem_timers hc hp)]
      exact .ignored

/-- A session that ends leaves nothing pressed, and one release is enough. -/
theorem left?_detach : (pad.detach site d).left? = if pad.holdsLeft then some false else none := by
  have hr : (pad.detach site d).requests =
      if pad.holdsLeft then [.primary false .here] else [] := by
    rw [holdsLeft, Bool.or_comm]
    rfl
  rw [Reaction.left?, hr]
  split <;> rfl

end Touchpad

namespace Behaviour
variable {sv : Services} {site : Site} {p : PointerId} {spot : Point} {b : Behaviour} {d : Desk}
  {h : TimerHandle} {r : Reaction Behaviour}

def holdsLeft : Behaviour → Bool
  | touchpad pad => pad.holdsLeft
  | _ => false

def Grounded : Behaviour → Prop
  | touchpad pad => pad.Grounded
  | _ => True

theorem holdsLeft_iff : b.holdsLeft = true ↔ ∃ pad, b = .touchpad pad ∧
    (pad.phase.holdsButton = true ∨ pad.clickTimer?.isSome = true) := by
  cases b with
  | touchpad pad => simp [holdsLeft, Touchpad.holdsLeft_iff]
  | _ => simp [holdsLeft]

theorem holdsLeft_of_not_touchpad (ht : b.kind.isTouchpad = false) : b.holdsLeft = false := by
  cases b with
  | touchpad pad => cases ht
  | _ => rfl

theorem Grounded.of_not_touchpad (ht : b.kind.isTouchpad = false) : b.Grounded := by
  cases b with
  | touchpad pad => cases ht
  | _ => trivial

theorem Grounded.ofKind (k : ControlKind) : (ofKind k).Grounded := by
  cases k with
  | touchpad doubleTapDrag => exact fun _ => rfl
  | _ => trivial

/-- The control remains what it is, and accounts for what it does to the button. -/
structure Accounts (b : Behaviour) (r : Reaction Behaviour) : Prop where
  kind : r.state.kind = b.kind
  grounded : r.state.Grounded
  press : r.left? = some true → r.state.holdsLeft = true
  silent : r.left? = none → b.holdsLeft = true → r.state.holdsLeft = true

theorem Accounts.of_silent (ht : b.kind.isTouchpad = false) (hk : r.state.kind = b.kind)
    (hs : Silent r.requests) : b.Accounts r := by
  refine ⟨hk, .of_not_touchpad (hk ▸ ht), fun hp => ?_, fun _ hh => ?_⟩
  · rw [hs.left?] at hp
    cases hp
  · rw [holdsLeft_of_not_touchpad ht] at hh
    cases hh

theorem accounts_down (hg : b.Grounded) (hl : b.kind.pressesLeft = false) :
    b.Accounts (b.down sv site p spot d) := by
  have hk : (b.down sv site p spot d).state.kind = b.kind := by
    rcases b.down_cases sv site p spot d with ⟨hr, -⟩ | ht
    · rw [hr]; rfl
    · exact ht.kind
  cases ht : b.kind.isTouchpad with
  | false => exact .of_silent ht hk (silent_down ht hl)
  | true =>
    cases b with
    | touchpad pad =>
      have ha : pad.Accounts (pad.down sv site p spot d) := Touchpad.accounts_down hg
      exact ⟨hk, Touchpad.Grounded.down hg, ha.press, ha.silent⟩
    | _ => cases ht

theorem accounts_move (hg : b.Grounded) (hl : b.kind.pressesLeft = false) :
    b.Accounts (b.move sv site p spot d) := by
  have hk := (b.keeps_move sv site p spot d).1.kind
  cases ht : b.kind.isTouchpad with
  | false => exact .of_silent ht hk (silent_move ht hl)
  | true =>
    cases b with
    | touchpad pad =>
      have ha : pad.Accounts (pad.move sv site p spot d) := Touchpad.accounts_move
      exact ⟨hk, Touchpad.Grounded.move hg, ha.press, ha.silent⟩
    | _ => cases ht

theorem accounts_up (hg : b.Grounded) (hl : b.kind.pressesLeft = false) :
    b.Accounts (b.up site p d) := by
  have hk : (b.up site p d).state.kind = b.kind := by
    by_cases hp : b.pointer? = some p
    · exact (drops_up site d hp).kind
    · rw [up_of_ne site d hp]; rfl
  cases ht : b.kind.isTouchpad with
  | false => exact .of_silent ht hk (silent_up ht hl)
  | true =>
    cases b with
    | touchpad pad =>
      have ha : pad.Accounts (pad.up site p d) := Touchpad.accounts_up
      exact ⟨hk, Touchpad.Grounded.up hg, ha.press, ha.silent⟩
    | _ => cases ht

theorem accounts_timer (hg : b.Grounded) : b.Accounts (b.timer sv site d h) := by
  have hk := (b.timer_frame sv site d h).2.2
  cases b with
  | touchpad pad =>
    have ha : pad.Accounts (pad.timer sv site h d) := Touchpad.accounts_timer
    exact ⟨hk, Touchpad.Grounded.timer hg, ha.press, ha.silent⟩
  | _ => exact .of_silent rfl hk .nil

theorem accounts_resetToggle (hg : b.Grounded) (hl : b.kind.pressesLeft = false) :
    b.Accounts (b.resetToggle site d) := by
  have hk := (b.keeps_resetToggle site d).kind
  cases ht : b.kind.isTouchpad with
  | false => exact .of_silent ht hk (silent_resetToggle hl)
  | true =>
    cases b with
    | touchpad pad => exact ⟨hk, hg, nofun, fun _ hh => hh⟩
    | _ => cases ht

theorem left?_detach (hl : b.kind.pressesLeft = false) :
    (b.detach site d).left? = if b.holdsLeft then some false else none := by
  cases ht : b.kind.isTouchpad with
  | false =>
    rw [(silent_detach ht hl).left?, holdsLeft_of_not_touchpad ht]
    rfl
  | true =>
    cases b with
    | touchpad pad =>
      show (pad.detach site d).left? = if pad.holdsLeft then some false else none
      exact Touchpad.left?_detach
    | _ => cases ht

end Behaviour

/-! ## Surfaces -/

namespace Surface
variable {sv : Services} {s s' : Surface} {is out : List Issued} {pre post : List Control}
  {c : Control} {r : Reaction Behaviour} {cfgs : List ControlConfig}

/-- No control but a touchpad has the left button, and after a press some touchpad has still to
release it. -/
structure Unstuck (s : Surface) (out : List Issued) : Prop where
  quiet : ∀ c ∈ s.controls, c.behaviour.kind.pressesLeft = false
  grounded : ∀ c ∈ s.controls, c.behaviour.Grounded
  held : leftAfter out = some true → ∃ c ∈ s.controls, c.behaviour.holdsLeft = true

namespace Unstuck

theorem place (hs : s.controls = pre ++ c :: post) (hu : s.Unstuck out)
    (ha : c.behaviour.Accounts r) :
    (s.place pre post (c.react r)).Unstuck (out ++ (c.react r).issuedBy c.id) := by
  have hrest : ∀ c₀ ∈ pre ++ post, c₀ ∈ s.controls := fun _ hc₀ =>
    (mem_controls_iff hs).2 (.inr hc₀)
  refine ⟨fun c₀ hc₀ => ?_, fun c₀ hc₀ => ?_, fun hl => ?_⟩
  · rcases mem_middle_iff.1 hc₀ with rfl | hc₀
    · exact (congrArg ControlKind.pressesLeft ha.kind).trans (hu.quiet c (mem_controls hs))
    · exact hu.quiet c₀ (hrest c₀ hc₀)
  · rcases mem_middle_iff.1 hc₀ with rfl | hc₀
    · exact ha.grounded
    · exact hu.grounded c₀ (hrest c₀ hc₀)
  · -- the reaction has the last word on the button; if it says nothing, who held it still does
    rw [leftAfter_append, leftAfter_issuedBy] at hl
    have hleft : (c.react r).left? = r.left? := rfl
    rw [hleft] at hl
    cases hr : r.left? with
    | some down =>
      rw [hr, Option.some_or] at hl
      cases hl
      exact ⟨_, mem_middle_iff.2 (.inl rfl), ha.press hr⟩
    | none =>
      rw [hr, Option.none_or] at hl
      obtain ⟨c₀, hc₀, hh⟩ := hu.held hl
      rcases (mem_controls_iff hs).1 hc₀ with rfl | hc₀
      · exact ⟨_, mem_middle_iff.2 (.inl rfl), ha.silent hr hh⟩
      · exact ⟨c₀, mem_middle_iff.2 (.inr hc₀), hh⟩

theorem detach (hs : s.controls = pre ++ c :: post) (hu : s.Unstuck out) :
    let o := ({ s with controls := pre ++ post } : Surface).detach c
    o.state.Unstuck (out ++ o.issued) := by
  intro o
  have hrest : ∀ c₀ ∈ pre ++ post, c₀ ∈ s.controls := fun _ hc₀ =>
    (mem_controls_iff hs).2 (.inr hc₀)
  refine ⟨fun c₀ hc₀ => hu.quiet c₀ (hrest c₀ hc₀),
    fun c₀ hc₀ => hu.grounded c₀ (hrest c₀ hc₀), fun hl => ?_⟩
  have hd : leftAfter o.issued = if c.behaviour.holdsLeft then some false else none :=
    leftAfter_issuedBy _ |>.trans (Behaviour.left?_detach (hu.quiet c (mem_controls hs)))
  rw [leftAfter_append, hd] at hl
  cases hh : c.behaviour.holdsLeft with
  | true => simp [hh] at hl
  | false =>
    -- the control that goes is silent about the button, so another one must hold it
    have hl : leftAfter out = some true := by simpa [hh] using hl
    obtain ⟨c₀, hc₀, hh₀⟩ := hu.held hl
    rcases (mem_controls_iff hs).1 hc₀ with rfl | hc₀
    · rw [hh] at hh₀
      cases hh₀
    · exact ⟨c₀, hc₀, hh₀⟩

theorem mountAll (hq : ∀ cfg ∈ cfgs, cfg.kind.pressesLeft = false) (hu : s.Unstuck out) :
    (s.mountAll cfgs).Unstuck out := by
  have hmem {c : Control} (hc : c ∈ (s.mountAll cfgs).controls) :
      c ∈ s.controls ∨ ∃ cfg ∈ cfgs, c = .mount s.size cfg := by
    rw [controls_mountAll, List.mem_append, List.mem_map] at hc
    exact hc.imp_right fun ⟨cfg, hm, he⟩ => ⟨cfg, hm, he.symm⟩
  refine ⟨fun c hc => ?_, fun c hc => ?_, fun hl => ?_⟩
  · rcases hmem hc with hc | ⟨cfg, hm, rfl⟩
    · exact hu.quiet c hc
    · exact (congrArg _ (Behaviour.kind_ofKind cfg.kind)).trans (hq cfg hm)
  · rcases hmem hc with hc | ⟨cfg, -, rfl⟩
    · exact hu.grounded c hc
    · exact .ofKind cfg.kind
  · obtain ⟨c, hc, hh⟩ := hu.held hl
    refine ⟨c, ?_, hh⟩
    rw [controls_mountAll]
    exact List.mem_append_left _ hc

theorem motion (hm : Motion sv (fun _ => False) s is s') (hu : s.Unstuck out) :
    s'.Unstuck (out ++ is) := by
  have hnil (hu : s'.Unstuck out) : s'.Unstuck (out ++ []) := by rwa [List.append_nil]
  rcases hm with hi | hc
  · cases hi with
    | tick now => exact hnil ⟨hu.quiet, hu.grounded, hu.held⟩
    | @fire s₁ pre post c now t hp hs _ =>
      obtain ⟨q, -, rfl⟩ := popExpired?_eq_some hp
      have hu : (s.withTimers q).Unstuck out := ⟨hu.quiet, hu.grounded, hu.held⟩
      exact hu.place hs (Behaviour.accounts_timer (hu.grounded c (mem_controls hs)))
    | lapse hp _ =>
      obtain ⟨q, -, rfl⟩ := popExpired?_eq_some hp
      exact hnil ⟨hu.quiet, hu.grounded, hu.held⟩
    | contact h =>
      cases h with
      | @down pre post c p spot hs _ _ =>
        have hc : c ∈ s.controls := mem_controls hs
        have hu' : (s.place pre post (c.down sv s.size p s.desk spot)).Unstuck _ :=
          hu.place hs (Behaviour.accounts_down (hu.grounded c hc) (hu.quiet c hc))
        exact ⟨hu'.quiet, hu'.grounded, hu'.held⟩
      | @move pre post c p spot hs _ =>
        have hc : c ∈ s.controls := mem_controls hs
        exact hu.place hs (Behaviour.accounts_move (hu.grounded c hc) (hu.quiet c hc))
      | @up pre post c p hs _ =>
        have hc : c ∈ s.controls := mem_controls hs
        have hu' : (s.place pre post (c.up s.size p s.desk)).Unstuck _ :=
          hu.place hs (Behaviour.accounts_up (hu.grounded c hc) (hu.quiet c hc))
        exact ⟨hu'.quiet, hu'.grounded, hu'.held⟩
      | stray _ _ => exact hnil ⟨hu.quiet, hu.grounded, hu.held⟩
  · cases hc with
    | @reset pre post c hs =>
      have hc : c ∈ s.controls := mem_controls hs
      exact hu.place hs (Behaviour.accounts_resetToggle (hu.grounded c hc) (hu.quiet c hc))
    | detach hs => exact hu.detach hs
    | mount hK _ _ => exact hK.elim
    | resize _ => exact hnil ⟨hu.quiet, hu.grounded, hu.held⟩

theorem perform {op : Operation} (hq : ∀ cfg ∈ op.added, cfg.kind.pressesLeft = false)
    (hu : s.Unstuck out) : (op.perform sv s).state.Unstuck (out ++ (op.perform sv s).issued) := by
  refine perform_preserve_mounts op (fun hm hu => hu.motion hm) (fun hsub hu' => ?_)
    (fun hu => ⟨hu.quiet, hu.grounded, hu.held⟩) out hu
  refine hu'.mountAll fun cfg hcfg => ?_
  rcases List.mem_append.1 (hsub hcfg) with hcfg | hcfg
  · exact hq cfg hcfg
  · obtain ⟨c, hc, rfl⟩ := List.mem_map.1 hcfg
    exact hu.quiet c hc

theorem run {sts : List Step}
    (hq : ∀ op, .operation op ∈ sts → ∀ cfg ∈ op.added, cfg.kind.pressesLeft = false)
    (hu : s.Unstuck out) : (run sv sts s).state.Unstuck (out ++ (run sv sts s).issued) := by
  induction sts generalizing s out with
  | nil => simpa [Surface.run] using hu
  | cons st sts ih =>
    rw [Surface.run, ← List.append_assoc]
    refine ih (fun op hop => hq op (List.mem_cons_of_mem _ hop)) ?_
    cases st with
    | operation op => exact hu.perform (hq op List.mem_cons_self)
    | foreign call =>
      show Unstuck _ (out ++ [])
      rw [List.append_nil]
      exact ⟨hu.quiet, hu.grounded, hu.held⟩

end Unstuck

/-- The left button does not get stuck: with no other control for it, some touchpad on the surface
is in a drag or has a click outstanding whenever the last event for the button was a press. -/
theorem pressed_button_is_held (hacc : sv.accepting = true) (size : SurfaceSize) (cl : Claims)
    (sts : List Step)
    (hq : ∀ op, .operation op ∈ sts → ∀ cfg ∈ op.added, cfg.kind.pressesLeft = false) :
    let o := Surface.run sv sts ((empty size).withClaims cl)
    lastLeft? (sv.recorder.record (sv.outputs o.issued)).events = some true →
      ∃ c ∈ o.state.controls, ∃ pad, c.behaviour = .touchpad pad ∧
        (pad.phase.holdsButton = true ∨ pad.clickTimer?.isSome = true) := by
  intro o hl
  rw [lastLeft?_record hacc] at hl
  have hstart : ((empty size).withClaims cl).Unstuck [] :=
    ⟨fun _ hc => absurd hc List.not_mem_nil, fun _ hc => absurd hc List.not_mem_nil, nofun⟩
  have hu : o.state.Unstuck ([] ++ o.issued) := hstart.run hq
  obtain ⟨c, hc, hh⟩ := hu.held hl
  exact ⟨c, hc, Behaviour.holdsLeft_iff.1 hh⟩

/-- A tap on the left one of two touchpads, whose click is due at 200 and its release at 250, and a
contact on the right one in between. -/
def tapBesideContact : List Step :=
  [.operation (.replaceLayout
      [{ id := .ofNat 1, placement := ⟨0, 0, 0.5, 1⟩, kind := .touchpad true },
        { id := .ofNat 2, placement := ⟨0.5, 0, 0.5, 1⟩, kind := .touchpad false }]),
    .operation (.touch ⟨5, .down, ⟨10, 10⟩, 0⟩), .operation (.touch ⟨5, .up, ⟨10, 10⟩, 30⟩),
    .operation (.touch ⟨6, .down, ⟨60, 10⟩, 210⟩)]

theorem pressed_button_is_held_of_tap :
    let o := Surface.run {} tapBesideContact ((empty ⟨100, 100⟩).withClaims .empty)
    lastLeft? (({} : Services).recorder.record (({} : Services).outputs o.issued)).events =
        some true ∧
      ∃ c ∈ o.state.controls, ∃ pad, c.behaviour = .touchpad pad ∧
        (pad.phase.holdsButton = true ∨ pad.clickTimer?.isSome = true) := by
  have hq : ∀ op, .operation op ∈ tapBesideContact →
      ∀ cfg ∈ op.added, cfg.kind.pressesLeft = false := by
    simp [tapBesideContact, Operation.added, ControlKind.pressesLeft]
  have hl : lastLeft? (({} : Services).recorder.record (({} : Services).outputs
      (Surface.run {} tapBesideContact ((empty ⟨100, 100⟩).withClaims .empty)).issued)).events =
        some true := by
    decide +kernel
  exact ⟨hl, pressed_button_is_held rfl ⟨100, 100⟩ .empty tapBesideContact hq hl⟩

end Surface
end TouchOverlay
