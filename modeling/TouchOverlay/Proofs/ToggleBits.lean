import TouchOverlay.Proofs.HeldInputs
import TouchOverlay.Proofs.TimerOwnership

/-!
# The bit of a toggle button is the last value it has sent

A toggle button sends its bit whenever the bit changes, so what it has sent in its session
alternates, a press first, and the last value is the bit. `Button.Tracks` is this for the requests
of one session. A session ends with the removal of its control, and with every change of the layout
or the size, which mounts the controls anew. The end of a session sends nothing for a toggle button
(`requestsOf_of_ends`), also if the button is on, and the next session starts from a bit that is off
(`fresh_of_begins`); so a press can be left without its release.
-/

namespace TouchOverlay

/-- The value that a request hands to the mapper, if it dispatches an action. -/
def Request.dispatched? : Request → Option Bool
  | dispatch _ down _ => some down
  | _ => none

/-- The values dispatched for a control. -/
def sentBy (id : ControlId) (is : List Issued) : List Bool :=
  (requestsOf id is).filterMap Request.dispatched?

/-- Presses and releases in turn, a press first. -/
def alternating (n : Nat) : List Bool := (List.range n).map fun i => i % 2 = 0

section
variable {n : Nat}

theorem alternating_succ : alternating (n + 1) = alternating n ++ [decide (n % 2 = 0)] := by
  simp [alternating, List.range_succ]

theorem getLast?_alternating : (alternating n).getLast?.getD false = decide (n % 2 = 1) := by
  cases n with
  | zero => rfl
  | succ n =>
    rw [alternating_succ, List.getLast?_concat]
    simp only [Option.getD_some, decide_eq_decide]
    omega

end

/-! ## Buttons -/

namespace Button
variable {b : Button} {rs : List Request} {site : Site} {p : PointerId} {d : Desk}

/-- The button toggles a bit, and sends it. -/
def SendsBit (b : Button) : Prop := b.isToggle = true ∧ b.action.isTextInput = false

/-- What the button has sent so far alternates, and agrees with its bit. -/
structure Tracks (b : Button) (rs : List Request) : Prop where
  sent : ∃ n, rs.filterMap Request.dispatched? = alternating n ∧ b.toggled = decide (n % 2 = 1)
  net : b.action.isSwitch = true → net b.action rs = b.toggled.toNat

theorem Tracks.nil (h : b.toggled = false) : b.Tracks [] :=
  ⟨⟨0, rfl, h⟩, fun _ => by rw [h]; rfl⟩

theorem Tracks.keep (h : b.Tracks rs) {b' : Button} (ht : b'.toggled = b.toggled)
    (ha : b'.action = b.action) : b'.Tracks (rs ++ []) := by
  rw [List.append_nil]
  exact ⟨ht ▸ h.sent, ht ▸ ha ▸ h.net⟩

theorem Tracks.flip (h : b.Tracks rs) {b' : Button} {rs' : List Request}
    (ht : b'.toggled = !b.toggled) (ha : b'.action = b.action)
    (hs : rs'.filterMap Request.dispatched? = [!b.toggled])
    (hn : TouchOverlay.net b.action rs' = if b.toggled then -1 else 1) : b'.Tracks (rs ++ rs') := by
  obtain ⟨n, hsent, hbit⟩ := h.sent
  refine ⟨⟨n + 1, ?_, ?_⟩, fun hswitch => ?_⟩
  · rw [List.filterMap_append, hsent, hs, alternating_succ, hbit]
    congr 2
    rw [← decide_not, decide_eq_decide]
    omega
  · rw [ht, hbit, ← decide_not, decide_eq_decide]
    omega
  · rw [ha] at hswitch ⊢
    rw [net_append, h.net hswitch, hn, ht]
    cases b.toggled <;> rfl

theorem Tracks.down (hb : b.SendsBit) (h : b.Tracks rs) :
    (b.down site p d).state.Tracks (rs ++ (b.down site p d).requests) := by
  rcases b.down_cases site p d with ⟨hr, -⟩ | ⟨d', -, -, hr⟩ <;> rw [hr]
  · exact h.keep rfl rfl
  · have hreq : (b.press p).pressRequest site.anchor = .dispatch b.action (!b.toggled) site.anchor := by
      simp [pressRequest, press, hb.1, hb.2]
    refine h.flip (by simp [press, hb.1, hb.2]) rfl ?_ ?_
    · rw [hreq]
      rfl
    · rw [hreq]
      cases b.toggled <;> simp [Request.net]

theorem releaseRequests_of_isToggle (ht : b.isToggle = true) : b.releaseRequests site = [] := by
  simp [releaseRequests, holdsAction, ht]

theorem Tracks.up (hb : b.SendsBit) (h : b.Tracks rs) :
    (b.up site p d).state.Tracks (rs ++ (b.up site p d).requests) := by
  unfold Button.up
  split
  · rw [releaseRequests_of_isToggle hb.1]
    exact h.keep rfl rfl
  · exact h.keep rfl rfl

theorem Tracks.resetToggle (h : b.Tracks rs) :
    (b.resetToggle site d).state.Tracks (rs ++ (b.resetToggle site d).requests) := by
  unfold Button.resetToggle
  split
  · rename_i hon
    have hon : b.toggled = true := (Bool.and_eq_true_iff.1 hon).2
    refine h.flip (by rw [hon]; rfl) rfl ?_ ?_
    · rw [hon]
      rfl
    · rw [hon]
      simp [Request.net]
  · exact h.keep rfl rfl

theorem toggled_resetToggle (ht : b.isToggle = true) :
    (b.resetToggle site d).state.toggled = false := by
  unfold Button.resetToggle
  split
  · rfl
  · rename_i hoff
    show b.toggled = false
    simpa [ht] using hoff

/-- Whatever its bit, a toggle button sends nothing at the end of its session. -/
theorem requests_detach_of_isToggle (ht : b.isToggle = true) :
    (b.detach site d).requests = [] := by
  unfold Button.detach
  split
  · rw [releaseRequests_of_isToggle ht]
    exact ite_self []
  · rfl

end Button

/-! ## Sessions -/

namespace Behaviour
variable {sv : Services} {site : Site} {b : Behaviour} {r : Reaction Behaviour} {rs : List Request}

def Tracks (b : Behaviour) (rs : List Request) : Prop :=
  ∀ b', b = .button b' → b'.SendsBit → b'.Tracks rs

def button? : Behaviour → Option Button
  | .button b => some b
  | _ => none

theorem button?_eq_some {b' : Button} : b.button? = some b' ↔ b = .button b' := by
  cases b <;> simp [button?]

theorem Tracks.ofKind (k : ControlKind) : (ofKind k).Tracks [] := by
  intro b' hb _
  cases k with
  | button action isToggle =>
    cases hb
    exact .nil rfl
  | _ => cases hb

theorem Tracks.answer (h : b.Tracks rs) (hr : b.Answers sv site r) :
    r.state.Tracks (rs ++ r.requests) := by
  have hk := hr.kind
  intro b' hb' hsends
  rw [hb'] at hk
  cases b with
  | button b₀ =>
    have hka : b'.action = b₀.action := (ControlKind.button.inj hk).1
    have hkt : b'.isToggle = b₀.isToggle := (ControlKind.button.inj hk).2
    have hsends₀ : b₀.SendsBit := ⟨hkt ▸ hsends.1, hka ▸ hsends.2⟩
    have h₀ := h b₀ rfl hsends₀
    cases hr with
    | down p spot d =>
      cases hb'
      exact h₀.down hsends₀
    | move p spot d =>
      cases hb'
      exact h₀.keep rfl rfl
    | up p d =>
      cases hb'
      exact h₀.up hsends₀
    | timer h d =>
      cases hb'
      exact h₀.keep rfl rfl
    | resetToggle d =>
      cases hb'
      exact h₀.resetToggle
  | _ => cases hk

end Behaviour

instance (id : ControlId) : DecidablePred (Operation.Ends id)
  | .removeControl id' => inferInstanceAs (Decidable (id' = id))
  | .replaceLayout cs => inferInstanceAs (Decidable (Surface.firstFault? [] cs = none))
  | .resize _ | .shutdown => .isTrue trivial
  | .addControl _ | .resetToggles | .advance _ | .touch _ => .isFalse False.elim

def Step.Ends (id : ControlId) : Step → Prop
  | operation op => op.Ends id
  | foreign _ => False

instance (id : ControlId) : DecidablePred (Step.Ends id)
  | .operation op => inferInstanceAs (Decidable (op.Ends id))
  | .foreign _ => .isFalse False.elim

namespace Surface
variable {sv : Services} {s s' : Surface} {id : ControlId} {cs cs' : List Control}
  {is out : List Issued} {size : SurfaceSize}

/-- What is asked for in a run after the last session of a control has ended, `out` having been
asked for before. -/
def lastSession (sv : Services) (id : ControlId) : List Step → Surface → List Issued → List Issued
  | [], _, out => out
  | st :: sts, s, out =>
    let r := s.step sv st
    lastSession sv id sts r.state (if st.Ends id then [] else out ++ r.issued)

theorem ids_answered (h : Answered sv size cs is cs') : cs'.map (·.id) = cs.map (·.id) := by
  cases h with
  | none => rfl
  | answer hr =>
    simp only [List.map_append, List.map_cons]
    rfl

theorem ids_of_chain (h : Chain (Answering sv) s is s') : s'.ids = s.ids :=
  h.keeps (P := fun s₁ => s₁.ids = s.ids) (fun _ _ _ hr he => (ids_answered hr).trans he) rfl

/-- Touches, timers and resets are for the controls that are there. -/
theorem chain_answering {op : Operation} (h : op.isInput = true ∨ op = .resetToggles) :
    Chain (Answering sv) s (op.perform sv s).issued (op.perform sv s).state := by
  rcases h with h | rfl
  · cases op with
    | advance now => exact chain_advance.mono fun _ _ _ => answered_input
    | touch e => exact (chain_touch e).mono fun _ _ _ => answered_input
    | _ => cases h
  · exact chain_resetEach (fun hs => answered_place hs (.resetToggle _)) [] s.desk

/-! ## The ends of sessions -/

/-- Nothing is sent for a control that has nothing to send at the end of its session. -/
theorem requestsOf_detachEach
    (h : ∀ c ∈ cs, c.id = id → ∀ size d, (c.detach size d).requests = []) :
    requestsOf id (detachEach cs s).issued = [] := by
  induction cs generalizing s with
  | nil => rfl
  | cons c cs ih =>
    obtain ⟨hc, hcs⟩ := List.forall_mem_cons.1 h
    have hhead : requestsOf id (s.detach c).issued = [] := by
      by_cases hid : c.id = id
      · rw [← hid]
        exact (requestsOf_issuedBy _).trans (hc hid s.size s.desk)
      · exact requestsOf_issuedBy_of_ne hid _
    rw [detachEach, requestsOf_append, hhead, ih hcs, List.append_nil]

theorem requestsOf_of_ends {op : Operation} {c : Control} (hn : s.ids.Nodup) (hc : c ∈ s.controls)
    (he : op.Ends c.id) (hd : ∀ size d, (c.detach size d).requests = []) :
    requestsOf c.id (op.perform sv s).issued = [] := by
  have hown : ∀ c' ∈ s.controls, c'.id = c.id → ∀ size d, (c'.detach size d).requests = [] :=
    fun c' hc' hid => eq_of_nodup_ids hn hc' hc hid ▸ hd
  have hall : requestsOf c.id s.detachAll.issued = [] := requestsOf_detachEach hown
  cases op with
  | removeControl id' =>
    rcases perform_removeControl_cases sv s id' with ⟨pre, c', post, hs, hid, h⟩ | ⟨-, h⟩ <;> rw [h]
    · have hid' : c'.id = c.id := hid.trans he
      rw [← hid']
      exact (requestsOf_issuedBy _).trans (hown c' (hs ▸ by simp) hid' s.size s.desk)
    · rfl
  | replaceLayout cs =>
    rcases perform_replaceLayout_cases sv s cs with ⟨-, h⟩ | ⟨-, h⟩ <;> rw [h]
    · exact hall
    · rfl
  | resize size => exact hall
  | shutdown => exact hall
  | _ => exact he.elim

/-- A control that was not there before an operation, or whose session the operation has ended, has
a new session. -/
theorem fresh_of_begins {op : Operation} {c : Control} (hn : s.ids.Nodup)
    (hc : c ∈ (op.perform sv s).state.controls) (hb : c.id ∉ s.ids ∨ op.Ends c.id) :
    ∃ k, c.behaviour = .ofKind k := by
  by_cases he : op.Ends c.id
  · exact fresh_of_ends hn he c hc rfl
  · have hnew : c.id ∉ s.ids := hb.resolve_right he
    have hold : c ∉ s.controls := fun hc => hnew (mem_ids.2 ⟨c, hc, rfl⟩)
    have hkept (h : (op.perform sv s).state.ids = s.ids) : ∃ k, c.behaviour = .ofKind k :=
      absurd (h ▸ mem_ids.2 ⟨c, hc, rfl⟩) hnew
    cases op with
    | addControl cfg =>
      rcases perform_addControl_cases sv s cfg with ⟨-, -, h⟩ | h <;> rw [h] at hc
      · rcases List.mem_append.1 hc with hc | hc
        · exact absurd hc hold
        · rw [List.mem_singleton.1 hc]
          exact ⟨cfg.kind, rfl⟩
      · exact absurd hc hold
    | removeControl id' =>
      rcases perform_removeControl_cases sv s id' with ⟨pre, c', post, hs, -, h⟩ | ⟨-, h⟩ <;>
        rw [h] at hc
      · exact absurd ((mem_controls_iff hs).2 (.inr hc)) hold
      · exact absurd hc hold
    | replaceLayout cs =>
      rcases perform_replaceLayout_cases sv s cs with ⟨hf, -⟩ | ⟨-, h⟩
      · exact absurd hf he
      · rw [h] at hc
        exact absurd hc hold
    | resize _ => exact absurd trivial he
    | shutdown => exact absurd trivial he
    | resetToggles => exact hkept (ids_of_chain (chain_answering (.inr rfl)))
    | advance now => exact hkept (ids_of_chain (chain_answering (.inl rfl)))
    | touch e => exact hkept (ids_of_chain (chain_answering (.inl rfl)))

/-! ## Tracking -/

/-- The control tracks what it has asked for, and nobody else asks for anything in its name. -/
structure Tracked (id : ControlId) (cs : List Control) (out : List Issued) : Prop where
  tracks : ∀ c ∈ cs, c.id = id → c.behaviour.Tracks (requestsOf id out)
  silent : (∀ c ∈ cs, c.id ≠ id) → requestsOf id out = []

namespace Tracked
variable {pre post : List Control} {c : Control}

/-- What other controls do, and what becomes of them, is of no account. -/
theorem congr (hr : requestsOf id is = []) (hm : ∀ c, c.id = id → (c ∈ cs' ↔ c ∈ cs))
    (ht : Tracked id cs out) : Tracked id cs' (out ++ is) := by
  have hout : requestsOf id (out ++ is) = requestsOf id out := by
    rw [requestsOf_append, hr, List.append_nil]
  refine ⟨fun c hc hid => ?_, fun hno => ?_⟩
  · rw [hout]
    exact ht.tracks c ((hm c hid).1 hc) hid
  · rw [hout]
    exact ht.silent fun c hc hid => hno c ((hm c hid).2 hc) hid

theorem answered (hn : (cs.map (·.id)).Nodup) (h : Answered sv size cs is cs')
    (ht : Tracked id cs out) : Tracked id cs' (out ++ is) := by
  cases h with
  | none => rwa [List.append_nil]
  | @answer pre post c r hr =>
    have hne : ∀ c' ∈ pre ++ post, c'.id ≠ c.id :=
      ne_of_nodup_ids (s := { size, controls := pre ++ c :: post }) hn rfl
    by_cases hid : c.id = id
    · subst hid
      refine ⟨fun c' hc' hid' => ?_, fun hno => ?_⟩
      · rcases mem_middle_iff.1 hc' with rfl | hc'
        · rw [requestsOf_append]
          have hreq : requestsOf c.id ((c.react r).issuedBy c.id) = r.requests :=
            requestsOf_issuedBy (c.react r)
          show r.state.Tracks (_ ++ requestsOf c.id ((c.react r).issuedBy c.id))
          rw [hreq]
          exact (ht.tracks c (by simp) rfl).answer hr
        · exact absurd hid' (hne c' hc')
      · exact absurd rfl (hno (c.react r).state (by simp))
    · refine ht.congr (requestsOf_issuedBy_of_ne hid _) fun c' hid' => ?_
      have hc : c' ≠ c := fun he => hid (he ▸ hid')
      have hc' : c' ≠ (c.react r).state := fun he => by
        rw [he] at hid'
        exact hid hid'
      simp only [mem_middle_iff, hc, hc', false_or]

theorem mount {cfg : ControlConfig} (hne : ∀ c ∈ cs, c.id ≠ cfg.id) (ht : Tracked id cs out) :
    Tracked id (cs ++ [.mount size cfg]) out := by
  by_cases hid : cfg.id = id
  · have hno : ∀ c ∈ cs, c.id ≠ id := hid ▸ hne
    refine ⟨fun c hc hcid => ?_, fun hno' => absurd hid (hno' (.mount size cfg) (by simp))⟩
    rw [ht.silent hno]
    rcases List.mem_append.1 hc with hc | hc
    · exact absurd hcid (hno c hc)
    · rw [List.mem_singleton.1 hc]
      exact .ofKind cfg.kind
  · have hm : ∀ c : Control, c.id = id → (c ∈ cs ++ [.mount size cfg] ↔ c ∈ cs) := fun c hcid => by
      have hc : c ≠ .mount size cfg := fun he => by
        rw [he] at hcid
        exact hid hcid
      simp [hc]
    have h : Tracked id (cs ++ [.mount size cfg]) (out ++ []) := ht.congr rfl hm
    rwa [List.append_nil] at h

theorem chain (h : Chain (Answering sv) s is s') (hn : s.ids.Nodup)
    (ht : Tracked id s.controls out) : Tracked id s'.controls (out ++ is) := by
  refine (h.preserve (P := fun s out => s.ids.Nodup ∧ Tracked id s.controls out) ?_ out ⟨hn, ht⟩).2
  intro s out is s' h ht
  have hi : s'.ids = s.ids := ids_answered h
  exact ⟨hi ▸ ht.1, ht.2.answered ht.1 h⟩

/-- An operation that leaves the session alone. -/
theorem perform {op : Operation} (hn : s.ids.Nodup) (he : ¬ op.Ends id)
    (ht : Tracked id s.controls out) :
    Tracked id (op.perform sv s).state.controls (out ++ (op.perform sv s).issued) := by
  have hnil : Tracked id s.controls (out ++ []) := by rwa [List.append_nil]
  cases op with
  | addControl cfg =>
    rcases perform_addControl_cases sv s cfg with ⟨hne, -, h⟩ | h <;> rw [h]
    · exact hnil.mount hne
    · exact hnil
  | removeControl id' =>
    rcases perform_removeControl_cases sv s id' with ⟨pre, c, post, hs, rfl, h⟩ | ⟨-, h⟩ <;> rw [h]
    · have he : c.id ≠ id := he
      refine ht.congr (requestsOf_issuedBy_of_ne he _) fun c' hid' => ?_
      have hc : c' ≠ c := fun hcc => he (hcc ▸ hid')
      rw [mem_controls_iff hs]
      simp only [hc, false_or]
      rfl
    · exact hnil
  | replaceLayout cfgs =>
    rcases perform_replaceLayout_cases sv s cfgs with ⟨hf, -⟩ | ⟨-, h⟩
    · exact absurd hf he
    · rw [h]
      exact hnil
  | resize _ => exact absurd trivial he
  | shutdown => exact absurd trivial he
  | resetToggles => exact chain (chain_answering (.inr rfl)) hn ht
  | advance now => exact chain (chain_answering (.inl rfl)) hn ht
  | touch e => exact chain (chain_answering (.inl rfl)) hn ht

/-- A session that has ended leaves nothing to keep track of. -/
theorem of_ends {op : Operation} (hn : s.ids.Nodup) (he : op.Ends id) :
    Tracked id (op.perform sv s).state.controls [] := by
  refine ⟨fun c hc hid => ?_, fun _ => rfl⟩
  obtain ⟨k, hk⟩ := fresh_of_ends hn he c hc hid
  rw [hk]
  exact .ofKind k

theorem run (sts : List Step) (hn : s.ids.Nodup) (ht : Tracked id s.controls out) :
    Tracked id (run sv sts s).state.controls (lastSession sv id sts s out) := by
  induction sts generalizing s out with
  | nil => exact ht
  | cons st sts ih =>
    refine ih (nodup_ids_step st hn) ?_
    cases st with
    | foreign call =>
      show Tracked id s.controls (out ++ [])
      rwa [List.append_nil]
    | operation op =>
      by_cases he : op.Ends id
      · show Tracked id (op.perform sv s).state.controls (if op.Ends id then [] else _)
        rw [if_pos he]
        exact of_ends hn he
      · show Tracked id (op.perform sv s).state.controls (if op.Ends id then [] else _)
        rw [if_neg he]
        exact ht.perform hn he

end Tracked

theorem mem_resetEach {d : Desk} {c : Control} (hc : c ∈ (resetEach size cs d).state.1) :
    ∃ c₀ ∈ cs, ∃ d', c = (c₀.resetToggle size d').state := by
  induction cs generalizing d with
  | nil => cases hc
  | cons c₀ cs ih =>
    rcases List.mem_cons.1 hc with rfl | hc
    · exact ⟨c₀, List.mem_cons_self, d, rfl⟩
    · obtain ⟨c₁, hc₁, d', rfl⟩ := ih hc
      exact ⟨c₁, List.mem_cons_of_mem _ hc₁, d', rfl⟩

theorem toggled_resetToggles {c : Control} {b : Button} (hc : c ∈ s.resetToggles.state.controls)
    (hb : c.behaviour = .button b) (ht : b.isToggle = true) : b.toggled = false := by
  obtain ⟨c₀, -, d, rfl⟩ := mem_resetEach hc
  have hr : (c₀.behaviour.resetToggle (c₀.site s.size) d).state = .button b := hb
  cases hc₀ : c₀.behaviour with
  | button b₀ =>
    rw [hc₀] at hr
    have hr : (b₀.resetToggle (c₀.site s.size) d).state = b := Behaviour.button.inj hr
    have hk : b.isToggle = b₀.isToggle := by
      rw [← hr]
      unfold Button.resetToggle
      split <;> rfl
    rw [← hr]
    exact Button.toggled_resetToggle (hk ▸ ht)
  | _ =>
    rw [hc₀] at hr
    cases hr

/-- **The bit of a toggle button is the last value it has sent** in the session it is in, and what
it has sent there alternates, a press first. After the toggle bits have been reset, what it has
pressed in that session it has released as often. Whatever ends the session of a toggle button, a
removal, a new layout or size, or the shutdown, sends nothing for it, on or off, and every session
starts with the bit off. -/
theorem toggle_bit_is_last_sent (sv : Services) (size : SurfaceSize) (cl : Claims)
    (sts : List Step) :
    let start := (empty size).withClaims cl
    let s := (Surface.run sv sts start).state
    (∀ c ∈ s.controls, ∀ b, c.behaviour = .button b → b.SendsBit →
      let sent := sentBy c.id (lastSession sv c.id sts start [])
      b.toggled = sent.getLast?.getD false ∧ sent = alternating sent.length) ∧
    (let reset := sts ++ [.operation .resetToggles]
    ∀ c ∈ (Surface.run sv reset start).state.controls, ∀ b, c.behaviour = .button b → b.SendsBit →
      let own := sv.events (requestsOf c.id (lastSession sv c.id reset start []))
      b.toggled = false ∧ (b.action.isSwitch = true →
        own.countP (OutputEvent.switches b.action true) =
          own.countP (OutputEvent.switches b.action false))) ∧
    ∀ op : Operation,
      (∀ c ∈ s.controls, ∀ b, c.behaviour = .button b → b.isToggle = true → op.Ends c.id →
        requestsOf c.id (op.perform sv s).issued = []) ∧
      ∀ c ∈ (op.perform sv s).state.controls, c.id ∉ s.ids ∨ op.Ends c.id →
        ∀ b, c.behaviour = .button b → b.toggled = false := by
  intro start s
  have htracks (sts : List Step) : ∀ c ∈ (Surface.run sv sts start).state.controls, ∀ b,
      c.behaviour = .button b → b.SendsBit →
        b.Tracks (requestsOf c.id (lastSession sv c.id sts start [])) := fun c hc b hb hsends => by
    have hstart : Tracked c.id start.controls [] :=
      ⟨fun _ hc => absurd hc List.not_mem_nil, fun _ => rfl⟩
    exact (hstart.run sts (nodup_ids_empty size cl)).tracks c hc rfl b hb hsends
  have hn : s.ids.Nodup := nodup_ids_run sts (nodup_ids_empty size cl)
  refine ⟨fun c hc b hb hsends => ?_, ?_,
    fun op => ⟨fun c hc b hb ht he => ?_, fun c hc hnew b hb => ?_⟩⟩
  · obtain ⟨n, hsent, hbit⟩ := (htracks sts c hc b hb hsends).sent
    have hlen : (alternating n).length = n := by simp [alternating]
    intro sent
    have hsent : sent = alternating n := hsent
    rw [hsent, getLast?_alternating, hlen]
    exact ⟨hbit, rfl⟩
  · intro reset c hc b hb hsends own
    have hoff : b.toggled = false := by
      have hrun : (Surface.run sv reset start).state = s.resetToggles.state := by
        rw [run_append, run_singleton]
        rfl
      rw [hrun] at hc
      exact toggled_resetToggles hc hb hsends.1
    refine ⟨hoff, fun hswitch => ?_⟩
    have hnet := (htracks reset c hc b hb hsends).net hswitch
    have hcount := countP_events sv (requestsOf c.id (lastSession sv c.id reset start [])) hswitch
    rw [hnet, hoff] at hcount
    exact Int.ofNat_inj.1 (hcount.trans (Int.add_zero _))
  · refine requestsOf_of_ends hn hc he fun size d => ?_
    have hdetach : (c.detach size d).requests = (c.behaviour.detach (c.site size) d).requests := rfl
    rw [hdetach, hb]
    exact Button.requests_detach_of_isToggle ht
  · obtain ⟨k, hk⟩ := fresh_of_begins hn hc hnew
    rw [hk] at hb
    cases k with
    | button action isToggle =>
      cases hb
      rfl
    | _ => cases hb

/-- A toggle button is switched on, and then the surface gets another size. -/
def toggledBeforeResize : List Step :=
  [.operation (.addControl
      { id := .ofNat 1, placement := ⟨0, 0, 1, 1⟩, kind := .button (.key 30) true }),
    .operation (.touch ⟨5, .down, ⟨10, 10⟩, 0⟩), .operation (.touch ⟨5, .up, ⟨10, 10⟩, 10⟩),
    .operation (.resize ⟨200, 200⟩)]

/-- The last value that was sent for the control before the resize is a press. The control is still
there, but its bit is off, and a reset of the toggle bits releases nothing. -/
theorem toggled_lost_on_resize :
    let o := Surface.run {} toggledBeforeResize ((empty ⟨100, 100⟩).withClaims .empty)
    (∃ c ∈ o.state.controls, ∃ b, c.behaviour = .button b ∧ b.SendsBit ∧ b.toggled = false ∧
      (sentBy c.id o.issued).getLast?.getD false = true) ∧
    let events := ({} : Services).events ((o.issued ++ o.state.resetToggles.issued).map (·.request))
    events.countP (OutputEvent.switches (.key 30) true) = 1 ∧
      events.countP (OutputEvent.switches (.key 30) false) = 0 := by
  intro o
  have hany : (o.state.controls.any fun c => c.behaviour.button?.any fun b =>
      b.isToggle && !b.action.isTextInput && !b.toggled &&
        (sentBy c.id o.issued).getLast?.getD false) = true := by decide +kernel
  obtain ⟨c, hc, h⟩ := List.any_eq_true.1 hany
  obtain ⟨b, hb, h⟩ := (Option.any_eq_true _ _).1 h
  simp only [Bool.and_eq_true, Bool.not_eq_true'] at h
  exact ⟨⟨c, hc, b, Behaviour.button?_eq_some.1 hb, ⟨h.1.1.1, h.1.1.2⟩, h.1.2, h.2⟩,
    by decide +kernel⟩

end Surface
end TouchOverlay
