import TouchOverlay.Proofs.Motion

/-!
# Runs of a surface

A run is a list of `Step`s: operations of the surface, and calls of others on the claims that it
shares with them. `Surface.run` performs them in order. `run_preserve` is the induction that every
law about runs goes through: what each elementary change and each foreign call keeps, and what
holds of a surface without controls, holds after every run.
-/

namespace TouchOverlay

inductive Operation
  | addControl (c : ControlConfig)
  | removeControl (id : ControlId)
  | replaceLayout (cs : List ControlConfig)
  | resize (size : SurfaceSize)
  | resetToggles
  | shutdown
  | advance (now : Millis)
  | touch (e : TouchEvent)

namespace Operation
variable (sv : Services)

/-- What an operation leaves, or why it is refused. -/
def apply (s : Surface) : Operation → Except LayoutError (Outcome Surface)
  | addControl c => (s.addControl c).map ({ state := · })
  | removeControl id => (s.removeControl id).map (·.2)
  | replaceLayout cs => s.replaceLayout cs
  | resize size => .ok (s.resize size)
  | resetToggles => .ok s.resetToggles
  | shutdown => .ok s.shutdown
  | advance now => .ok { state := (s.advance sv now).state, issued := (s.advance sv now).issued }
  | touch e => .ok { state := (s.touch sv e).state, issued := (s.touch sv e).issued }

/-- What an operation leaves. One that is refused changes nothing. -/
def perform (s : Surface) (op : Operation) : Outcome Surface :=
  match op.apply sv s with
  | .ok o => o
  | .error _ => { state := s }

def isInput : Operation → Bool
  | advance _ | touch _ => true
  | _ => false

/-- The controls that an operation adds to a layout. -/
def added : Operation → List ControlConfig
  | addControl c => [c]
  | replaceLayout cs => cs
  | _ => []

end Operation

/-- A call on the shared claims by somebody other than the surface. -/
inductive ClaimCall
  | claim (p : PointerId) (id : ControlId)
  | release (p : PointerId)
  | releaseIfOwner (p : PointerId) (id : ControlId)
  | clear

def ClaimCall.apply (cl : Claims) : ClaimCall → Claims
  | claim p id => (cl.claim p id).2
  | release p => cl.release p
  | releaseIfOwner p id => (cl.releaseIfOwner p id).2
  | clear => .empty

inductive Step
  | operation (op : Operation)
  | foreign (call : ClaimCall)

namespace Surface
variable (sv : Services)

def step (s : Surface) : Step → Outcome Surface
  | .operation op => op.perform sv s
  | .foreign call => { state := s.withClaims (call.apply s.claims) }

/-- The surface after some steps, and the requests of all of them. -/
def run : List Step → Surface → Outcome Surface
  | [], s => { state := s }
  | st :: sts, s =>
    let r := s.step sv st
    let r' := run sts r.state
    { r' with issued := r.issued ++ r'.issued }

/-- The identifiers of the controls, from bottom to top. -/
def ids (s : Surface) : List ControlId := s.controls.map (·.id)

variable {sv} {s s' : Surface} {is : List Issued} {K : ControlId → Prop}

theorem mem_ids {id : ControlId} : id ∈ s.ids ↔ ∃ c ∈ s.controls, c.id = id := List.mem_map

theorem run_singleton (st : Step) : run sv [st] s = s.step sv st := by simp [run]

theorem run_append (sts sts' : List Step) :
    run sv (sts ++ sts') s =
      { state := (run sv sts' (run sv sts s).state).state
        issued := (run sv sts s).issued ++ (run sv sts' (run sv sts s).state).issued } := by
  induction sts generalizing s with
  | nil => rfl
  | cons st sts ih =>
    rw [List.cons_append, run, ih]
    simp [run, List.append_assoc]

/-! ## Distinct identifiers -/

/-- What one item of a list has, if no other item has its key. -/
theorem exists_keyed_iff {α : Type} {key : α → ControlId} {P : α → Prop} {pre post : List α} {x : α}
    {k : ControlId} (hk : ∀ y ∈ pre ++ post, key y ≠ key x) :
    (∃ y ∈ pre ++ x :: post, key y = k ∧ P y) ↔
      k = key x ∧ P x ∨ k ≠ key x ∧ ∃ y ∈ pre ++ post, key y = k ∧ P y := by
  constructor
  · rintro ⟨y, hy, rfl, hp⟩
    rcases List.mem_cons.1 (List.perm_middle.mem_iff.1 hy) with rfl | hy
    · exact .inl ⟨rfl, hp⟩
    · exact .inr ⟨hk y hy, y, hy, rfl, hp⟩
  · rintro (⟨rfl, hp⟩ | ⟨-, y, hy, rfl, hp⟩)
    · exact ⟨x, by simp, rfl, hp⟩
    · exact ⟨y, List.perm_middle.mem_iff.2 (List.mem_cons_of_mem x hy), rfl, hp⟩

theorem nodup_ids_empty (size : SurfaceSize) (cl : Claims) :
    ((empty size).withClaims cl).ids.Nodup := .nil

theorem ne_of_nodup_ids {pre post : List Control} {c : Control} (hn : s.ids.Nodup)
    (hs : s.controls = pre ++ c :: post) : ∀ c' ∈ pre ++ post, c'.id ≠ c.id := by
  rw [ids, hs, (List.perm_middle.map _).nodup_iff, List.map_cons, List.nodup_cons] at hn
  exact fun c' hm he => hn.1 (List.mem_map.2 ⟨c', hm, he⟩)

theorem eq_of_nodup_ids {c c' : Control} (hn : s.ids.Nodup) (hc : c ∈ s.controls)
    (hc' : c' ∈ s.controls) (hid : c.id = c'.id) : c = c' := by
  obtain ⟨pre, post, hs⟩ := List.append_of_mem hc
  rcases (mem_controls_iff hs).1 hc' with rfl | hc'
  · rfl
  · exact absurd hid.symm (ne_of_nodup_ids hn hs c' hc')

theorem ids_of_place {pre post : List Control} {c : Control} {r : Reaction Control}
    (hs : s.controls = pre ++ c :: post) (hr : r.state.id = c.id) :
    (s.place pre post r).ids = s.ids := by
  simp [place, ids, hs, hr]

theorem ids_of_input (h : Input sv s is s') : s'.ids = s.ids := by
  cases h with
  | tick => rfl
  | fire hp hs _ =>
    obtain ⟨q, -, rfl⟩ := popExpired?_eq_some hp
    exact ids_of_place (s := s.withTimers q) hs rfl
  | lapse hp _ =>
    obtain ⟨q, -, rfl⟩ := popExpired?_eq_some hp
    rfl
  | contact h =>
    cases h with
    | down hs _ _ => exact ids_of_place hs rfl
    | move hs _ => exact ids_of_place hs rfl
    | up hs _ => exact ids_of_place hs rfl
    | stray => rfl

theorem nodup_ids_of_change (h : Change K s is s') (hn : s.ids.Nodup) : s'.ids.Nodup := by
  cases h with
  | reset hs => rwa [ids_of_place hs rfl]
  | @detach pre post c hs =>
    rw [ids, hs] at hn
    exact hn.sublist (((List.sublist_cons_self c post).append_left pre).map _)
  | @mount cfg _ hne _ =>
    have hi : (s.mount cfg).ids = s.ids ++ [cfg.id] := by simp [mount, ids, Control.mount]
    rw [hi, List.nodup_append]
    refine ⟨hn, by simp, fun a ha b hb => ?_⟩
    obtain ⟨c, hc, rfl⟩ := mem_ids.1 ha
    rw [List.mem_singleton.1 hb]
    exact hne c hc
  | resize => exact hn

theorem nodup_ids_of_motion (h : Motion sv K s is s') (hn : s.ids.Nodup) : s'.ids.Nodup := by
  rcases h with h | h
  · rwa [ids_of_input h]
  · exact nodup_ids_of_change h hn

/-! ## Operations as chains -/

/-- A control is added on top, or refused without a trace. -/
theorem perform_addControl_cases (sv : Services) (s : Surface) (cfg : ControlConfig) :
    (∀ c ∈ s.controls, c.id ≠ cfg.id) ∧ cfg.placement.isValid = true ∧
        (Operation.addControl cfg).perform sv s = { state := s.mount cfg } ∨
      (Operation.addControl cfg).perform sv s = { state := s } := by
  simp only [Operation.perform, Operation.apply, addControl]
  by_cases hd : s.controls.any (·.id = cfg.id) = true
  · exact .inr (by rw [if_pos hd]; rfl)
  · by_cases hv : cfg.placement.isValid = true
    · exact .inl ⟨by simpa using hd, hv, by rw [if_neg hd, if_pos hv]; rfl⟩
    · exact .inr (by rw [if_neg hd, if_neg hv]; rfl)

/-- A control that is on the surface leaves it; nothing happens if it is not. -/
theorem perform_removeControl_cases (sv : Services) (s : Surface) (id : ControlId) :
    (∃ pre c post, s.controls = pre ++ c :: post ∧ c.id = id ∧
        (Operation.removeControl id).perform sv s =
          ({ s with controls := pre ++ post } : Surface).detach c) ∨
      (∀ c ∈ s.controls, c.id ≠ id) ∧
        (Operation.removeControl id).perform sv s = { state := s } := by
  simp only [Operation.perform, Operation.apply, removeControl]
  cases h : s.control? id with
  | some c =>
    obtain ⟨hc, pre, post, hs, hpre⟩ := List.find?_eq_some_iff_append.1 h
    refine .inl ⟨pre, c, post, hs, of_decide_eq_true hc, ?_⟩
    have he : s.controls.eraseP (·.id = id) = pre ++ post := by
      rw [hs, List.eraseP_append_right _ (by simpa using hpre),
        List.eraseP_cons_of_pos (p := fun c : Control => decide (c.id = id)) hc]
    simp only [he, Except.map]
  | none =>
    refine .inr ⟨fun c hc => ?_, rfl⟩
    simpa using List.find?_eq_none.1 h c hc

/-- A layout without a fault replaces the present one; another is refused without a trace. -/
theorem perform_replaceLayout_cases (sv : Services) (s : Surface) (cs : List ControlConfig) :
    firstFault? [] cs = none ∧ (Operation.replaceLayout cs).perform sv s =
        { state := s.detachAll.state.mountAll cs, issued := s.detachAll.issued } ∨
      firstFault? [] cs ≠ none ∧ (Operation.replaceLayout cs).perform sv s = { state := s } := by
  simp only [Operation.perform, Operation.apply, replaceLayout]
  cases firstFault? [] cs with
  | none => exact .inl ⟨rfl, rfl⟩
  | some => exact .inr ⟨by simp, rfl⟩

theorem chain_remount {cfgs : List ControlConfig} {s₀ s₁ : Surface}
    (hn : (cfgs.map (·.id)).Nodup) (hv : ∀ cfg ∈ cfgs, cfg.placement.isValid = true)
    (hs : s₁.controls = []) (hc : Chain (Change (· ∈ (s₁.mountAll cfgs).ids)) s₀ is s₁) :
    Chain (Change (· ∈ (s₁.mountAll cfgs).ids)) s₀ is (s₁.mountAll cfgs) := by
  have hm : Chain (Change (· ∈ (s₁.mountAll cfgs).ids)) s₁ [] (s₁.mountAll cfgs) := by
    refine chain_mountAll hn fun cfg hm => ⟨?_, hv cfg hm, by simp [hs]⟩
    rw [ids, controls_mountAll, hs, List.nil_append, List.map_map]
    exact List.mem_map.2 ⟨cfg, hm, rfl⟩
  exact hc.andThen hm

theorem chain_resize (size : SurfaceSize) (hn : s.ids.Nodup) :
    Chain (Change (· ∈ (s.resize size).state.ids)) s (s.resize size).issued
      (s.resize size).state := by
  have hi : (s.controls.map Control.config).map (·.id) = s.ids := by
    rw [ids, List.map_map]; rfl
  have h : Chain (Change (· ∈ (s.resize size).state.ids)) s s.detachAll.issued
      { s.detachAll.state with size } :=
    chain_detachAll.andThen (.single (.resize controls_detachAll))
  exact chain_remount ((hi ▸ hn).sublist (List.filter_sublist.map _))
    (fun cfg hm => (List.mem_filter.1 hm).2) controls_detachAll h

/-- Every operation but a shutdown is a chain of elementary changes, which mounts only controls that
are there in the end. -/
theorem chain_perform {op : Operation} (hn : s.ids.Nodup) (hop : op ≠ .shutdown) :
    Chain (Motion sv (· ∈ (op.perform sv s).state.ids)) s (op.perform sv s).issued
      (op.perform sv s).state := by
  have hI {K s is s'} (h : Chain (Input sv) s is s') : Chain (Motion sv K) s is s' :=
    h.mono fun _ _ _ => .inl
  have hC {K s is s'} (h : Chain (Change K) s is s') : Chain (Motion sv K) s is s' :=
    h.mono fun _ _ _ => .inr
  cases op with
  | addControl cfg =>
    rcases perform_addControl_cases sv s cfg with ⟨hne, hv, h⟩ | h <;> rw [h]
    · exact hC (.single (.mount (by simp [mount, ids, Control.mount]) hne hv))
    · exact .nil
  | removeControl id =>
    rcases perform_removeControl_cases sv s id with ⟨pre, c, post, hs, -, h⟩ | ⟨-, h⟩ <;> rw [h]
    · exact hC (.single (.detach hs))
    · exact .nil
  | replaceLayout cs =>
    rcases perform_replaceLayout_cases sv s cs with ⟨hf, h⟩ | ⟨-, h⟩ <;> rw [h]
    · obtain ⟨hd, hall⟩ := firstFault?_eq_none hf
      exact hC (chain_remount hd (fun cfg hm => (hall cfg hm).2) controls_detachAll chain_detachAll)
    · exact .nil
  | resize size => exact hC (chain_resize size hn)
  | resetToggles => exact hC chain_resetToggles
  | shutdown => exact absurd rfl hop
  | advance now => exact hI chain_advance
  | touch e => exact hI (chain_touch e)

/-- What the elementary changes keep holds after an operation, if it survives the end of a shutdown,
which drops every claim. -/
theorem perform_preserve {P : Surface → List Issued → Prop} (op : Operation) (hn : s.ids.Nodup)
    (hm : ∀ {s₁ out is s₂}, s₁.ids.Nodup → Motion sv (· ∈ (op.perform sv s).state.ids) s₁ is s₂ →
      P s₁ out → P s₂ (out ++ is))
    (hc : ∀ {s₁ out}, s₁.controls = [] → P s₁ out → P (s₁.withClaims .empty) out)
    (out : List Issued) (hp : P s out) :
    P (op.perform sv s).state (out ++ (op.perform sv s).issued) := by
  -- distinct identifiers ride along, since the links need them
  have hchain {is s'} (h : Chain (Motion sv (· ∈ (op.perform sv s).state.ids)) s is s') :
      P s' (out ++ is) :=
    (h.preserve (P := fun s out => s.ids.Nodup ∧ P s out)
      (fun _ _ _ _ h hp => ⟨nodup_ids_of_motion h hp.1, hm hp.1 h hp.2⟩) out ⟨hn, hp⟩).2
  by_cases hop : op = .shutdown
  · subst hop
    exact hc controls_detachAll (hchain (chain_detachAll.mono fun _ _ _ => .inr))
  · exact hchain (chain_perform hn hop)

/-- The same for a property that has to know which controls are mounted, but not that identifiers
are distinct. An operation mounts controls last. -/
theorem perform_preserve_mounts {P : Surface → List Issued → Prop} (op : Operation)
    (hm : ∀ {s₁ out is s₂}, Motion sv (fun _ => False) s₁ is s₂ → P s₁ out → P s₂ (out ++ is))
    (hmount : ∀ {s₁ out cfgs}, cfgs ⊆ op.added ++ s.controls.map Control.config → P s₁ out →
      P (s₁.mountAll cfgs) out)
    (hc : ∀ {s₁ out}, P s₁ out → P (s₁.withClaims .empty) out)
    (out : List Issued) (hp : P s out) :
    P (op.perform sv s).state (out ++ (op.perform sv s).issued) := by
  have hI {is s'} (h : Chain (Input sv) s is s') : P s' (out ++ is) :=
    h.preserve (fun _ _ _ _ h => hm (.inl h)) out hp
  have hC {is s'} (h : Chain (Change fun _ => False) s is s') : P s' (out ++ is) :=
    h.preserve (fun _ _ _ _ h => hm (.inr h)) out hp
  have hnil : P s (out ++ []) := by simpa using hp
  cases op with
  | addControl cfg =>
    rcases perform_addControl_cases sv s cfg with ⟨-, -, h⟩ | h <;> rw [h]
    · have hcfg : [cfg] ⊆ [cfg] ++ s.controls.map Control.config := List.subset_append_left _ _
      exact hmount hcfg hnil
    · exact hnil
  | removeControl id =>
    rcases perform_removeControl_cases sv s id with ⟨pre, c, post, hs, -, h⟩ | ⟨-, h⟩ <;> rw [h]
    · exact hC (.single (.detach hs))
    · exact hnil
  | replaceLayout cs =>
    rcases perform_replaceLayout_cases sv s cs with ⟨-, h⟩ | ⟨-, h⟩ <;> rw [h]
    · exact hmount (List.subset_append_left _ _) (hC chain_detachAll)
    · exact hnil
  | resize size =>
    exact hmount (List.subset_append_of_subset_right _ List.filter_sublist.subset)
      (hC (chain_detachAll.andThen (.single (.resize controls_detachAll))))
  | resetToggles => exact hC chain_resetToggles
  | shutdown => exact hc (hC chain_detachAll)
  | advance now => exact hI chain_advance
  | touch e => exact hI (chain_touch e)

theorem nodup_ids_perform (op : Operation) (hn : s.ids.Nodup) : (op.perform sv s).state.ids.Nodup :=
  perform_preserve (P := fun s _ => s.ids.Nodup) op hn (fun hn h _ => nodup_ids_of_motion h hn)
    (fun _ hn => hn) [] hn

/-- What each change by touches and timers keeps holds after touches and advances. -/
theorem run_keeps_of_isInput {P : Surface → Prop}
    (hP : ∀ {s is s'}, Input sv s is s' → P s → P s') {ops : List Operation}
    (hops : ∀ op ∈ ops, op.isInput = true) (hp : P s) :
    P (run sv (ops.map .operation) s).state := by
  induction ops generalizing s with
  | nil => exact hp
  | cons op ops ih =>
    have hchain {is s'} (h : Chain (Input sv) s is s') : P s' :=
      h.keeps (fun _ _ _ hi hp => hP hi hp) hp
    have hop : P (op.perform sv s).state := by
      have hi := hops op List.mem_cons_self
      cases op with
      | advance now => exact hchain chain_advance
      | touch e => exact hchain (chain_touch e)
      | _ => cases hi
    exact ih (fun op hm => hops op (List.mem_cons_of_mem _ hm)) hop

/-- Touches and advances mount and remove no control. -/
theorem ids_run_of_isInput {ops : List Operation} (hops : ∀ op ∈ ops, op.isInput = true) :
    (run sv (ops.map .operation) s).state.ids = s.ids :=
  run_keeps_of_isInput (P := fun s' => s'.ids = s.ids)
    (fun hi he => (ids_of_input hi).trans he) hops rfl

theorem nodup_ids_step (st : Step) (hn : s.ids.Nodup) : (s.step sv st).state.ids.Nodup := by
  cases st with
  | operation op => exact nodup_ids_perform op hn
  | foreign => exact hn

theorem nodup_ids_run (sts : List Step) (hn : s.ids.Nodup) : (run sv sts s).state.ids.Nodup := by
  induction sts generalizing s with
  | nil => exact hn
  | cons st sts ih => exact ih (nodup_ids_step st hn)

/-- What elementary changes and foreign calls keep holds after every run. The property may speak of
the requests so far. -/
theorem run_preserve {P : Surface → List Issued → Prop}
    (hm : ∀ {K s out is s'}, s.ids.Nodup → Motion sv K s is s' → P s out → P s' (out ++ is))
    (hf : ∀ {s out} (call : ClaimCall), P s out → P (s.withClaims (call.apply s.claims)) out)
    (sts : List Step) (hn : s.ids.Nodup) (out : List Issued) (hp : P s out) :
    P (run sv sts s).state (out ++ (run sv sts s).issued) := by
  induction sts generalizing s out with
  | nil => simpa [run] using hp
  | cons st sts ih =>
    rw [run, ← List.append_assoc]
    refine ih (nodup_ids_step st hn) _ ?_
    cases st with
    | operation op => exact perform_preserve op hn hm (fun _ hp => hf .clear hp) out hp
    | foreign call =>
      show P _ (out ++ [])
      rw [List.append_nil]
      exact hf call hp

/-- The same for a property of the surface alone. -/
theorem run_keeps {P : Surface → Prop}
    (hm : ∀ {K s is s'}, s.ids.Nodup → Motion sv K s is s' → P s → P s')
    (hf : ∀ {s} (call : ClaimCall), P s → P (s.withClaims (call.apply s.claims)))
    (sts : List Step) (hn : s.ids.Nodup) (hp : P s) : P (run sv sts s).state :=
  run_preserve (P := fun s _ => P s) (fun hn h => hm hn h) hf sts hn [] hp

end Surface
end TouchOverlay
