import TouchOverlay.Proofs.Run

/-!
# Claims shared with others

A surface and others work on one table of claims. `Protocol F` is the invariant for others who use
identifiers that satisfy `F`: a control has claimed exactly the pointer of its contact, and every
claim is that of a mounted control or of others. Each elementary change touches the claims of one
control only (`Protocol.place`, `Protocol.change`), so the claims of others survive it.
-/

namespace TouchOverlay

/-! ## Taking and dropping -/

namespace Claims
variable {c c' : Claims} {p q : PointerId} {i : ControlId} {passThrough : Bool}

theorem take?_eq_some (h : c.take? p i passThrough = some c') :
    (c.owner? p = none ∨ c.owner? p = some i) ∧
      ∀ q, c'.owner? q = if passThrough = false ∧ p = q then some i else c.owner? q := by
  unfold take? at h
  cases passThrough with
  | true =>
    rw [if_pos rfl] at h
    split at h
    · rename_i ha
      cases h
      refine ⟨?_, fun q => by simp⟩
      cases ho : c.owner? p with
      | none => exact .inl rfl
      | some j => exact .inr (by simpa [ho] using ha)
    · cases h
  | false =>
    rw [if_neg Bool.false_ne_true] at h
    split at h
    · rename_i c₁ hc
      cases h
      have hfree := claim_fst.1 (congrArg Prod.fst hc)
      refine ⟨hfree, fun q => ?_⟩
      have ho := owner?_claim (c := c) (p := p) (q := q) (i := i)
      rw [hc] at ho
      rw [ho]
      rcases hfree with hn | hs <;> simp [*]
    · cases h

theorem take?_ne_none (h : c.owner? p = none) : c.take? p i passThrough ≠ none := by
  unfold take? claim
  cases passThrough <;> simp [h]

theorem take?_ne_none_iff :
    c.take? p i passThrough ≠ none ↔ c.owner? p = none ∨ c.owner? p = some i := by
  constructor
  · intro h
    obtain ⟨c', hc'⟩ := Option.ne_none_iff_exists'.1 h
    exact (take?_eq_some hc').1
  · rintro (h | h)
    · exact take?_ne_none h
    · unfold take? claim
      cases passThrough <;> simp [h]

theorem owner?_drop : (c.drop p i passThrough).owner? q =
    if passThrough = false ∧ p = q ∧ c.owner? p = some i then none else c.owner? q := by
  unfold drop
  cases passThrough <;> simp [owner?_releaseIfOwner]

end Claims

/-- A call on the claims in the name of an identifier that satisfies `F`. -/
def ClaimCall.InName (F : ControlId → Prop) : ClaimCall → Prop
  | claim _ x => F x
  | releaseIfOwner _ x => F x
  | _ => False

instance (F : ControlId → Prop) [DecidablePred F] : DecidablePred (ClaimCall.InName F)
  | .claim _ x => inferInstanceAs (Decidable (F x))
  | .releaseIfOwner _ x => inferInstanceAs (Decidable (F x))
  | .release _ => isFalse id
  | .clear => isFalse id

/-- The calls of others among some steps. -/
def foreignCalls (sts : List Step) : List ClaimCall :=
  sts.filterMap fun
    | .foreign call => some call
    | .operation _ => none

theorem mem_foreignCalls {call : ClaimCall} {sts : List Step} :
    call ∈ foreignCalls sts ↔ .foreign call ∈ sts := by
  rw [foreignCalls, List.mem_filterMap]
  constructor
  · rintro ⟨st, hst, he⟩
    cases st with
    | operation op => cases he
    | foreign call' => exact Option.some.inj he ▸ hst
  · exact fun h => ⟨.foreign call, h, rfl⟩

namespace Surface

/-- What the claims on the pointers are, if others use identifiers that satisfy `F`. -/
structure Protocol (F : ControlId → Prop) (s : Surface) : Prop where
  own : ∀ c ∈ s.controls, ∀ p,
    s.claims.owner? p = some c.id ↔ c.passThrough = false ∧ c.pointer? = some p
  known : ∀ p i, s.claims.owner? p = some i → F i ∨ i ∈ s.ids
  apart : ∀ i ∈ s.ids, ¬ F i

/-- The protocol goes on, and every claim of others is as it was. -/
def Leads (F : ControlId → Prop) (s s' : Surface) : Prop :=
  s'.Protocol F ∧ ∀ p x, F x → (s'.claims.owner? p = some x ↔ s.claims.owner? p = some x)

variable {sv : Services} {s s' s'' : Surface} {is : List Issued} {K F : ControlId → Prop}
  {c : Control} {pre post : List Control} {p q : PointerId} {i : ControlId}

theorem Leads.trans (h : s.Leads F s') (h' : s'.Leads F s'') : s.Leads F s'' :=
  ⟨h'.1, fun p x hx => (h'.2 p x hx).trans (h.2 p x hx)⟩

/-- The others claim pointers for identifiers that are not on the surface: a claim in the name of a
control is that of its contact. -/
def NamesApart (s : Surface) : Prop :=
  ∀ c ∈ s.controls, ∀ p,
    s.claims.owner? p = some c.id → c.passThrough = false ∧ c.pointer? = some p

namespace Protocol

theorem namesApart (hp : s.Protocol F) : s.NamesApart := fun c hc p => (hp.own c hc p).1

theorem not_of_mem (hp : s.Protocol F) (hc : c ∈ s.controls) : ¬ F c.id :=
  hp.apart c.id (mem_ids.2 ⟨c, hc, rfl⟩)

/-- One control has reacted, and only its claims have changed. -/
theorem place {r : Reaction Control} {routes : PointerMap} (hn : s.ids.Nodup)
    (hs : s.controls = pre ++ c :: post) (hp : s.Protocol F) (hid : r.state.id = c.id)
    (hpt : r.state.passThrough = c.passThrough)
    (hself : ∀ p, r.desk.claims.owner? p = some c.id ↔
      c.passThrough = false ∧ r.state.pointer? = some p)
    (hothers : ∀ p i, i ≠ c.id →
      (r.desk.claims.owner? p = some i ↔ s.claims.owner? p = some i)) :
    s.Leads F { s.place pre post r with routes } := by
  have hc : c ∈ s.controls := mem_controls hs
  have hids : ({ s.place pre post r with routes } : Surface).ids = s.ids := ids_of_place hs hid
  refine ⟨⟨fun c' hc' p => ?_, fun p i ho => ?_, fun i hi => hp.apart i (hids ▸ hi)⟩,
    fun p x hx => hothers p x fun he => hp.not_of_mem hc (he ▸ hx)⟩
  · rcases mem_middle_iff.1 hc' with rfl | hc'
    · rw [hid, hpt]
      exact hself p
    · have hm : c' ∈ s.controls := (mem_controls_iff hs).2 (.inr hc')
      exact (hothers p c'.id (ne_of_nodup_ids hn hs c' hc')).trans (hp.own c' hm p)
  · rw [hids]
    by_cases hi : i = c.id
    · exact .inr (mem_ids.2 ⟨c, hc, hi.symm⟩)
    · exact hp.known p i ((hothers p i hi).1 ho)

/-- A reaction that leaves the contact and the claims as they are. -/
theorem place_of_keeps {r : Reaction Control} (hn : s.ids.Nodup)
    (hs : s.controls = pre ++ c :: post) (hp : s.Protocol F) (hid : r.state.id = c.id)
    (hpt : r.state.passThrough = c.passThrough) (hk : r.state.pointer? = c.pointer?)
    (hcl : r.desk.claims = s.claims) : s.Leads F (s.place pre post r) :=
  hp.place hn hs hid hpt (fun p => by rw [hcl, hk]; exact hp.own c (by simp [hs]) p)
    fun p i _ => by rw [hcl]

/-- A control that drops its pointer has no claim then, and nobody else's claim has changed. -/
theorem drop (hp : s.Protocol F) (hc : c ∈ s.controls) (hcp : c.pointer? = some p) :
    (∀ q, (s.claims.drop p c.id c.passThrough).owner? q ≠ some c.id) ∧
      ∀ q i, i ≠ c.id →
        ((s.claims.drop p c.id c.passThrough).owner? q = some i ↔ s.claims.owner? q = some i) := by
  have hown := hp.own c hc
  refine ⟨fun q => ?_, fun q i hi => ?_⟩ <;> rw [Claims.owner?_drop]
  · split
    · simp
    · rename_i hne
      intro ho
      obtain ⟨hpt, hq⟩ := (hown q).1 ho
      rw [hcp] at hq
      exact hne ⟨hpt, Option.some.inj hq, (hown p).2 ⟨hpt, hcp⟩⟩
  · split
    · rename_i h
      obtain ⟨-, rfl, ho⟩ := h
      rw [ho]
      simp [Ne.symm hi]
    · rfl

theorem withTimers (hp : s.Protocol F) (q : TimerQueue) : s.Leads F (s.withTimers q) :=
  ⟨⟨hp.own, hp.known, hp.apart⟩, fun _ _ _ => .rfl⟩

theorem input (hn : s.ids.Nodup) (hi : Input sv s is s') (hp : s.Protocol F) : s.Leads F s' := by
  cases hi with
  | tick => exact hp.withTimers _
  | @fire _ pre post c now t hpop hs _ =>
    obtain ⟨q, -, rfl⟩ := popExpired?_eq_some hpop
    obtain ⟨hk, hcl, -⟩ := c.behaviour.timer_frame sv (c.site s.size) (s.withTimers q).desk t.handle
    have hq := hp.withTimers q
    exact hq.trans (hq.1.place_of_keeps hn hs rfl rfl hk hcl)
  | lapse hpop =>
    obtain ⟨q, -, rfl⟩ := popExpired?_eq_some hpop
    exact hp.withTimers q
  | contact h =>
    cases h with
    | @down pre post c p spot hs _ hcons =>
      have ht := Control.takes_down hcons
      obtain ⟨hfree, ho⟩ := Claims.take?_eq_some ht.claims
      have ho : ∀ q, (c.down sv s.size p s.desk spot).desk.claims.owner? q =
        if c.passThrough = false ∧ p = q then some c.id else s.claims.owner? q := ho
      have hpointer : (c.down sv s.size p s.desk spot).state.pointer? = some p := ht.pointer
      have hnone : ∀ q, s.claims.owner? q ≠ some c.id := fun q hq => by
        have hq : c.behaviour.pointer? = some q := ((hp.own c (by simp [hs]) q).1 hq).2
        rw [ht.free] at hq
        cases hq
      refine hp.place hn hs rfl rfl (fun q => ?_) fun q i hi => ?_
      · rw [hpointer, ho q]
        split
        · rename_i hq
          simp [hq]
        · rename_i hq
          exact iff_of_false (hnone q) fun h => hq ⟨h.1, Option.some.inj h.2⟩
      · rw [ho q]
        split
        · rename_i hq
          obtain ⟨-, rfl⟩ := hq
          refine iff_of_false (fun he => hi (Option.some.inj he).symm) fun he => ?_
          rcases hfree with hf | hf
          · exact absurd (hf.symm.trans he) (by simp)
          · exact hnone p hf
        · rfl
    | @move pre post c p spot hs _ =>
      have hk := (c.behaviour.keeps_move sv (c.site s.size) p (c.bounds.toLocal spot) s.desk).1
      exact hp.place_of_keeps hn hs rfl rfl hk.pointer hk.claims
    | @up pre post c p hs _ =>
      have hc : c ∈ s.controls := by simp [hs]
      by_cases hcp : c.behaviour.pointer? = some p
      · have hd := Behaviour.drops_up (c.site s.size) s.desk hcp
        obtain ⟨hnone, hothers⟩ := hp.drop hc hcp
        have hcl : (c.up s.size p s.desk).desk.claims = s.claims.drop p c.id c.passThrough :=
          hd.claims
        have hpointer : (c.up s.size p s.desk).state.pointer? = none := hd.pointer
        refine hp.place hn hs rfl rfl (fun q => ?_) fun q i hi => ?_
        · rw [hcl, hpointer]
          exact iff_of_false (hnone q) (by simp)
        · rw [hcl]
          exact hothers q i hi
      · have hu : (c.up s.size p s.desk) = .ignored c s.desk := by
          rw [Control.up, Behaviour.up_of_ne (c.site s.size) s.desk hcp]; rfl
        refine hp.place hn hs rfl rfl (fun q => ?_) fun q i hi => ?_
        · rw [hu]
          exact hp.own c hc q
        · rw [hu]
          exact .rfl
    | stray => exact ⟨⟨hp.own, hp.known, hp.apart⟩, fun _ _ _ => .rfl⟩

theorem change (hn : s.ids.Nodup) (hc : Change K s is s') (hK : ∀ i, K i → ¬ F i)
    (hp : s.Protocol F) : s.Leads F s' := by
  cases hc with
  | @reset pre post c hs =>
    have hk := c.behaviour.keeps_resetToggle (c.site s.size) s.desk
    exact hp.place_of_keeps hn hs rfl rfl hk.pointer hk.claims
  | @detach pre post c hs =>
    have hc : c ∈ s.controls := mem_controls hs
    have hmem : ∀ c' ∈ pre ++ post, c' ∈ s.controls := fun c' hc' =>
      (mem_controls_iff hs).2 (.inr hc')
    -- the claims after the session: none of the control's, and the others untouched
    obtain ⟨hnone, hothers⟩ : (∀ q, (c.detach s.size s.desk).desk.claims.owner? q ≠ some c.id) ∧
        ∀ q i, i ≠ c.id → ((c.detach s.size s.desk).desk.claims.owner? q = some i ↔
          s.claims.owner? q = some i) := by
      have hcl : (c.detach s.size s.desk).desk.claims =
          c.pointer?.elim s.claims fun p => s.claims.drop p c.id c.passThrough :=
        c.behaviour.claims_detach (c.site s.size) s.desk
      rw [hcl]
      cases hcp : c.pointer? with
      | none =>
        refine ⟨fun q hq => ?_, fun _ _ _ => .rfl⟩
        have hq := ((hp.own c hc q).1 hq).2
        rw [hcp] at hq
        cases hq
      | some p => exact hp.drop hc hcp
    refine ⟨⟨fun c' hc' p => ?_, fun p i ho => ?_, fun i hi => ?_⟩, fun p x hx => ?_⟩
    · exact (hothers p c'.id (ne_of_nodup_ids hn hs c' hc')).trans (hp.own c' (hmem c' hc') p)
    · have hi : i ≠ c.id := fun he => hnone p (he ▸ ho)
      refine (hp.known p i ((hothers p i hi).1 ho)).imp_right fun hm => ?_
      rw [ids, hs, (List.perm_middle.map _).mem_iff] at hm
      exact (List.mem_cons.1 hm).resolve_left hi
    · obtain ⟨c', hc', rfl⟩ := mem_ids.1 hi
      exact hp.not_of_mem (hmem c' hc')
    · exact hothers p x fun he => hp.not_of_mem hc (he ▸ hx)
  | @mount cfg hk hne _ =>
    have hids : (s.mount cfg).ids = s.ids ++ [cfg.id] := by simp [mount, ids, Control.mount]
    refine ⟨⟨fun c hc p => ?_, fun p i ho => ?_, fun i hi => ?_⟩, fun _ _ _ => .rfl⟩
    · rcases List.mem_append.1 hc with hc | hc
      · exact hp.own c hc p
      · rw [List.mem_singleton.1 hc]
        have hnone : (Control.mount s.size cfg).pointer? = none :=
          Behaviour.pointer?_ofKind cfg.kind
        rw [hnone]
        refine iff_of_false (fun ho => ?_) (by simp)
        rcases hp.known p cfg.id ho with hx | hm
        · exact hK cfg.id hk hx
        · obtain ⟨c', hc', he⟩ := mem_ids.1 hm
          exact hne c' hc' he
    · rw [hids]
      exact (hp.known p i ho).imp_right fun hm => List.mem_append_left _ hm
    · rw [hids] at hi
      rcases List.mem_append.1 hi with hi | hi
      · exact hp.apart i hi
      · rw [List.mem_singleton.1 hi]
        exact hK cfg.id hk
  | resize hs => exact ⟨⟨hp.own, hp.known, hp.apart⟩, fun _ _ _ => .rfl⟩

theorem motion (hn : s.ids.Nodup) (hm : Motion sv K s is s') (hK : ∀ i, K i → ¬ F i)
    (hp : s.Protocol F) : s.Leads F s' := by
  rcases hm with hm | hm
  · exact hp.input hn hm
  · exact hp.change hn hm hK

theorem operation {op : Operation} (hn : s.ids.Nodup)
    (hF : ∀ i ∈ (op.perform sv s).state.ids, ¬ F i) (hp : s.Protocol F) :
    (op.perform sv s).state.Protocol F := by
  refine perform_preserve (P := fun s _ => s.Protocol F) op hn
    (fun hn hm hp => (hp.motion hn hm hF).1) (fun {s₁ _} hs hp => ?_) [] hp
  refine ⟨fun c hc => ?_, fun p i ho => ?_, hp.apart⟩
  · have hc : c ∈ s₁.controls := hc
    exact absurd (hs ▸ hc) List.not_mem_nil
  · have ho : Claims.empty.owner? p = some i := ho
    simp at ho

/-- Only a shutdown touches the claims of others. -/
theorem operation_leads {op : Operation} (hn : s.ids.Nodup) (hop : op ≠ .shutdown)
    (hF : ∀ i ∈ (op.perform sv s).state.ids, ¬ F i) (hp : s.Protocol F) :
    s.Leads F (op.perform sv s).state :=
  ((chain_perform hn hop).keeps (P := fun s' => s'.ids.Nodup ∧ s.Leads F s')
    (fun _ _ _ hm h => ⟨nodup_ids_of_motion hm h.1, h.2.trans (h.2.1.motion h.1 hm hF)⟩)
    ⟨hn, hp, fun _ _ _ => .rfl⟩).2

/-- A call in the name of somebody else leaves the claims of the controls alone. -/
theorem foreign {call : ClaimCall} (hc : call.InName F) (hp : s.Protocol F) :
    (s.withClaims (call.apply s.claims)).Protocol F ∧ ∀ c ∈ s.controls, ∀ p,
      (call.apply s.claims).owner? p = some c.id ↔ s.claims.owner? p = some c.id := by
  have hkeep : ∀ i, ¬ F i → ∀ q,
      (call.apply s.claims).owner? q = some i ↔ s.claims.owner? q = some i := by
    intro i hi q
    cases call with
    | claim p x =>
      have hx : x ≠ i := fun he => hi (he ▸ hc)
      rw [ClaimCall.apply, Claims.owner?_claim]
      split
      · rename_i hpq
        subst hpq
        cases s.claims.owner? p <;> simp [hx]
      · rfl
    | releaseIfOwner p x =>
      have hx : x ≠ i := fun he => hi (he ▸ hc)
      rw [ClaimCall.apply, Claims.owner?_releaseIfOwner]
      split
      · rename_i h
        obtain ⟨rfl, ho⟩ := h
        simp [ho, hx]
      · rfl
    | _ => exact hc.elim
  refine ⟨⟨fun c hm p => ?_, fun p i ho => ?_, hp.apart⟩,
    fun c hm => hkeep c.id (hp.not_of_mem hm)⟩
  · exact (hkeep c.id (hp.not_of_mem hm) p).trans (hp.own c hm p)
  · by_cases hi : F i
    · exact .inl hi
    · exact hp.known p i ((hkeep i hi p).1 ho)

/-- A pointer that somebody else has claimed is refused by every control. -/
theorem not_consumed_down (hp : s.Protocol F) (ho : s.claims.owner? p = some i) (hi : F i)
    (hc : c ∈ s.controls) (spot : Point) : (c.down sv s.size p s.desk spot).consumed = false := by
  rw [Bool.eq_false_iff]
  intro hcons
  rcases (Claims.take?_eq_some (Control.takes_down hcons).claims).1 with hn | hs
  · exact absurd (hn.symm.trans ho) (by simp)
  · have he : c.id = i := Option.some.inj (hs.symm.trans ho)
    exact hp.not_of_mem hc (he ▸ hi)

/-- So is the whole touch, whatever timers fire before it. -/
theorem not_consumed_touch (hn : s.ids.Nodup) (hp : s.Protocol F)
    (ho : s.claims.owner? p = some i) (hi : F i) {e : TouchEvent} (he : e.phase = .down)
    (hep : e.pointer = p) : (s.touch sv e).consumed = false := by
  subst hep
  obtain ⟨-, ha⟩ := chain_advance.keeps (R := Input sv) (P := fun s' => s'.ids.Nodup ∧ s.Leads F s')
    (fun _ _ _ hin h => ⟨ids_of_input hin ▸ h.1, h.2.trans (h.2.1.input h.1 hin)⟩)
    ⟨hn, hp, fun _ _ _ => .rfl⟩
  show ((s.advance sv e.time).state.route sv e).consumed = false
  unfold route touchDown
  rw [he]
  dsimp only
  split
  · rfl
  · split
    · rename_i id r hoff
      obtain ⟨pre, c, post, hs, -, -, hcons, -⟩ := offer_eq_some hoff
      rw [ha.1.not_consumed_down ((ha.2 _ _ hi).2 ho) hi (by simp [hs]) e.position] at hcons
      cases hcons
    · rfl

end Protocol

/-! ## Runs -/

/-- The identifiers of the controls that are mounted at some time of a run. -/
def everMounted (sv : Services) : List Step → Surface → List ControlId
  | [], s => s.ids
  | st :: sts, s => s.ids ++ everMounted sv sts (s.step sv st).state

/-- Others claim and release only in the name of identifiers that no control ever has. -/
def FairRun (sv : Services) (sts : List Step) (s : Surface) : Prop :=
  ∀ call, .foreign call ∈ sts → call.InName (· ∉ everMounted sv sts s)

theorem fairRun_iff {sts : List Step} : FairRun sv sts s ↔
    ∀ call ∈ foreignCalls sts, call.InName (· ∉ everMounted sv sts s) :=
  forall_congr' fun _ => imp_congr_left mem_foreignCalls.symm

theorem ids_subset_everMounted (sts : List Step) : s.ids ⊆ everMounted sv sts s := by
  cases sts with
  | nil => exact List.Subset.refl _
  | cons st sts => exact List.subset_append_left _ _

theorem ids_run_subset_everMounted (sts : List Step) :
    (run sv sts s).state.ids ⊆ everMounted sv sts s := by
  induction sts generalizing s with
  | nil => exact List.Subset.refl _
  | cons st sts ih => exact List.subset_append_of_subset_right _ ih

theorem everMounted_subset_append (sts sts' : List Step) :
    everMounted sv sts s ⊆ everMounted sv (sts ++ sts') s := by
  induction sts generalizing s with
  | nil => exact ids_subset_everMounted sts'
  | cons st sts ih =>
    exact List.append_subset.2 ⟨List.subset_append_left _ _,
      List.subset_append_of_subset_right _ ih⟩

theorem Protocol.run {sts : List Step} (hn : s.ids.Nodup)
    (hF : ∀ i ∈ everMounted sv sts s, ¬ F i) (hc : ∀ call, .foreign call ∈ sts → call.InName F)
    (hp : s.Protocol F) : (Surface.run sv sts s).state.Protocol F := by
  induction sts generalizing s with
  | nil => exact hp
  | cons st sts ih =>
    have hF' : ∀ i ∈ everMounted sv sts (s.step sv st).state, ¬ F i := fun i hi =>
      hF i (List.mem_append_right _ hi)
    refine ih (nodup_ids_step st hn) hF' (fun call hm => hc call (List.mem_cons_of_mem _ hm)) ?_
    cases st with
    | operation op => exact hp.operation hn fun i hi => hF' i (ids_subset_everMounted sts hi)
    | foreign call => exact (hp.foreign (hc call List.mem_cons_self)).1

theorem Protocol.empty (F : ControlId → Prop) (size : SurfaceSize) :
    (Surface.empty size).Protocol F :=
  ⟨fun c hc => absurd hc List.not_mem_nil, fun p i ho => by
    have ho : Claims.empty.owner? p = some i := ho
    simp at ho, fun i hi => absurd hi List.not_mem_nil⟩

theorem FairRun.protocol {size : SurfaceSize} {sts : List Step} (hf : FairRun sv sts (empty size)) :
    (Surface.run sv sts (empty size)).state.Protocol (· ∉ everMounted sv sts (empty size)) :=
  (Protocol.empty _ size).run (nodup_ids_empty size .empty) (fun _ hi hx => hx hi) hf

/-- **The claims that a surface shares with others.** The surface starts without a claim, and the
others claim and release pointers for identifiers that none of its controls ever has. In every
state of the run a control has claimed a pointer exactly if it withholds its contacts and the
pointer is that of its contact, and no claim is that of a control that is gone. A contact whose
pointer others have claimed is consumed by no control. A shutdown leaves no claim. No other
operation changes a claim of others, and the others change none of the surface. -/
theorem claims_agree_with_sessions (sv : Services) (size : SurfaceSize) (sts : List Step)
    (hf : FairRun sv sts (empty size)) :
    (∀ past, past <+: sts →
      let s := (run sv past (empty size)).state
      (∀ p, ∀ c ∈ s.controls,
        s.claims.owner? p = some c.id ↔ c.passThrough = false ∧ c.pointer? = some p) ∧
      (∀ p id, s.claims.owner? p = some id → id ∈ everMounted sv sts (empty size) → id ∈ s.ids) ∧
      (∀ p x, s.claims.owner? p = some x → x ∉ s.ids →
        (∀ c ∈ s.controls, ∀ spot, (c.down sv s.size p s.desk spot).consumed = false) ∧
        ∀ e : TouchEvent, e.phase = .down → e.pointer = p → (s.touch sv e).consumed = false) ∧
      ∀ p, s.shutdown.state.claims.owner? p = none) ∧
    ∀ past st, past ++ [st] <+: sts →
      let s := (run sv past (empty size)).state
      let s' := (s.step sv st).state
      match st with
      | .operation op => op ≠ .shutdown → ∀ p x, x ∉ everMounted sv sts (empty size) →
          (s'.claims.owner? p = some x ↔ s.claims.owner? p = some x)
      | .foreign _ => ∀ c ∈ s.controls, ∀ p,
          s'.claims.owner? p = some c.id ↔ s.claims.owner? p = some c.id := by
  -- the protocol for the others of the whole run, after each part of it
  let F := (· ∉ everMounted sv sts (empty size))
  have hids : ∀ past, past <+: sts →
      ∀ i ∈ everMounted sv past (empty size), i ∈ everMounted sv sts (empty size) := by
    rintro past ⟨rest, rfl⟩ i hi
    exact everMounted_subset_append past rest hi
  have hrun : ∀ past, past <+: sts → (run sv past (empty size)).state.Protocol F :=
    fun past hpast => (Protocol.empty F size).run (nodup_ids_empty size .empty)
      (fun i hi hx => hx (hids past hpast i hi))
      fun call hm => hf call (hpast.subset hm)
  have hn : ∀ past, (run sv past (empty size)).state.ids.Nodup :=
    fun past => nodup_ids_run past (nodup_ids_empty size .empty)
  refine ⟨fun past hpast => ?_, fun past st hst => ?_⟩
  · have hp := hrun past hpast
    refine ⟨fun p c hc => hp.own c hc p, fun p id ho hm => ?_, fun p x ho hx => ?_,
      fun p => Claims.owner?_empty⟩
    · exact (hp.known p id ho).resolve_left fun hx => hx hm
    · have hx : F x := (hp.known p x ho).resolve_right hx
      exact ⟨fun c hc => hp.not_consumed_down ho hx hc,
        fun e he hep => hp.not_consumed_touch (hn past) ho hx he hep⟩
  · have hp := hrun past ((List.prefix_append past [st]).trans hst)
    cases st with
    | operation op =>
      intro s s' hop p x hx
      refine (hp.operation_leads (hn past) hop fun i hi hx => hx (hids _ hst i ?_)).2 p x hx
      refine ids_run_subset_everMounted _ ?_
      rw [run_append]
      exact hi
    | foreign call => exact (hp.foreign (hf call (hst.subset (by simp)))).2

/-- A button over the whole surface. Somebody else claims the pointer 7, and the pointer 5 presses
the button. -/
def twoParties : List Step :=
  [.operation (.addControl
      { id := .ofNat 1, placement := ⟨0, 0, 1, 1⟩, kind := .button (.key 30) false }),
    .foreign (.claim 7 (.ofNat 9)),
    .operation (.touch ⟨5, .down, ⟨10, 10⟩, 0⟩),
    .foreign (.releaseIfOwner 5 (.ofNat 9))]

/-- The button has its pointer and the other party has the other one, which the button refuses. -/
theorem claims_of_twoParties :
    FairRun {} twoParties (empty ⟨100, 100⟩) ∧
      let s := (run {} twoParties (empty ⟨100, 100⟩)).state
      s.claims.owner? 5 = some (.ofNat 1) ∧ s.claims.owner? 7 = some (.ofNat 9) ∧
        (s.touch {} ⟨7, .down, ⟨10, 10⟩, 0⟩).consumed = false := by
  have hf : FairRun {} twoParties (empty ⟨100, 100⟩) := fairRun_iff.2 (by decide +kernel)
  obtain ⟨-, -, hheld, -⟩ :=
    (claims_agree_with_sessions {} ⟨100, 100⟩ twoParties hf).1 twoParties (List.prefix_refl _)
  have h7 : (run {} twoParties (empty ⟨100, 100⟩)).state.claims.owner? 7 = some (.ofNat 9) := by
    decide +kernel
  exact ⟨hf, by decide +kernel, h7, (hheld 7 _ h7 (by decide +kernel)).2 _ rfl rfl⟩

end Surface
end TouchOverlay
