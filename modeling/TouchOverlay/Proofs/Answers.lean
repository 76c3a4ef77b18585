import TouchOverlay.Proofs.Run

/-!
# What a run does to the list of controls

A law about the sessions of controls and the requests that they make need not speak of the desk, the
routes or the size of the surface. Such a law sees one of four things at a time: a control answers a
call (`Behaviour.Answers`), the session of one ends, one is mounted, or nothing happens. `Law.run` is
the induction over runs for laws of this sort.
-/

namespace TouchOverlay

/-- The requests of one control. -/
def requestsOf (id : ControlId) (is : List Issued) : List Request :=
  (is.filter (·.control = id)).map (·.request)

section
variable {id : ControlId} {is js : List Issued} {σ : Type}

theorem map_request_issuedBy (r : Reaction σ) : (r.issuedBy id).map (·.request) = r.requests := by
  simp [Reaction.issuedBy, Function.comp_def]

theorem requestsOf_append : requestsOf id (is ++ js) = requestsOf id is ++ requestsOf id js := by
  simp [requestsOf]

theorem requestsOf_issuedBy (r : Reaction σ) : requestsOf id (r.issuedBy id) = r.requests := by
  simp [requestsOf, Reaction.issuedBy, List.filter_map, Function.comp_def]

theorem requestsOf_issuedBy_of_ne {id' : ControlId} (h : id' ≠ id) (r : Reaction σ) :
    requestsOf id (r.issuedBy id') = [] := by
  simp [requestsOf, Reaction.issuedBy, List.filter_map, Function.comp_def, h]

end

/-- The answers of a control to the calls that leave it on the surface. -/
inductive Behaviour.Answers (sv : Services) (site : Site) (b : Behaviour) :
    Reaction Behaviour → Prop
  | down (p : PointerId) (spot : Point) (d : Desk) : Answers sv site b (b.down sv site p spot d)
  | move (p : PointerId) (spot : Point) (d : Desk) : Answers sv site b (b.move sv site p spot d)
  | up (p : PointerId) (d : Desk) : Answers sv site b (b.up site p d)
  | timer (h : TimerHandle) (d : Desk) : Answers sv site b (b.timer sv site d h)
  | resetToggle (d : Desk) : Answers sv site b (b.resetToggle site d)

theorem Behaviour.Answers.kind {sv : Services} {site : Site} {b : Behaviour}
    {r : Reaction Behaviour} (h : b.Answers sv site r) : r.state.kind = b.kind := by
  cases h with
  | down p spot d =>
    rcases b.down_cases sv site p spot d with ⟨hr, -⟩ | ht
    · rw [hr]
      rfl
    · exact ht.kind
  | move p spot d => exact (b.keeps_move sv site p spot d).1.kind
  | up p d =>
    by_cases hp : b.pointer? = some p
    · exact (drops_up site d hp).kind
    · rw [up_of_ne site d hp]
      rfl
  | timer h d => exact (b.timer_frame sv site d h).2.2
  | resetToggle d => exact (b.keeps_resetToggle site d).kind

namespace Surface

/-- At most one control answers a call, with the requests that it makes. -/
inductive Answered (sv : Services) (size : SurfaceSize) :
    List Control → List Issued → List Control → Prop
  | none {cs : List Control} : Answered sv size cs [] cs
  | answer {pre post : List Control} {c : Control} {r : Reaction Behaviour} :
      c.behaviour.Answers sv (c.site size) r →
        Answered sv size (pre ++ c :: post) ((c.react r).issuedBy c.id)
          (pre ++ (c.react r).state :: post)

def Answering (sv : Services) (s : Surface) (is : List Issued) (s' : Surface) : Prop :=
  Answered sv s.size s.controls is s'.controls

variable {sv : Services} {s s' : Surface} {is out : List Issued} {pre post : List Control}
  {c : Control} {r : Reaction Behaviour}

theorem answered_place (hs : s.controls = pre ++ c :: post)
    (hr : c.behaviour.Answers sv (c.site s.size) r) :
    Answered sv s.size s.controls ((c.react r).issuedBy c.id)
      (s.place pre post (c.react r)).controls := by
  rw [hs]
  exact .answer hr

theorem answered_input (h : Input sv s is s') : Answered sv s.size s.controls is s'.controls := by
  cases h with
  | tick now => exact .none
  | @fire s₁ pre post c now t hp hs _ =>
    obtain ⟨q, -, rfl⟩ := popExpired?_eq_some hp
    exact answered_place hs (.timer t.handle _)
  | lapse hp _ =>
    obtain ⟨q, -, rfl⟩ := popExpired?_eq_some hp
    exact .none
  | contact h =>
    cases h with
    | @down pre post c p spot hs _ _ => exact answered_place hs (.down p _ s.desk)
    | @move pre post c p spot hs _ => exact answered_place hs (.move p _ s.desk)
    | @up pre post c p hs _ => exact answered_place hs (.up p s.desk)
    | stray _ _ => exact .none

/-- A law about controls and the requests so far, on surfaces whose controls are all of a kind that
is `good`. It survives each answer of a control, the end of each session and each new control. -/
structure Law (sv : Services) (good : ControlKind → Prop) (P : List Control → List Issued → Prop) :
    Prop where
  answer {size : SurfaceSize} {pre post : List Control} {c : Control} {r : Reaction Behaviour}
    {out : List Issued} :
    good c.behaviour.kind → c.behaviour.Answers sv (c.site size) r → P (pre ++ c :: post) out →
      P (pre ++ (c.react r).state :: post) (out ++ (c.react r).issuedBy c.id)
  detach {size : SurfaceSize} {pre post : List Control} {c : Control} {d : Desk}
    {out : List Issued} :
    good c.behaviour.kind → P (pre ++ c :: post) out →
      P (pre ++ post) (out ++ (c.detach size d).issuedBy c.id)
  mount {size : SurfaceSize} {cs : List Control} {cfg : ControlConfig} {out : List Issued} :
    good cfg.kind → P cs out → P (cs ++ [.mount size cfg]) out

/-- The controls are of a good kind, and `P` holds. -/
structure Good (good : ControlKind → Prop) (P : List Control → List Issued → Prop)
    (cs : List Control) (out : List Issued) : Prop where
  kinds : ∀ c ∈ cs, good c.behaviour.kind
  holds : P cs out

namespace Law
variable {good : ControlKind → Prop} {P : List Control → List Issued → Prop} {size : SurfaceSize}
  {cs cs' : List Control} {cfgs : List ControlConfig}

theorem answered (hl : Law sv good P) (h : Answered sv size cs is cs') (hp : Good good P cs out) :
    Good good P cs' (out ++ is) := by
  cases h with
  | none => rwa [List.append_nil]
  | @answer pre post c r hr =>
    have hc : good c.behaviour.kind := hp.kinds c (by simp)
    refine ⟨fun c' hc' => ?_, hl.answer hc hr hp.holds⟩
    rcases mem_middle_iff.1 hc' with rfl | hc'
    · exact hr.kind ▸ hc
    · exact hp.kinds c' (mem_middle_iff.2 (.inr hc'))

theorem motion (hl : Law sv good P) (h : Motion sv (fun _ => False) s is s')
    (hp : Good good P s.controls out) : Good good P s'.controls (out ++ is) := by
  rcases h with h | h
  · exact hl.answered (answered_input h) hp
  · cases h with
    | reset hs => exact hl.answered (answered_place hs (.resetToggle s.desk)) hp
    | @detach pre post c hs =>
      rw [hs] at hp
      exact ⟨fun c' hc' => hp.kinds c' (mem_middle_iff.2 (.inr hc')),
        hl.detach (hp.kinds c (by simp)) hp.holds⟩
    | mount hK _ _ => exact hK.elim
    | resize _ => rwa [List.append_nil]

theorem mountAll (hl : Law sv good P) (hg : ∀ cfg ∈ cfgs, good cfg.kind)
    (hp : Good good P s.controls out) : Good good P (s.mountAll cfgs).controls out := by
  induction cfgs generalizing s with
  | nil => exact hp
  | cons cfg cfgs ih =>
    have hcfg := hg cfg List.mem_cons_self
    refine ih (s := s.mount cfg) (fun cfg hm => hg cfg (List.mem_cons_of_mem _ hm))
      ⟨fun c hc => ?_, hl.mount hcfg hp.holds⟩
    rcases List.mem_append.1 hc with hc | hc
    · exact hp.kinds c hc
    · rw [List.mem_singleton.1 hc]
      exact (Behaviour.kind_ofKind cfg.kind).symm ▸ hcfg

theorem step (hl : Law sv good P) (st : Step)
    (hg : ∀ op, st = .operation op → ∀ cfg ∈ op.added, good cfg.kind)
    (hp : Good good P s.controls out) :
    Good good P (s.step sv st).state.controls (out ++ (s.step sv st).issued) := by
  cases st with
  | foreign call =>
    show Good good P s.controls (out ++ [])
    rwa [List.append_nil]
  | operation op =>
    refine perform_preserve_mounts (P := fun s out => Good good P s.controls out) op hl.motion
      (fun hsub => hl.mountAll fun cfg hcfg => ?_) id out hp
    rcases List.mem_append.1 (hsub hcfg) with hcfg | hcfg
    · exact hg op rfl cfg hcfg
    · obtain ⟨c, hc, rfl⟩ := List.mem_map.1 hcfg
      exact hp.kinds c hc

/-- The law holds after every run from a surface on which it holds. -/
theorem run (hl : Law sv good P) (sts : List Step)
    (hg : ∀ op, .operation op ∈ sts → ∀ cfg ∈ op.added, good cfg.kind)
    (hp : Good good P s.controls out) :
    Good good P (run sv sts s).state.controls (out ++ (run sv sts s).issued) := by
  induction sts generalizing s out with
  | nil => simpa [Surface.run] using hp
  | cons st sts ih =>
    rw [Surface.run, ← List.append_assoc]
    refine ih (s := (s.step sv st).state) (fun op hop => hg op (List.mem_cons_of_mem _ hop)) ?_
    exact hl.step st (fun op he => hg op (he ▸ List.mem_cons_self)) hp

/-- What every new session has, and every answer keeps, is a law of each session. -/
theorem ofEach {Q : Behaviour → Prop} (hnew : ∀ k, Q (.ofKind k))
    (hanswer : ∀ {site : Site} {b : Behaviour} {r : Reaction Behaviour},
      b.Answers sv site r → Q b → Q r.state) :
    Law sv (fun _ => True) fun cs _ => ∀ c ∈ cs, Q c.behaviour where
  answer {size pre post c r out} _ hr hq := by
    intro c' hc'
    rcases mem_middle_iff.1 hc' with rfl | hc'
    · exact hanswer hr (hq c (by simp))
    · exact hq c' (mem_middle_iff.2 (.inr hc'))
  detach {size pre post c d out} _ hq := by
    intro c' hc'
    exact hq c' (mem_middle_iff.2 (.inr hc'))
  mount {size cs cfg out} _ hq := by
    intro c' hc'
    rcases List.mem_append.1 hc' with hc' | hc'
    · exact hq c' hc'
    · rw [List.mem_singleton.1 hc']
      exact hnew cfg.kind

end Law

end Surface
end TouchOverlay
