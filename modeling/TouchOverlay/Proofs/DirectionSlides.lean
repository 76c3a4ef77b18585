import TouchOverlay.Proofs.Session

/-!
# Slides over a direction pad

A `Stroke` is a direction that a pad presses or releases, and `Directions.strokes` are those that
lead from one selection to another. A call on a pad sends the strokes from what it has held to the
selection of the call (`answer_cases`), so over a run the directions that are pressed are the ones
that are held.

Between two strokes of one call the pressed directions are no longer those of the old selection and
not yet those of the new one. While releases are sent they are among the old ones, and when the
last release has been sent they are among the new ones (`pressed_or_selected`). No cell selects
opposite directions, so the pad never presses a pair of them, wherever the stream is cut.
-/

namespace TouchOverlay

/-- A direction that is pressed or released. -/
structure Stroke where
  direction : Direction
  down : Bool
deriving DecidableEq

/-- Neither up and down nor left and right. -/
def Unopposed (f : Direction → Bool) : Prop :=
  ¬ (f .up = true ∧ f .down = true) ∧ ¬ (f .left = true ∧ f .right = true)

theorem Unopposed.mono {f g : Direction → Bool} (hg : Unopposed g)
    (hf : ∀ dir, f dir = true → g dir = true) : Unopposed f :=
  ⟨fun h => hg.1 ⟨hf _ h.1, hf _ h.2⟩, fun h => hg.2 ⟨hf _ h.1, hf _ h.2⟩⟩

theorem Direction.mem_all (dir : Direction) : dir ∈ all := by cases dir <;> decide

namespace Directions

/-- The strokes that release what has left a selection and then press what has entered it. -/
def strokes (before after : Directions Bool) : List Stroke :=
  (Direction.all.filter fun dir => before.get dir && !after.get dir).map (⟨·, false⟩) ++
    (Direction.all.filter fun dir => after.get dir && !before.get dir).map (⟨·, true⟩)

variable {before after : Directions Bool} {s : Stroke} {p : Point} {bounds : Rect}

theorem mem_strokes : s ∈ strokes before after ↔
    before.get s.direction ≠ after.get s.direction ∧ s.down = after.get s.direction := by
  obtain ⟨dir, down⟩ := s
  have hmem (f : Direction → Bool) (b : Bool) :
      (⟨dir, down⟩ : Stroke) ∈ (Direction.all.filter f).map (⟨·, b⟩) ↔ f dir = true ∧ down = b := by
    simp only [List.mem_map, List.mem_filter, Direction.mem_all, true_and, Stroke.mk.injEq]
    constructor
    · rintro ⟨_, hf, rfl, rfl⟩
      exact ⟨hf, rfl⟩
    · rintro ⟨hf, rfl⟩
      exact ⟨dir, hf, rfl, rfl⟩
  rw [strokes, List.mem_append, hmem, hmem]
  cases before.get dir <;> cases after.get dir <;> simp

theorem unopposed_none : Unopposed none.get := ⟨nofun, nofun⟩

theorem unopposed_selectedAt : Unopposed (selectedAt p bounds).get := by
  -- a coordinate lies in one third only
  constructor
  · rintro ⟨hup, hdown⟩
    have hfirst := of_decide_eq_true hup
    have hlast := of_decide_eq_true hdown
    rw [hfirst] at hlast
    cases hlast
  · rintro ⟨hleft, hright⟩
    have hfirst := of_decide_eq_true hleft
    have hlast := of_decide_eq_true hright
    rw [hfirst] at hlast
    cases hlast

end Directions

/-! ## What is pressed after some strokes -/

/-- The last stroke of a direction is a press. -/
def pressed (ss : List Stroke) (dir : Direction) : Bool :=
  (ss.filter (·.direction = dir)).getLast?.any (·.down)

section pressed
variable {ss ts : List Stroke} {dir : Direction} {b : Bool}

theorem getLast?_stroke {s : Stroke} (h : (ts.filter (·.direction = dir)).getLast? = some s) :
    s ∈ ts ∧ s.direction = dir := by
  simpa using List.mem_of_getLast? h

theorem pressed_append_of_not_mem (hts : ∀ s ∈ ts, s.direction ≠ dir) :
    pressed (ss ++ ts) dir = pressed ss dir := by
  have hnil : ts.filter (·.direction = dir) = [] := List.filter_eq_nil_iff.2 (by simpa using hts)
  rw [pressed, List.filter_append, hnil, List.append_nil, pressed]

/-- Strokes of a direction that agree decide it. -/
theorem pressed_append_of_mem (hts : ∀ s ∈ ts, s.direction = dir → s.down = b)
    (hm : ∃ s ∈ ts, s.direction = dir) : pressed (ss ++ ts) dir = b := by
  rw [pressed, List.filter_append, List.getLast?_append]
  cases hl : (ts.filter (·.direction = dir)).getLast? with
  | none =>
    obtain ⟨s, hs, hd⟩ := hm
    have hnil := List.getLast?_eq_none_iff.1 hl
    exact absurd hd (by simpa using List.filter_eq_nil_iff.1 hnil s hs)
  | some s =>
    obtain ⟨hs, hd⟩ := getLast?_stroke hl
    exact hts s hs hd

theorem pressed_append (h : pressed (ss ++ ts) dir = true) :
    pressed ss dir = true ∨ ⟨dir, true⟩ ∈ ts := by
  rw [pressed, List.filter_append, List.getLast?_append] at h
  cases hl : (ts.filter (·.direction = dir)).getLast? with
  | none =>
    rw [hl] at h
    exact .inl h
  | some s =>
    rw [hl] at h
    obtain ⟨hs, rfl⟩ := getLast?_stroke hl
    have hdown : s.down = true := h
    exact .inr (by rwa [← hdown])

end pressed

/-- The action that a request presses or releases. -/
def Request.dispatchedAction? : Request → Option (ActionCode × Bool)
  | dispatch action down _ => some (action, down)
  | _ => none

namespace DirectionPad

inductive Call
  | down (p : PointerId) (spot : Point)
  | move (p : PointerId) (spot : Point)
  | up (p : PointerId)
  | detach

/-- What a call that is accepted selects. -/
def Call.selection (bounds : Rect) : Call → Directions Bool
  | down _ spot => .selectedAt spot bounds
  | move _ spot => .selectedAt spot bounds
  | up _ => .none
  | detach => .none

def Call.confirmation : Call → List Request
  | down _ _ => [.pulse]
  | _ => []

def answer (site : Site) (pad : DirectionPad) (d : Desk) : Call → Reaction DirectionPad
  | .down p spot => pad.down site p spot d
  | .move p spot => pad.move site p spot d
  | .up p => pad.up site p d
  | .detach => pad.detach site d

/-- The strokes of the pad on the way to a selection, for the directions whose action injects
something. -/
def sent (pad : DirectionPad) (selected : Directions Bool) : List Stroke :=
  (pad.held.strokes selected).filter fun s => (pad.actions.get s.direction).isDispatchable

def strokeRequest (pad : DirectionPad) (anchor : Point) (s : Stroke) : Request :=
  .dispatch (pad.actions.get s.direction) s.down anchor

variable {pad : DirectionPad} {site : Site} {d : Desk} {c : Call} {selected : Directions Bool}
  {anchor : Point} {s : Stroke} {dir : Direction} {ss : List Stroke}

theorem filterMap_send (down : Bool) (dirs : List Direction) :
    dirs.filterMap (pad.send down anchor) =
      ((dirs.map fun dir => (⟨dir, down⟩ : Stroke)).filter
        fun s => (pad.actions.get s.direction).isDispatchable).map (pad.strokeRequest anchor) := by
  induction dirs with
  | nil => rfl
  | cons dir dirs ih =>
    by_cases hd : (pad.actions.get dir).isDispatchable = true <;>
      simp [send, hd, ih, strokeRequest]

theorem transition_eq :
    pad.transition selected anchor = (pad.sent selected).map (pad.strokeRequest anchor) := by
  rw [transition, filterMap_send, filterMap_send, ← List.map_append, ← List.filter_append]
  rfl

theorem mem_sent : s ∈ pad.sent selected ↔
    (pad.held.get s.direction ≠ selected.get s.direction ∧ s.down = selected.get s.direction) ∧
      (pad.actions.get s.direction).isDispatchable = true := by
  rw [sent, List.mem_filter, Directions.mem_strokes]

theorem exists_sent_eq (pad : DirectionPad) (selected : Directions Bool) :
    ∃ released entered, pad.sent selected = released ++ entered ∧
      (∀ s ∈ released, s.down = false) ∧ ∀ s ∈ entered, s.down = true := by
  refine ⟨_, _, List.filter_append _ _, fun s hs => ?_, fun s hs => ?_⟩ <;>
  · obtain ⟨_, -, rfl⟩ := List.mem_map.1 (List.mem_filter.1 hs).1
    rfl

/-- A call is ignored, or it leads to its selection. -/
theorem answer_cases (pad : DirectionPad) (site : Site) (d : Desk) (c : Call) :
    pad.answer site d c = .ignored pad d ∧ (c = .detach → pad.pointer? = none) ∨
      ∃ q d', (q = none → c.selection site.bounds = .none) ∧
        pad.answer site d c =
          { state := { pad with pointer? := q, held := c.selection site.bounds }
            desk := d'
            requests :=
              c.confirmation ++ pad.transition (c.selection site.bounds) site.anchor } := by
  cases c with
  | down p spot =>
    rcases pad.down_cases site p spot d with ⟨hr, -⟩ | ⟨d', -, -, hr⟩
    · exact .inl ⟨hr, by simp⟩
    · exact .inr ⟨some p, d', by simp, hr⟩
  | move p spot =>
    by_cases hp : pad.pointer? = some p
    · refine .inr ⟨some p, d, by simp, ?_⟩
      simp only [answer, DirectionPad.move, hp, if_true]
      rfl
    · exact .inl ⟨by simp [answer, DirectionPad.move, hp], by simp⟩
  | up p =>
    by_cases hp : pad.pointer? = some p
    · exact .inr ⟨none, site.drop p d, fun _ => rfl, up_of_pointer? hp⟩
    · exact .inl ⟨up_of_ne hp, by simp⟩
  | detach =>
    simp only [answer, DirectionPad.detach]
    cases hp : pad.pointer? with
    | none => exact .inl ⟨rfl, fun _ => rfl⟩
    | some p => exact .inr ⟨none, site.drop p d, fun _ => rfl, rfl⟩

/-! ## Runs -/

/-- A call on a pad: where the pad is then, and the desk that it meets. -/
structure Meeting where
  site : Site
  desk : Desk
  call : Call

def meet (pad : DirectionPad) (m : Meeting) : Reaction DirectionPad :=
  pad.answer m.site m.desk m.call

def run (pad : DirectionPad) (ms : List Meeting) : DirectionPad :=
  ms.foldl (fun pad m => (pad.meet m).state) pad

/-- The presses and releases that a run asks for. -/
def dispatches : List Meeting → DirectionPad → List (ActionCode × Bool)
  | [], _ => []
  | m :: ms, pad =>
    (pad.meet m).requests.filterMap Request.dispatchedAction? ++ dispatches ms (pad.meet m).state

def stream : List Meeting → DirectionPad → List Stroke
  | [], _ => []
  | m :: ms, pad => pad.sent (pad.meet m).state.held ++ stream ms (pad.meet m).state

/-- Without a contact no direction is held, and with one no two opposite ones are. -/
structure Sound (pad : DirectionPad) : Prop where
  inHand : pad.pointer? = none → pad.held = .none
  unopposed : Unopposed pad.held.get

/-- After some strokes of the pad the directions that it holds are pressed, unless their action
injects nothing. -/
def Tracked (ss : List Stroke) (pad : DirectionPad) : Prop :=
  ∀ dir, pressed ss dir = (pad.held.get dir && (pad.actions.get dir).isDispatchable)

variable {m : Meeting} {ms : List Meeting} {past : List Stroke}

theorem unopposed_selection {bounds : Rect} : Unopposed (c.selection bounds).get := by
  cases c with
  | down _ _ => exact Directions.unopposed_selectedAt
  | move _ _ => exact Directions.unopposed_selectedAt
  | _ => exact Directions.unopposed_none

theorem Sound.meet (hs : pad.Sound) (m : Meeting) : (pad.meet m).state.Sound := by
  rcases pad.answer_cases m.site m.desk m.call with ⟨hr, -⟩ | ⟨q, d', hq, hr⟩ <;>
    rw [DirectionPad.meet, hr]
  · exact hs
  · exact ⟨hq, unopposed_selection⟩

theorem Sound.run (hs : pad.Sound) (ms : List Meeting) : (pad.run ms).Sound := by
  induction ms generalizing pad with
  | nil => exact hs
  | cons m ms ih => exact ih (hs.meet m)

theorem actions_meet : (pad.meet m).state.actions = pad.actions := by
  rcases pad.answer_cases m.site m.desk m.call with ⟨hr, -⟩ | ⟨q, d', -, hr⟩
  · rw [DirectionPad.meet, hr]
    rfl
  · rw [DirectionPad.meet, hr]

theorem actions_run : (pad.run ms).actions = pad.actions := by
  induction ms generalizing pad with
  | nil => rfl
  | cons m ms ih => exact ih.trans actions_meet

theorem held_meet (hs : pad.Sound) (m : Meeting) :
    (m.call = .detach → (pad.meet m).state.held = .none) ∧
      ((pad.meet m).consumed = true → (pad.meet m).state.held = m.call.selection m.site.bounds) ∧
      ((pad.meet m).consumed = false → (pad.meet m).state = pad) := by
  rcases pad.answer_cases m.site m.desk m.call with ⟨hr, hd⟩ | ⟨q, d', -, hr⟩ <;>
    rw [DirectionPad.meet, hr]
  · exact ⟨fun hc => hs.inHand (hd hc), nofun, fun _ => rfl⟩
  · exact ⟨fun hc => by rw [hc]; rfl, fun _ => rfl, nofun⟩

theorem requests_meet : (pad.meet m).requests =
    (if (pad.meet m).consumed then m.call.confirmation else []) ++
      (pad.sent (pad.meet m).state.held).map (pad.strokeRequest m.site.anchor) := by
  rcases pad.answer_cases m.site m.desk m.call with ⟨hr, -⟩ | ⟨q, d', -, hr⟩ <;>
    rw [DirectionPad.meet, hr]
  · have hnone : pad.sent pad.held = [] :=
      List.eq_nil_iff_forall_not_mem.2 fun s hs => (mem_sent.1 hs).1.1 rfl
    simp [Reaction.ignored, hnone]
  · simp [transition_eq]

/-- The strokes of a run are what it asks for, and nothing else is pressed or released. -/
theorem dispatches_eq (ms : List Meeting) (pad : DirectionPad) :
    dispatches ms pad = (stream ms pad).map fun s => (pad.actions.get s.direction, s.down) := by
  induction ms generalizing pad with
  | nil => rfl
  | cons m ms ih =>
    have hconfirmed : (if (pad.meet m).consumed then m.call.confirmation else []).filterMap
        Request.dispatchedAction? = [] := by
      split
      · cases m.call <;> rfl
      · rfl
    have hsent (ss : List Stroke) : (ss.map (pad.strokeRequest m.site.anchor)).filterMap
        Request.dispatchedAction? = ss.map fun s => (pad.actions.get s.direction, s.down) := by
      rw [List.filterMap_map]
      exact congrFun List.filterMap_eq_map' ss
    rw [dispatches, stream, requests_meet, List.filterMap_append, hconfirmed, List.nil_append,
      hsent, ih, actions_meet, List.map_append]

theorem Tracked.sent (ht : Tracked past pad) (selected : Directions Bool) (dir : Direction) :
    pressed (past ++ pad.sent selected) dir =
      (selected.get dir && (pad.actions.get dir).isDispatchable) := by
  by_cases hm : ∃ s ∈ pad.sent selected, s.direction = dir
  · obtain ⟨s, hs, rfl⟩ := hm
    rw [pressed_append_of_mem (b := selected.get s.direction) _ ⟨s, hs, rfl⟩, (mem_sent.1 hs).2,
      Bool.and_true]
    exact fun t ht hd => (mem_sent.1 ht).1.2.trans (by rw [hd])
  · have hm : ∀ s ∈ pad.sent selected, s.direction ≠ dir := fun s hs hd => hm ⟨s, hs, hd⟩
    rw [pressed_append_of_not_mem hm, ht dir]
    cases ha : (pad.actions.get dir).isDispatchable with
    | false => simp
    | true =>
      -- a direction that changed would have been sent
      have hsame : pad.held.get dir = selected.get dir := Decidable.byContradiction fun hne =>
        hm ⟨dir, selected.get dir⟩ (mem_sent.2 ⟨⟨hne, rfl⟩, ha⟩) rfl
      rw [hsame]

theorem Tracked.meet (ht : Tracked past pad) (m : Meeting) :
    Tracked (past ++ pad.sent (pad.meet m).state.held) (pad.meet m).state := by
  intro dir
  rw [ht.sent, actions_meet]

theorem Tracked.stream (ht : Tracked past pad) (ms : List Meeting) :
    Tracked (past ++ DirectionPad.stream ms pad) (pad.run ms) := by
  induction ms generalizing pad past with
  | nil =>
    show Tracked (past ++ []) pad
    rwa [List.append_nil]
  | cons m ms ih =>
    rw [DirectionPad.stream, ← List.append_assoc]
    exact ih (ht.meet m)

/-- While the strokes to a selection are sent, the pressed directions are among those held before,
and from the last release on among those selected. -/
theorem Tracked.pressed_or_selected (ht : Tracked past pad) (hp : ss <+: pad.sent selected) :
    (∀ dir, pressed (past ++ ss) dir = true → pad.held.get dir = true) ∨
      ∀ dir, pressed (past ++ ss) dir = true → selected.get dir = true := by
  have hheld : ∀ dir, pressed past dir = true → pad.held.get dir = true ∧
      (pad.actions.get dir).isDispatchable = true := fun dir h => by
    rwa [ht dir, Bool.and_eq_true] at h
  obtain ⟨released, entered, hsent, hrel, hent⟩ := pad.exists_sent_eq selected
  have hsub : ss ⊆ pad.sent selected := hp.subset
  rw [hsent] at hp
  rcases List.prefix_or_prefix_of_prefix hp (List.prefix_append released entered) with hp | hp
  · refine .inl fun dir h => ?_
    rcases pressed_append h with h | hm
    · exact (hheld dir h).1
    · cases hrel _ (hp.subset hm)
  · refine .inr fun dir h => ?_
    rcases pressed_append h with h' | hm
    · -- still pressed from before: were it not selected, it would have been released
      refine Decidable.byContradiction fun hn => ?_
      have hfalse : selected.get dir = false := eq_false_of_ne_true hn
      obtain ⟨hd, ha⟩ := hheld dir h'
      have hm : (⟨dir, false⟩ : Stroke) ∈ released ++ entered := by
        rw [← hsent]
        exact mem_sent.2 ⟨⟨by rw [hd, hfalse]; decide, hfalse.symm⟩, ha⟩
      have hm : (⟨dir, false⟩ : Stroke) ∈ released := by
        rcases List.mem_append.1 hm with hm | hm
        · exact hm
        · cases hent _ hm
      rw [pressed_append_of_mem (b := false) _ ⟨_, hp.subset hm, rfl⟩] at h
      · cases h
      · exact fun s hs hd => (mem_sent.1 (hsub hs)).1.2.trans (by rw [hd, hfalse])
    · exact (mem_sent.1 (hsub hm)).1.2.symm

theorem Tracked.unopposed (ht : Tracked past pad) (hs : pad.Sound)
    (hp : ss <+: DirectionPad.stream ms pad) : Unopposed (pressed (past ++ ss)) := by
  induction ms generalizing pad past ss with
  | nil =>
    rw [List.prefix_nil.1 hp, List.append_nil]
    refine hs.unopposed.mono fun dir h => ?_
    rw [ht dir, Bool.and_eq_true] at h
    exact h.1
  | cons m ms ih =>
    rcases List.prefix_or_prefix_of_prefix hp (List.prefix_append _ _) with hp' | ⟨ts, rfl⟩
    · rcases ht.pressed_or_selected hp' with h | h
      · exact hs.unopposed.mono h
      · exact (hs.meet m).unopposed.mono h
    · rw [← List.append_assoc]
      exact ih (ht.meet m) (hs.meet m) ((List.prefix_append_right_inj _).1 hp)

/-- **A slide drops no direction, repeats none and presses no two opposite ones**, whatever calls a
pad has had, wherever it was then and wherever the contact touched. An accepted contact or movement
makes the pad hold the directions of the cell that is touched, and the end of the contact makes it
hold none. A call sends the releases of the directions that are left, in the order up, right, down
and left, and then the presses of those that are entered; directions that stay are left alone, and
so are those whose action injects nothing. What the whole run presses and releases are its strokes,
and after each of them neither up and down nor left and right are both pressed. -/
theorem slides_keep_directions_apart (actions : Directions ActionCode) (ms : List Meeting) :
    let start : DirectionPad := { actions }
    let pad := start.run ms
    (∀ m : Meeting,
      let r := pad.meet m
      (r.consumed = true → r.state.held = m.call.selection m.site.bounds) ∧
      (r.consumed = false → r.state = pad) ∧
      (m.call = .detach → r.state.held = .none) ∧
      r.requests = (if r.consumed then m.call.confirmation else []) ++
        ((pad.held.strokes r.state.held).filter fun s =>
          (actions.get s.direction).isDispatchable).map fun s =>
            .dispatch (actions.get s.direction) s.down m.site.anchor) ∧
    dispatches ms start = (stream ms start).map (fun s => (actions.get s.direction, s.down)) ∧
    (∀ dir, pressed (stream ms start) dir =
      (pad.held.get dir && (actions.get dir).isDispatchable)) ∧
    ∀ ss, ss <+: stream ms start → Unopposed (pressed ss) := by
  intro start pad
  have hstart : start.Sound := ⟨fun _ => rfl, Directions.unopposed_none⟩
  have htracked : Tracked [] start := fun dir => by cases dir <;> rfl
  have hactions : pad.actions = actions := actions_run
  refine ⟨fun m => ?_, dispatches_eq ms start, fun dir => ?_,
    fun ss hp => htracked.unopposed hstart hp⟩
  · obtain ⟨hdetach, haccepted, hignored⟩ := held_meet (hstart.run ms) m
    refine ⟨haccepted, hignored, hdetach, ?_⟩
    rw [← hactions]
    exact requests_meet
  · rw [← hactions]
    exact htracked.stream ms dir

def fourKeys : Directions ActionCode := ⟨.key 17, .key 32, .key 31, .key 30⟩

def square : Site where
  id := .ofNat 1
  passThrough := false
  bounds := ⟨0, 0, 90, 90⟩
  surface := ⟨90, 90⟩

/-- From the cell at the top over the corner to the cell at the right. -/
def roll : List Meeting :=
  [⟨square, {}, .down 5 ⟨45, 10⟩⟩, ⟨square, {}, .move 5 ⟨80, 10⟩⟩, ⟨square, {}, .move 5 ⟨80, 45⟩⟩]

/-- On the corner both keys are down, then that of the top comes up, and detaching the pad in the
end releases the other. -/
theorem slides_keep_directions_apart_of_roll :
    let start : DirectionPad := { actions := fourKeys }
    let pad := start.run (roll.take 2)
    let r := pad.meet ⟨square, {}, .move 5 ⟨80, 45⟩⟩
    pad.held = ⟨true, true, false, false⟩ ∧
      r.consumed = true ∧ r.state.held = ⟨false, true, false, false⟩ ∧
      dispatches roll start =
        [(.key 17, true), (.key 32, true), (.key 17, false)] ∧
      [⟨.up, true⟩, ⟨.right, true⟩] <+: stream roll start ∧
      Unopposed (pressed [⟨.up, true⟩, ⟨.right, true⟩]) ∧
      ((start.run roll).meet ⟨square, {}, .detach⟩).state.held = .none := by
  intro start pad r
  obtain ⟨hmeet, -, -, -⟩ := slides_keep_directions_apart fourKeys (roll.take 2)
  obtain ⟨hdetach, -, -, hapart⟩ := slides_keep_directions_apart fourKeys roll
  have hconsumed : r.consumed = true := by decide +kernel
  have hcut : [⟨.up, true⟩, ⟨.right, true⟩] <+: stream roll start := by decide +kernel
  refine ⟨by decide +kernel, hconsumed, ?_, by decide +kernel, hcut, hapart _ hcut,
    (hdetach _).2.2.1 rfl⟩
  rw [(hmeet _).1 hconsumed]
  decide +kernel

end DirectionPad
end TouchOverlay
