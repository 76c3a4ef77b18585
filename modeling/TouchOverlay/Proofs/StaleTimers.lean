import TouchOverlay.Proofs.Run

/-!
# Stale timers

A touchpad compares a timer that it hears of with those that it waits for, and takes no notice of
others. A `Bench` is any number of touchpads at one desk. Their calls come in any order, and any
timer may be delivered to any touchpad, however often: one that is still pending, one that has
fired or been cancelled, or that of another touchpad.

The queue gives no handle out twice. So what a touchpad waits for after a step it waited for before
or has just scheduled (`Bench.Sound.waits_step`), and a handle that nobody waits for any more is
`Spent` for good.
-/

namespace TouchOverlay
open TimerQueue

namespace Touchpad

inductive Call
  | down (p : PointerId) (spot : Point)
  | move (p : PointerId) (spot : Point)
  | up (p : PointerId)
  | detach
  | timer (h : TimerHandle)

def answer (sv : Services) (site : Site) (pad : Touchpad) (d : Desk) : Call → Reaction Touchpad
  | .down p spot => pad.down sv site p spot d
  | .move p spot => pad.move sv site p spot d
  | .up p => pad.up site p d
  | .detach => pad.detach site d
  | .timer h => pad.timer sv site h d

/-- Of some timers, those that a call does not deliver. -/
def Call.others (hs : List TimerHandle) : Call → List TimerHandle
  | timer h => hs.erase h
  | _ => hs

/-- The timers that a new contact cancels. A second press closes the idle window early, and the
click that it may send takes the place of an outstanding one. -/
def pressCancels (pad : Touchpad) : List TimerHandle :=
  match pad.phase with
  | .pending idle => if pad.doubleTapDrag then [idle] else pad.timers
  | _ => []

/-- The timers that a call cancels. The idle window closes early when the contact crosses the
threshold as well, a click at the end of the window takes the place of an outstanding one, and a
session that has ended needs no timers. -/
def cancels (sv : Services) (site : Site) (pad : Touchpad) (d : Desk) : Call → List TimerHandle
  | .down p _ =>
    if pad.contact? = none ∧ site.take? p d ≠ none then pad.pressCancels else []
  | .move p spot =>
    match pad.contact? with
    | some c =>
      if c.pointer = p ∧ sv.moveThreshold < (spot - c.initial).length then pad.idleTimer?.toList
      else []
    | none => []
  | .up _ => []
  | .detach => pad.timers
  | .timer h =>
    if pad.clickTimer? ≠ some h ∧ pad.idleTimer? = some h ∧ pad.contact? = none then
      pad.clickTimer?.toList
    else []

variable {sv : Services} {site : Site} {pad : Touchpad} {d : Desk} {h : TimerHandle}
  {hs : List TimerHandle} {c : Call} {p : PointerId} {spot : Point}

theorem Call.others_subset : c.others hs ⊆ hs := by
  cases c with
  | timer h => exact List.erase_subset
  | _ => exact List.Subset.refl _

theorem Call.mem_others_iff (hn : hs.Nodup) : h ∈ c.others hs ↔ h ∈ hs ∧ c ≠ .timer h := by
  cases c with
  | timer h' => simp [others, hn.mem_erase_iff, and_comm, eq_comm]
  | _ => simp [others]

theorem turn_answer (c : Call) (hn : pad.timers.Nodup) :
    Turn site.id d.timers (c.others pad.timers) (pad.answer sv site d c).desk.timers
      (pad.answer sv site d c).state.timers := by
  cases c with
  | down p spot =>
    show Turn site.id d.timers pad.timers (pad.down sv site p spot d).desk.timers
      (pad.down sv site p spot d).state.timers
    rcases pad.down_cases sv site p spot d with ⟨hr, -⟩ | ⟨d', -, ht, hr⟩ <;> rw [hr]
    · exact .done (.refl _)
    · rw [← (Site.take?_eq_some ht).2]
      exact turn_beginContact sv site spot
        { pad with contact? := some { pointer := p, initial := spot, last := spot } } d'
  | move p spot => exact ((Behaviour.touchpad pad).keeps_move sv site p spot d).1.turn
  | up p =>
    show Turn site.id d.timers pad.timers (pad.up site p d).desk.timers
      (pad.up site p d).state.timers
    by_cases hp : pad.pointer? = some p
    · rw [timers_up, (up_frame site d hp).2.2.1]
      exact .done (.refl _)
    · rw [up_of_ne hp]
      exact .done (.refl _)
  | detach => exact turn_detach
  | timer h => exact turn_timer sv site d h hn

/-! ## What a call cancels -/

theorem nextHandle_cancelClick : (pad.cancelClick d).timers.nextHandle = d.timers.nextHandle := by
  unfold cancelClick
  cases pad.clickTimer? with
  | none => rfl
  | some h => exact nextHandle_cancel

theorem clickTimer?_resolveClick :
    (resolveClick sv site pad d).1.clickTimer? = some d.timers.nextHandle :=
  congrArg some nextHandle_cancelClick

theorem nextHandle_resolveClick :
    (resolveClick sv site pad d).2.timers.nextHandle = d.timers.nextHandle + 1 :=
  congrArg (· + 1) nextHandle_cancelClick

theorem timers_startPending : (startPending sv site pad d).1.timers =
    d.timers.nextHandle :: pad.clickTimer?.toList := rfl

theorem idleTimer?_eq_some_iff : pad.idleTimer? = some h ↔ pad.phase = .pending h := by
  cases hp : pad.phase <;> simp [idleTimer?, hp]

theorem mem_clickTimer_iff {idle : TimerHandle} (hp : pad.phase = .pending idle)
    (hn : pad.timers.Nodup) : h ∈ pad.clickTimer?.toList ↔ h ∈ pad.timers ∧ h ≠ idle := by
  rw [and_comm, ← hn.mem_erase_iff, timers_of_pending hp, List.erase_cons_head]

theorem mem_timers_beginContact (hi : d.timers.Issued pad.timers) (hlt : h < d.timers.nextHandle) :
    h ∈ (beginContact sv site spot pad d).state.timers ↔
      h ∈ pad.timers ∧ h ∉ pad.pressCancels := by
  have hne : h ≠ d.timers.nextHandle := Nat.ne_of_lt hlt
  unfold beginContact pressCancels
  cases hp : pad.phase with
  | pending idle =>
    cases pad.doubleTapDrag with
    | true =>
      show h ∈ pad.clickTimer?.toList ↔ h ∈ pad.timers ∧ h ∉ [idle]
      rw [List.mem_singleton]
      exact mem_clickTimer_iff hp hi.nodup
    | false =>
      have hne' : h ≠ d.timers.nextHandle + 1 := Nat.ne_of_lt (Nat.lt_succ_of_lt hlt)
      have hleft : h ∉ (startPending sv site (resolveClick sv site pad (d.cancel idle)).1
          (resolveClick sv site pad (d.cancel idle)).2).1.timers := by
        rw [timers_startPending, clickTimer?_resolveClick, nextHandle_resolveClick]
        simp [hne, hne', nextHandle_cancel]
      exact iff_of_false hleft fun hm => hm.2 hm.1
  | _ => simp [timers_startPending, timers_of_ne, hp, hne]

theorem mem_timers_slide (hn : pad.timers.Nodup) {con : Contact} :
    h ∈ (slide sv site con spot pad d).state.timers ↔ h ∈ pad.timers ∧
      (sv.moveThreshold < (spot - con.initial).length → h ∉ pad.idleTimer?.toList) := by
  cases hp : pad.phase with
  | pending idle =>
    by_cases hf : sv.moveThreshold < (spot - con.initial).length
    · have hidle : pad.idleTimer? = some idle := idleTimer?_eq_some_iff.2 hp
      simp only [slide, hp, hf, if_true, true_implies, hidle, Option.toList_some,
        List.mem_singleton]
      exact mem_clickTimer_iff hp hn
    · simp [slide, hp, hf, timers, idleTimer?]
  | _ => simp [slide, hp, timers, idleTimer?]

theorem mem_timers_closeWindow (hlt : h < d.timers.nextHandle) :
    h ∈ (closeWindow sv site pad d).state.timers ↔
      h ∈ pad.clickTimer?.toList ∧ pad.contact? ≠ none := by
  unfold closeWindow
  cases hc : pad.contact? with
  | some con => simp [timers, idleTimer?]
  | none =>
    have hne : h ≠ d.timers.nextHandle := Nat.ne_of_lt hlt
    show h ∈ (resolveClick sv site pad d).1.clickTimer?.toList ↔ _
    rw [clickTimer?_resolveClick]
    simp [hne]

theorem mem_timers_timer (h' : TimerHandle) (hi : d.timers.Issued pad.timers)
    (hlt : h < d.timers.nextHandle) :
    h ∈ (pad.timer sv site h' d).state.timers ↔
      (h ∈ pad.timers ∧ h ≠ h') ∧ h ∉ pad.cancels sv site d (.timer h') := by
  by_cases hc : pad.clickTimer? = some h'
  · have hnil : pad.cancels sv site d (.timer h') = [] := if_neg fun hn => hn.1 hc
    have hn := hi.nodup
    rw [timer_of_click hc, hnil]
    cases hp : pad.phase with
    | pending idle =>
      rw [timers_of_pending hp, hc] at hn
      have hne : idle ≠ h' := by simpa using hn
      simp only [timers, idleTimer?, hp, hc, Option.toList_some, Option.toList_none,
        List.append_nil, List.singleton_append, List.mem_cons, List.not_mem_nil, or_false,
        not_false_eq_true, and_true]
      exact ⟨fun he => ⟨.inl he, he ▸ hne⟩, fun hm => hm.1.resolve_right hm.2⟩
    | _ => simp [timers, idleTimer?, hp, hc]
  · by_cases hp : pad.phase = .pending h'
    · have hidle : pad.idleTimer? = some h' := idleTimer?_eq_some_iff.2 hp
      rw [timer_of_idle hc hp, mem_timers_closeWindow hlt, mem_clickTimer_iff hp hi.nodup]
      simp only [cancels, hidle, ne_eq, hc, not_false_eq_true, true_and]
      split
      · rename_i hnone
        simp [hnone, mem_clickTimer_iff hp hi.nodup]
      · rename_i hsome
        simp [hsome]
    · have hnil : pad.cancels sv site d (.timer h') = [] :=
        if_neg fun hn => hp (idleTimer?_eq_some_iff.1 hn.2.1)
      have hm := not_mem_timers hc hp
      have hne : h ∈ pad.timers → h ≠ h' := fun hm' he => hm (he ▸ hm')
      rw [timer_of_not_mem hm, hnil]
      simpa [Reaction.ignored] using hne

theorem pressCancels_subset : pad.pressCancels ⊆ pad.timers := by
  unfold pressCancels
  cases hp : pad.phase with
  | pending idle =>
    dsimp only
    split
    · rw [timers_of_pending hp]
      exact List.cons_subset_cons _ (List.nil_subset _)
    · exact List.Subset.refl _
  | _ => exact List.nil_subset _

theorem mem_of_mem_cancels (hm : h ∈ pad.cancels sv site d c) : h ∈ pad.timers ∧ c ≠ .timer h := by
  have hidle : pad.idleTimer?.toList ⊆ pad.timers := List.subset_append_left _ _
  have hclick : pad.clickTimer?.toList ⊆ pad.timers := List.subset_append_right _ _
  cases c with
  | down p spot =>
    simp only [cancels] at hm
    split at hm
    · exact ⟨pressCancels_subset hm, nofun⟩
    · cases hm
  | move p spot =>
    simp only [cancels] at hm
    split at hm
    · split at hm
      · exact ⟨hidle hm, nofun⟩
      · cases hm
    · cases hm
  | up p => cases hm
  | detach => exact ⟨hm, nofun⟩
  | timer h' =>
    simp only [cancels] at hm
    split at hm
    · rename_i hn
      refine ⟨hclick hm, fun he => hn.1 ?_⟩
      cases he
      exact Option.mem_toList.1 hm
    · cases hm

/-- Of the timers from before, a call leaves those that it neither delivers nor cancels. -/
theorem mem_timers_answer (c : Call) (hi : d.timers.Issued pad.timers)
    (hlt : h < d.timers.nextHandle) :
    h ∈ (pad.answer sv site d c).state.timers ↔
      (h ∈ pad.timers ∧ c ≠ .timer h) ∧ h ∉ pad.cancels sv site d c := by
  cases c with
  | down p spot =>
    show h ∈ (pad.down sv site p spot d).state.timers ↔ _
    simp only [cancels, ne_eq, reduceCtorEq, not_false_eq_true, and_true]
    rcases pad.down_cases sv site p spot d with ⟨hr, hn⟩ | ⟨d', hn, ht, hr⟩ <;> rw [hr]
    · rw [if_neg fun hc => hc.2 (hn hc.1)]
      simp [Reaction.ignored]
    · rw [if_pos ⟨hn, by simp [ht]⟩]
      rw [← (Site.take?_eq_some ht).2] at hi hlt
      let pad' : Touchpad :=
        { pad with contact? := some { pointer := p, initial := spot, last := spot } }
      have hi : d'.timers.Issued pad'.timers := hi
      exact mem_timers_beginContact hi hlt
  | move p spot =>
    show h ∈ (pad.move sv site p spot d).state.timers ↔ _
    simp only [cancels, ne_eq, reduceCtorEq, not_false_eq_true, and_true]
    unfold Touchpad.move
    cases pad.contact? with
    | none => simp [Reaction.ignored]
    | some con =>
      dsimp only
      by_cases hp : con.pointer = p
      · rw [if_pos hp, mem_timers_slide hi.nodup]
        split <;> simp_all
      · simp [hp, Reaction.ignored]
  | up p =>
    show h ∈ (pad.up site p d).state.timers ↔ _
    simp [timers_up, cancels]
  | detach =>
    show h ∈ [] ↔ _
    simp [cancels]
  | timer h' =>
    show h ∈ (pad.timer sv site h' d).state.timers ↔ _
    rw [mem_timers_timer h' hi hlt]
    simp [eq_comm]

end Touchpad

theorem TimerQueue.Issued.others {q : TimerQueue} {hs : List TimerHandle} {c : Touchpad.Call}
    (hi : q.Issued hs) : q.Issued (c.others hs) := by
  cases c with
  | timer h => exact hi.erase h
  | _ => exact hi

/-- Touchpads that share a desk. -/
structure Bench (ι : Type) where
  desk : Desk
  pads : ι → Touchpad

namespace Bench

/-- What happens at a bench: a call on a touchpad, or what others do at the desk. They move the
clock, take the first timer that is due, schedule timers of their own and call on the claims. -/
inductive Event (ι : Type)
  | call (i : ι) (c : Touchpad.Call)
  | tick (now : Millis)
  | expire (now : Millis)
  | schedule (o : ControlId) (delay : Millis)
  | claims (c : ClaimCall)

variable {ι : Type}

/-- Touchpads without a session. -/
def fresh (cl : Claims) (doubleTapDrag : ι → Bool) : Bench ι where
  desk := { claims := cl, timers := .empty }
  pads i := { doubleTapDrag := doubleTapDrag i }

def nextHandle (b : Bench ι) : TimerHandle := b.desk.timers.nextHandle

/-- The touchpad waits for the timer, to close the idle window or to release the button. -/
def Waits (b : Bench ι) (i : ι) (h : TimerHandle) : Prop :=
  (b.pads i).clickTimer? = some h ∨ (b.pads i).phase = .pending h

/-- Delivering the timer changes the touchpad, the desk, or what has been asked for. -/
def TakesEffect (sv : Services) (site : ι → Site) (b : Bench ι) (i : ι) (h : TimerHandle) : Prop :=
  let r := (b.pads i).timer sv (site i) h b.desk
  r.state ≠ b.pads i ∨ r.desk ≠ b.desk ∨ r.requests ≠ []

/-- No touchpad waits for the timer, nor will it be given out. -/
structure Spent (b : Bench ι) (h : TimerHandle) : Prop where
  lt : h < b.nextHandle
  not_waits : ∀ i, ¬ b.Waits i h

variable {sv : Services} {site : ι → Site} {b : Bench ι} {i j : ι} {h : TimerHandle}

theorem waits_iff : b.Waits i h ↔ h ∈ (b.pads i).timers := by
  rw [Touchpad.mem_timers, Waits, or_comm]

/-- A timer takes effect just if the touchpad waits for it. -/
theorem takesEffect_iff : b.TakesEffect sv site i h ↔ b.Waits i h := by
  constructor
  · intro he
    refine Classical.byContradiction fun hw => ?_
    rw [waits_iff] at hw
    simp [TakesEffect, Touchpad.timer_of_not_mem hw, Reaction.ignored] at he
  · intro hw
    -- the click timer is forgotten, or the idle window closes: either shows in the state
    refine .inl fun hr => ?_
    by_cases hc : (b.pads i).clickTimer? = some h
    · rw [Touchpad.timer_of_click hc] at hr
      have hnone : none = (b.pads i).clickTimer? := congrArg Touchpad.clickTimer? hr
      rw [hc] at hnone
      cases hnone
    · have hp := hw.resolve_left hc
      rw [Touchpad.timer_of_idle hc hp] at hr
      have hphase := congrArg Touchpad.phase hr
      unfold Touchpad.closeWindow at hphase
      rw [hp] at hphase
      split at hphase <;> cases hphase

/-- Each touchpad has timers of its own, which the queue has given out. The queue need not have
them still. -/
structure Sound (b : Bench ι) : Prop where
  wf : b.desk.timers.WF
  issued : ∀ i, b.desk.timers.Issued (b.pads i).timers
  apart : ∀ i j h, b.Waits i h → b.Waits j h → i = j

namespace Sound

theorem fresh (cl : Claims) (doubleTapDrag : ι → Bool) : (Bench.fresh cl doubleTapDrag).Sound := by
  have hw : ∀ i h, ¬ (Bench.fresh cl doubleTapDrag).Waits i h := fun i h hw => by
    rcases hw with hw | hw <;> cases hw
  exact ⟨.empty, fun _ => ⟨.nil, fun _ hm => absurd hm List.not_mem_nil⟩,
    fun i _ h hi _ => absurd hi (hw i h)⟩

theorem lt (hb : b.Sound) (hw : b.Waits i h) : h < b.nextHandle :=
  (hb.issued i).lt h (waits_iff.1 hw)

end Sound

/-! ## Steps -/

variable [DecidableEq ι]

def step (sv : Services) (site : ι → Site) (b : Bench ι) : Event ι → Bench ι
  | .call i c =>
    let r := (b.pads i).answer sv (site i) b.desk c
    { desk := r.desk, pads := fun j => if j = i then r.state else b.pads j }
  | .tick now => { b with desk.timers := b.desk.timers.advanceClock now }
  | .expire now =>
    match b.desk.timers.popExpired? now with
    | some (_, q) => { b with desk.timers := q }
    | none => b
  | .schedule o delay => { b with desk.timers := (b.desk.timers.schedule o delay).2 }
  | .claims c => { b with desk.claims := c.apply b.desk.claims }

def run (sv : Services) (site : ι → Site) (b : Bench ι) (evs : List (Event ι)) : Bench ι :=
  evs.foldl (step sv site) b

/-- Among some events is a call on the touchpad in which the queue gives the handle out. -/
def ScheduledBy (sv : Services) (site : ι → Site) (h : TimerHandle) (i : ι) :
    Bench ι → List (Event ι) → Prop
  | _, [] => False
  | b, e :: evs =>
    (∃ c, e = .call i c) ∧ b.nextHandle ≤ h ∧ h < (b.step sv site e).nextHandle ∨
      ScheduledBy sv site h i (b.step sv site e) evs

variable {e : Event ι} {c : Touchpad.Call} {evs : List (Event ι)}

theorem pads_step (he : ¬ ∃ c, e = .call j c) : (b.step sv site e).pads j = b.pads j := by
  cases e with
  | call i c =>
    have hne : j ≠ i := fun hij => he ⟨c, by rw [hij]⟩
    exact if_neg hne
  | expire now =>
    unfold step
    dsimp only
    split <;> rfl
  | _ => rfl

namespace Sound

theorem turn (hb : b.Sound) (i : ι) (c : Touchpad.Call) :
    Turn (site i).id b.desk.timers (c.others (b.pads i).timers)
      (b.step sv site (.call i c)).desk.timers ((b.step sv site (.call i c)).pads i).timers := by
  have ht : Turn (site i).id b.desk.timers _
      ((b.pads i).answer sv (site i) b.desk c).desk.timers _ :=
    Touchpad.turn_answer c (hb.issued i).nodup
  simpa [Bench.step] using ht

theorem nextHandle_le (hb : b.Sound) (e : Event ι) :
    b.nextHandle ≤ (b.step sv site e).nextHandle := by
  cases e with
  | call i c => exact (hb.turn i c).nextHandle_le
  | expire now =>
    unfold Bench.step
    dsimp only
    split
    · rename_i hq
      exact Nat.le_of_eq (nextHandle_popExpired? hq).symm
    · exact Nat.le_refl _
  | schedule o delay => exact Nat.le_succ _
  | _ => exact Nat.le_refl _

theorem wf_step (hb : b.Sound) (e : Event ι) : (b.step sv site e).desk.timers.WF := by
  cases e with
  | call i c => exact (hb.turn i c).wf hb.wf
  | tick now => exact hb.wf.advanceClock now
  | expire now =>
    unfold Bench.step
    dsimp only
    split
    · rename_i hq
      exact hb.wf.popExpired? hq
    · exact hb.wf
  | schedule o delay => exact hb.wf.schedule o delay
  | claims c => exact hb.wf

/-- What a touchpad waits for after a step, it waited for before or has scheduled in the step. -/
theorem waits_step (hb : b.Sound) (hw : (b.step sv site e).Waits j h) :
    b.Waits j h ∨ (∃ c, e = .call j c) ∧ b.nextHandle ≤ h := by
  by_cases he : ∃ c, e = .call j c
  · obtain ⟨c, rfl⟩ := he
    rcases (hb.turn j c).mem_or_fresh (waits_iff.1 hw) with hm | hle
    · exact .inl (waits_iff.2 (Touchpad.Call.others_subset hm))
    · exact .inr ⟨⟨c, rfl⟩, hle⟩
  · left
    rwa [Waits, pads_step he] at hw

theorem issued_step (hb : b.Sound) (e : Event ι) (j : ι) :
    (b.step sv site e).desk.timers.Issued ((b.step sv site e).pads j).timers := by
  by_cases he : ∃ c, e = .call j c
  · obtain ⟨c, rfl⟩ := he
    exact (hb.turn j c).issued (hb.issued j).others
  · rw [pads_step he]
    exact (hb.issued j).of_le (hb.nextHandle_le e)

protected theorem step (hb : b.Sound) (e : Event ι) : (b.step sv site e).Sound := by
  refine ⟨hb.wf_step e, hb.issued_step e, fun i j h hi hj => ?_⟩
  -- a timer that the step has scheduled is new to the queue, so nobody waited for it before
  rcases hb.waits_step hi with hi | ⟨⟨c, rfl⟩, hle⟩
  · rcases hb.waits_step hj with hj | ⟨-, hle⟩
    · exact hb.apart i j h hi hj
    · exact absurd (hb.lt hi) (Nat.not_lt.2 hle)
  · rcases hb.waits_step hj with hj | ⟨⟨c', he⟩, -⟩
    · exact absurd (hb.lt hj) (Nat.not_lt.2 hle)
    · cases he
      rfl

protected theorem run (hb : b.Sound) (evs : List (Event ι)) : (b.run sv site evs).Sound := by
  induction evs generalizing b with
  | nil => exact hb
  | cons e evs ih => exact ih (hb.step e)

theorem waits_call_iff (hb : b.Sound) (i : ι) (c : Touchpad.Call) (hlt : h < b.nextHandle) :
    (b.step sv site (.call i c)).Waits i h ↔
      (b.Waits i h ∧ c ≠ .timer h) ∧ h ∉ (b.pads i).cancels sv (site i) b.desk c := by
  have ha : h ∈ ((b.pads i).answer sv (site i) b.desk c).state.timers ↔ _ :=
    Touchpad.mem_timers_answer c (hb.issued i) hlt
  rw [waits_iff, waits_iff, ← ha]
  simp [Bench.step]

/-- A call cancels the timers in its list, and leaves all others as they are. -/
theorem isPending_call (hb : b.Sound) (i : ι) (c : Touchpad.Call) (hlt : h < b.nextHandle) :
    (b.step sv site (.call i c)).desk.timers.isPending h =
      (b.desk.timers.isPending h && h ∉ (b.pads i).cancels sv (site i) b.desk c) := by
  have hm : h ∈ c.others (b.pads i).timers ∧
      h ∉ ((b.step sv site (.call i c)).pads i).timers ↔
        h ∈ (b.pads i).cancels sv (site i) b.desk c := by
    rw [Touchpad.Call.mem_others_iff (hb.issued i).nodup, ← waits_iff, ← waits_iff,
      hb.waits_call_iff i c hlt]
    constructor
    · rintro ⟨hw, hn⟩
      exact Decidable.byContradiction fun hc => hn ⟨hw, hc⟩
    · intro hc
      obtain ⟨hw, hne⟩ := Touchpad.mem_of_mem_cancels hc
      exact ⟨⟨waits_iff.2 hw, hne⟩, fun hn => hn.2 hc⟩
  rw [isPending_eq, isPending_eq, (hb.turn i c).deadlines (hb.issued i).others hlt]
  by_cases hc : h ∈ (b.pads i).cancels sv (site i) b.desk c
  · rw [if_pos (hm.2 hc)]
    simp [hc]
  · rw [if_neg (mt hm.1 hc)]
    simp [hc]

end Sound

/-! ## Runs -/

namespace Spent

protected theorem step (hb : b.Sound) (hs : b.Spent h) (e : Event ι) :
    (b.step sv site e).Spent h := by
  refine ⟨Nat.lt_of_lt_of_le hs.lt (hb.nextHandle_le e), fun i hw => ?_⟩
  rcases hb.waits_step hw with hw | ⟨-, hle⟩
  · exact hs.not_waits i hw
  · exact Nat.not_lt.2 hle hs.lt

/-- A spent timer never takes effect again. -/
theorem not_takesEffect (hb : b.Sound) (hs : b.Spent h) (evs : List (Event ι)) (j : ι) :
    ¬ (b.run sv site evs).TakesEffect sv site j h := by
  rw [takesEffect_iff]
  induction evs generalizing b with
  | nil => exact hs.not_waits j
  | cons e evs ih => exact ih (hb.step e) (hs.step hb e)

end Spent

namespace Sound

/-- A timer that a call delivers or cancels is spent, if the touchpad has waited for it. -/
theorem spent_of_call (hb : b.Sound) (hw : b.Waits i h)
    (hd : c = .timer h ∨ h ∈ (b.pads i).cancels sv (site i) b.desk c) :
    (b.step sv site (.call i c)).Spent h := by
  have hlt := hb.lt hw
  refine ⟨Nat.lt_of_lt_of_le hlt (hb.nextHandle_le _), fun j hj => ?_⟩
  rcases hb.waits_step hj with hw' | ⟨-, hle⟩
  · rw [← hb.apart i j h hw hw', hb.waits_call_iff i c hlt] at hj
    exact hd.elim hj.1.2 hj.2
  · exact Nat.not_lt.2 hle hlt

end Sound

theorem ScheduledBy.le (hb : b.Sound) (hs : ScheduledBy sv site h i b evs) : b.nextHandle ≤ h := by
  induction evs generalizing b with
  | nil => exact hs.elim
  | cons e evs ih =>
    rcases hs with ⟨-, hle, -⟩ | hs
    · exact hle
    · exact Nat.le_trans (hb.nextHandle_le e) (ih (hb.step e) hs)

/-- No timer is scheduled twice. -/
theorem ScheduledBy.unique (hb : b.Sound) (hi : ScheduledBy sv site h i b evs)
    (hj : ScheduledBy sv site h j b evs) : i = j := by
  induction evs generalizing b with
  | nil => exact hi.elim
  | cons e evs ih =>
    rcases hi with ⟨⟨c, rfl⟩, -, hlt⟩ | hi
    · rcases hj with ⟨⟨c', he⟩, -⟩ | hj
      · cases he
        rfl
      · exact absurd hlt (Nat.not_lt.2 (hj.le (hb.step _)))
    · rcases hj with ⟨-, -, hlt⟩ | hj
      · exact absurd hlt (Nat.not_lt.2 (hi.le (hb.step e)))
      · exact ih (hb.step e) hi hj

theorem Sound.scheduledBy_of_waits (hb : b.Sound) (hw : (b.run sv site evs).Waits j h) :
    b.Waits j h ∨ ScheduledBy sv site h j b evs := by
  induction evs generalizing b with
  | nil => exact .inl hw
  | cons e evs ih =>
    rcases ih (hb.step e) hw with hw | hs
    · rcases hb.waits_step hw with hw' | ⟨hc, hle⟩
      · exact .inl hw'
      · exact .inr (.inl ⟨hc, hle, (hb.step e).lt hw⟩)
    · exact .inr (.inr hs)

/-- **Stale timers are harmless**, whatever the order of calls and deliveries. Delivering a timer to
a touchpad has an effect just if that touchpad waits for it then. It is the touchpad that has
scheduled the timer, and the timer never takes effect again, at any touchpad. The timers that a
call takes from the queue are those that it cancels, and they never take effect afterwards
either. -/
theorem stale_timers_harmless (sv : Services) (site : ι → Site) (cl : Claims)
    (doubleTapDrag : ι → Bool) (evs : List (Event ι)) (h : TimerHandle) :
    let start := fresh cl doubleTapDrag
    let b := start.run sv site evs
    let never (b' : Bench ι) := ∀ evs' j, ¬ (b'.run sv site evs').TakesEffect sv site j h
    (∀ i, b.TakesEffect sv site i h ↔
      (b.pads i).clickTimer? = some h ∨ (b.pads i).phase = .pending h) ∧
    (∀ i, b.TakesEffect sv site i h →
      (∀ j, ScheduledBy sv site h j start evs ↔ j = i) ∧
        never (b.step sv site (.call i (.timer h)))) ∧
    ∀ i c,
      let b' := b.step sv site (.call i c)
      let cancelled := h ∈ (b.pads i).cancels sv (site i) b.desk c
      (b.desk.timers.isPending h = true →
        (b'.desk.timers.isPending h = false ↔ cancelled)) ∧
      (cancelled → never b') := by
  intro start b never
  have hstart : start.Sound := .fresh cl doubleTapDrag
  have hb : b.Sound := hstart.run evs
  have hnone : ∀ i, ¬ start.Waits i h := fun i hw => by rcases hw with hw | hw <;> cases hw
  refine ⟨fun i => takesEffect_iff, fun i he => ?_, fun i c => ⟨fun hp => ?_, fun hc => ?_⟩⟩
  · rw [takesEffect_iff] at he
    have hs : ScheduledBy sv site h i start evs :=
      (hstart.scheduledBy_of_waits he).resolve_left (hnone i)
    refine ⟨fun j => ⟨fun hj => hj.unique hstart hs, fun hj => hj ▸ hs⟩, ?_⟩
    exact (hb.spent_of_call he (.inl rfl)).not_takesEffect (hb.step _)
  · have hlt : h < b.nextHandle := by
      rw [isPending_eq] at hp
      obtain ⟨t, ht⟩ := Option.isSome_iff_exists.1 hp
      exact hb.wf.fresh h t ht
    rw [hb.isPending_call i c hlt, hp]
    simp
  · have hw := waits_iff.2 (Touchpad.mem_of_mem_cancels hc).1
    exact (hb.spent_of_call hw (.inr hc)).not_takesEffect (hb.step _)

/-- Two touchpads side by side. -/
def twoSites (left : Bool) : Site where
  id := if left then .ofNat 1 else .ofNat 2
  passThrough := false
  bounds := if left then ⟨0, 0, 50, 100⟩ else ⟨50, 0, 50, 100⟩
  surface := ⟨100, 100⟩

/-- A press on each of them. The idle windows are the timers 0 and 1. -/
def twoPresses : List (Event Bool) :=
  [.call true (.down 5 ⟨10, 10⟩), .call false (.down 6 ⟨10, 10⟩)]

/-- Each timer has an effect at its own touchpad only, and that of the left one has none any more
when its contact has crossed the threshold. -/
theorem stale_timers_harmless_of_crossing :
    let b := (fresh .empty fun _ => true).run {} twoSites twoPresses
    let b' := b.step {} twoSites (.call true (.move 5 ⟨40, 10⟩))
    b.TakesEffect {} twoSites true 0 ∧ b.TakesEffect {} twoSites false 1 ∧
      ¬ b.TakesEffect {} twoSites true 1 ∧
      ∀ evs j, ¬ (b'.run {} twoSites evs).TakesEffect {} twoSites j 0 := by
  intro b b'
  have h (n : TimerHandle) := stale_timers_harmless {} twoSites .empty (fun _ => true) twoPresses n
  have hidle : (b.pads true).idleTimer? = some 0 ∧ (b.pads false).idleTimer? = some 1 := by
    decide +kernel
  have hleft : b.TakesEffect {} twoSites true 0 :=
    ((h 0).1 true).2 (.inr (Touchpad.idleTimer?_eq_some_iff.1 hidle.1))
  have hright : b.TakesEffect {} twoSites false 1 :=
    ((h 1).1 false).2 (.inr (Touchpad.idleTimer?_eq_some_iff.1 hidle.2))
  refine ⟨hleft, hright, fun he => ?_, ?_⟩
  · -- the left touchpad would have scheduled the timer of the right one
    have hs := (((h 1).2.1 true he).1 true).2 rfl
    exact Bool.noConfusion ((((h 1).2.1 false hright).1 true).1 hs)
  · exact ((h 0).2.2 true (.move 5 ⟨40, 10⟩)).2 (by decide +kernel)

end Bench
end TouchOverlay
