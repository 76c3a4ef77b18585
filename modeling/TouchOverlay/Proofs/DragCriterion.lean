import TouchOverlay.Settings
import TouchOverlay.Proofs.DragButton

/-!
# The tunings with which a drag keeps the left button down

`Tuning.KeepsDrags` is sufficient (`Services.dragsHold_of_keepsDrags`). Here it is shown to be
necessary. On a surface with nothing but one touchpad (`Surface.lone`) every other tuning lets a
drag start while a click is outstanding (`overlap_hold`, `overlap_doubleTap`), and the timer of that
click then releases the button of the drag (`Reaches.not_dragsHold`).

The touchpad holds two timers at most, so its queue is written as a list (`TimerQueue.ofList`), and
`Reaches` has one rule for each thing that a finger or the clock can do to it.
-/

namespace TouchOverlay

namespace Millis
variable {t delay : Millis}

theorem zero_later : later 0 delay = delay := by
  have hd := delay.toNat_lt
  rw [← UInt64.toNat_inj, toNat_later, UInt64.toNat_zero]
  omega

theorem lt_later_of_ne_last (ht : t ≠ 0xffffffffffffffff) (hd : delay ≠ 0) : t < later t delay := by
  have hle := t.toNat_lt
  rw [Ne, ← UInt64.toNat_inj, toNat_last] at ht
  rw [Ne, ← UInt64.toNat_inj, UInt64.toNat_zero] at hd
  rw [UInt64.lt_iff_toNat_lt, toNat_later]
  omega

theorem max_self : max t t = t := by
  rw [← UInt64.toNat_inj, toNat_max, Nat.max_self]

theorem max_max : max (max t delay) delay = max t delay := by
  rw [← UInt64.toNat_inj, toNat_max, toNat_max]
  omega

theorem zero_max : max 0 t = t := by
  rw [← UInt64.toNat_inj, toNat_max, UInt64.toNat_zero, Nat.zero_max]

end Millis

namespace TimerQueue

/-- The queue with the given timers, all of one control. -/
def ofList (o : ControlId) (now : Millis) (n : TimerHandle) (l : List Due) : TimerQueue :=
  { now
    nextHandle := n
    byDeadline := l.foldr (fun d m => m.insert d o) ∅
    deadlines := l.foldr (fun d m => m.insert d.handle d.deadline) ∅ }

variable {o : ControlId} {now t delay : Millis} {n h : TimerHandle} {d e : Due} {l : List Due}

theorem byDeadline_ofList :
    (ofList o now n l).byDeadline[d]? = if d ∈ l then some o else none := by
  induction l with
  | nil => simp [ofList]
  | cons e l ih =>
    have hi : (ofList o now n (e :: l)).byDeadline[d]? =
        if e = d then some o else (ofList o now n l).byDeadline[d]? := by
      simp [ofList, Std.ExtTreeMap.getElem?_insert, Std.LawfulEqCmp.compare_eq_iff_eq]
    rw [hi, ih]
    simp only [List.mem_cons, eq_comm (a := d)]
    by_cases he : e = d <;> simp [he]

theorem mem_byDeadline_ofList : d ∈ (ofList o now n l).byDeadline ↔ d ∈ l := by
  rw [mem_byDeadline_iff, byDeadline_ofList]
  by_cases hd : d ∈ l <;> simp [hd]

theorem deadlines_ofList_cons : (ofList o now n (d :: l)).deadlines[h]? =
    if d.handle = h then some d.deadline else (ofList o now n l).deadlines[h]? := by
  simp [ofList, Std.ExtTreeMap.getElem?_insert, Std.LawfulEqCmp.compare_eq_iff_eq]

theorem deadlines_ofList_eq_none (hh : h ∉ l.map Due.handle) :
    (ofList o now n l).deadlines[h]? = none := by
  induction l with
  | nil => simp [ofList]
  | cons d l ih =>
    rw [List.map_cons, List.mem_cons, not_or] at hh
    rw [deadlines_ofList_cons, if_neg (Ne.symm hh.1), ih hh.2]

theorem remove_ofList_cons (hd : d.handle ∉ l.map Due.handle) :
    (ofList o now n (d :: l)).remove d = ofList o now n l := by
  have hdl : d ∉ l := fun hm => hd (List.mem_map_of_mem hm)
  refine TimerQueue.ext rfl rfl (Std.ExtTreeMap.ext_getElem? fun e => ?_)
    (Std.ExtTreeMap.ext_getElem? fun h => ?_)
  · rw [byDeadline_remove, byDeadline_ofList, byDeadline_ofList]
    by_cases he : d = e
    · subst he
      simp [hdl]
    · simp [he, Ne.symm he]
  · rw [deadlines_remove, deadlines_ofList_cons]
    by_cases hh : d.handle = h
    · subst hh
      simp [deadlines_ofList_eq_none hd]
    · simp [hh]

theorem cancel_ofList_cons (hd : d.handle ∉ l.map Due.handle) :
    (ofList o now n (d :: l)).cancel d.handle = (true, ofList o now n l) := by
  unfold cancel
  rw [deadlines_ofList_cons, if_pos rfl]
  exact congrArg (true, ·) (remove_ofList_cons hd)

theorem cancel_desk_ofList (hh : h ∉ l.map Due.handle) :
    Desk.cancel { timers := ofList o now n (⟨t, h⟩ :: l) } h = { timers := ofList o now n l } := by
  rw [Desk.cancel, cancel_ofList_cons (d := ⟨t, h⟩) hh]

theorem popExpired?_ofList_cons (hd : d.handle ∉ l.map Due.handle) (ht : d.deadline ≤ t)
    (hl : ∀ e ∈ l, d.deadline < e.deadline) :
    (ofList o now n (d :: l)).popExpired? t =
      some (⟨d.handle, o, d.deadline⟩, ofList o (max now d.deadline) n l) := by
  have hf : (ofList o now n (d :: l)).first? = some d := by
    refine first?_eq_some_iff.2 ⟨mem_byDeadline_ofList.2 List.mem_cons_self, fun e he => ?_⟩
    rcases List.mem_cons.1 (mem_byDeadline_ofList.1 he) with rfl | he
    · rw [show Due.order e e = .eq from Std.ReflCmp.compare_self]
      rfl
    · have hlt : compare d.deadline e.deadline = .lt := Std.compare_eq_lt.2 (hl e he)
      simp [Due.order, compareLex, compareOn, hlt]
  rw [popExpired?, hf, Option.bind_some, if_neg (UInt64.not_lt.2 ht), byDeadline_ofList,
    if_pos List.mem_cons_self, Option.map_some, remove_ofList_cons hd]
  rfl

theorem popExpired?_ofList_eq_none (hl : ∀ d ∈ l, t < d.deadline) :
    (ofList o now n l).popExpired? t = none :=
  popExpired?_eq_none_iff.2 fun d hd => hl d (mem_byDeadline_ofList.1 hd)

end TimerQueue

/-! ## A surface with nothing but one touchpad -/

namespace Surface
open TimerQueue

def loneId : ControlId := .ofNat 1

/-- A touchpad over the whole of a surface. It passes its contacts through. -/
def loneConfig (doubleTapDrag : Bool) : ControlConfig :=
  { id := loneId, placement := ⟨0, 0, 1, 1⟩, passThrough := true, kind := .touchpad doubleTapDrag }

def loneSize : SurfaceSize := ⟨100, 100⟩

def loneSpot : Point := ⟨50, 50⟩

/-- The touchpad in the course of a gesture. -/
def loneControl (pad : Touchpad) : Control :=
  { Control.mount loneSize (loneConfig pad.doubleTapDrag) with behaviour := .touchpad pad }

/-- The surface with the touchpad. -/
def lone (pad : Touchpad) (q : TimerQueue) : Surface :=
  { size := loneSize
    desk := { timers := q }
    controls := [loneControl pad]
    routes := pad.pointer?.elim ∅ fun p => (∅ : PointerMap).insert p loneId }

def loneSite : Site := (Control.mount loneSize (loneConfig false)).site loneSize

/-- The contact that a press in the middle begins. -/
def loneContact (p : PointerId) : Contact :=
  let spot := loneSite.bounds.toLocal loneSpot
  ⟨p, spot, spot⟩

def loneAfter (r : Reaction Touchpad) : Surface := lone r.state r.desk.timers

variable {sv : Services} {pad : Touchpad} {q q' : TimerQueue} {now : Millis} {p : PointerId}
  {t : ExpiredTimer} {doubleTapDrag : Bool}

theorem perform_replaceLayout_lone (sv : Services) (doubleTapDrag : Bool) :
    (Operation.replaceLayout [loneConfig doubleTapDrag]).perform sv
        ((empty loneSize).withClaims .empty) =
      { state := lone { doubleTapDrag } .empty } := by
  have hf : firstFault? [] [loneConfig doubleTapDrag] = none := by
    cases doubleTapDrag <;> decide +kernel
  rcases perform_replaceLayout_cases sv ((empty loneSize).withClaims .empty)
    [loneConfig doubleTapDrag] with ⟨-, h⟩ | ⟨hf', -⟩
  · exact h
  · exact absurd hf hf'

/-- The reaction of the touchpad leaves no claim. -/
theorem loneAfter_eq {r : Reaction Touchpad} (hc : r.desk.claims = .empty) :
    loneAfter r = { lone r.state r.desk.timers with desk := r.desk } := by
  rw [loneAfter, lone]
  congr 1
  exact Desk.ext hc.symm rfl

theorem deliver_lone (sv : Services) (ho : t.owner = loneId) :
    let r := pad.timer sv loneSite t.handle { timers := q }
    (lone pad q).deliver sv t = { state := loneAfter r, issued := r.issuedBy t.owner } := by
  intro r
  obtain ⟨hcon, -, hcl⟩ := Touchpad.timer_frame sv loneSite t.handle pad { timers := q }
  have hp : (pad.timer sv loneSite t.handle { timers := q }).state.pointer? = pad.pointer? :=
    congrArg (Option.map Contact.pointer) hcon
  have hu : updateFirst t.owner
      (fun c => c.timer sv (lone pad q).size (lone pad q).desk t.handle) (lone pad q).controls =
        some (r.map fun pad => [loneControl pad]) := by
    rw [ho]
    exact if_pos rfl
  rw [deliver, hu, loneAfter_eq hcl]
  simp only [absorb, lone, hp]
  rfl

theorem deliverDue_lone_of_none (sv : Services) (limit : Nat) (hn : q.popExpired? now = none) :
    deliverDue sv now limit (lone pad q) = { state := lone pad q } := by
  cases limit with
  | zero => rfl
  | succ limit =>
    have hp : (lone pad q).popExpired? now = none := Option.map_eq_none_iff.2 hn
    rw [deliverDue, hp]

theorem advance_lone_of_none (sv : Services) (hn : q.popExpired? now = none) :
    (lone pad q).advance sv now = { state := lone pad (q.advanceClock now) } := by
  rw [advance, deliverDue_lone_of_none sv _ hn]
  rfl

theorem advance_lone (sv : Services) (hp : q.popExpired? now = some (t, q'))
    (ho : t.owner = loneId)
    (hn : (pad.timer sv loneSite t.handle { timers := q' }).desk.timers.popExpired? now = none) :
    let r := pad.timer sv loneSite t.handle { timers := q' }
    ((lone pad q).advance sv now).state = lone r.state (r.desk.timers.advanceClock now) ∧
      ((lone pad q).advance sv now).issued = r.issuedBy t.owner := by
  intro r
  have hs : (lone pad q).popExpired? now = some (t, lone pad q') := by
    rw [popExpired?, show (lone pad q).desk.timers = q from rfl, hp]
    rfl
  obtain ⟨limit, hlimit⟩ : ∃ limit, (lone pad q).pendingWork = limit + 1 :=
    Nat.exists_eq_succ_of_ne_zero (Nat.ne_of_gt (Nat.zero_lt_of_lt (pendingWork_deliver_lt sv hs)))
  have hd : deliverDue sv now (limit + 1) (lone pad q) =
      { state := loneAfter r, issued := r.issuedBy t.owner, delivered := 1 } := by
    rw [deliverDue, hs]
    dsimp only
    rw [deliver_lone sv ho, loneAfter, deliverDue_lone_of_none sv limit hn, List.append_nil]
  rw [advance, hlimit, hd]
  exact ⟨rfl, rfl⟩

/-- The touchpad is under the middle of the surface and free to take a contact. -/
theorem down_lone (sv : Services) (p : PointerId) (hc : pad.contact? = none) :
    pad.down sv loneSite p (loneContact p).initial { timers := q } =
      Touchpad.beginContact sv loneSite (loneContact p).initial
        { pad with contact? := some (loneContact p) } { timers := q } := by
  have ht : loneSite.take? p { timers := q } = some { timers := q } := by
    have ho : (Claims.empty.owner? p).all (· = loneSite.id) = true := by simp
    exact congrArg (Option.map _) (if_pos ho)
  rw [Touchpad.down, hc, ht]
  rfl

theorem touchDown_lone (sv : Services) (p : PointerId) (hc : pad.contact? = none)
    {r : Reaction Touchpad}
    (hb : Touchpad.beginContact sv loneSite (loneContact p).initial
      { pad with contact? := some (loneContact p) } { timers := q } = r) :
    ((lone pad q).touchDown sv p loneSpot).state = loneAfter r := by
  obtain ⟨hcon, -, hcl, hcons⟩ := Touchpad.beginContact_frame sv loneSite (loneContact p).initial
    { pad with contact? := some (loneContact p) } { timers := q }
  rw [hb] at hcon hcl hcons
  have hp : r.state.pointer? = some p := congrArg (Option.map Contact.pointer) hcon
  have hin : loneSite.bounds.contains loneSpot = true := by decide +kernel
  have hd : (loneControl pad).down sv loneSize p { timers := q } loneSpot = r.map loneControl :=
    hb ▸ congrArg (Reaction.map loneControl) (down_lone sv p hc)
  have hoff : offer sv loneSize p loneSpot { timers := q } [loneControl pad] =
      some (loneId, r.map fun pad => [loneControl pad]) := by
    rw [offer, offer]
    dsimp only
    rw [hd]
    exact (if_pos hin).trans (if_pos hcons)
  have hr : (lone pad q).routes = ∅ := by simp [lone, Touchpad.pointer?, hc]
  rw [touchDown, hr, if_neg (by simp)]
  simp only [lone] at hoff ⊢
  rw [hoff, loneAfter_eq hcl]
  simp only [absorb, lone, hp]
  rfl

theorem touchUp_lone (hc : pad.pointer? = some p) {r : Reaction Touchpad}
    (hup : pad.up loneSite p { timers := q } = r) :
    ((lone pad q).touchUp p).state = loneAfter r := by
  obtain ⟨hcon, -, hdesk, -⟩ := Touchpad.up_frame loneSite { timers := q } hc
  rw [hup] at hcon hdesk
  have hp : r.state.pointer? = none := congrArg (Option.map Contact.pointer) hcon
  have hcl : r.desk.claims = .empty := by rw [hdesk]; rfl
  have hr : (lone pad q).route? p = some loneId := by simp [route?, lone, hc]
  have hu : updateFirst loneId (fun c => c.up loneSize p { timers := q }) [loneControl pad] =
      some (r.map fun pad => [loneControl pad]) := hup ▸ if_pos rfl
  have he : ((∅ : PointerMap).insert p loneId).erase p = ∅ := by
    refine Std.ExtTreeMap.ext_getElem? fun p' => ?_
    rw [Std.ExtTreeMap.getElem?_erase, Std.ExtTreeMap.getElem?_insert]
    split <;> simp
  rw [touchUp, hr, loneAfter_eq hcl]
  simp only [touchControl, lone] at hu ⊢
  rw [hu]
  simp only [absorb, hp, hc, Option.elim_some, he]
  rfl

/-! ## Runs on it -/

/-- Touches and advances lead from a new surface to the touchpad and the queue. -/
def Reaches (sv : Services) (doubleTapDrag : Bool) (pad : Touchpad) (q : TimerQueue) : Prop :=
  ∃ ops : List Operation, (∀ op ∈ ops, op.isInput = true) ∧
    (run sv ((.replaceLayout [loneConfig doubleTapDrag] :: ops).map .operation)
      ((empty loneSize).withClaims .empty)).state = lone pad q

namespace Reaches
variable {pad' : Touchpad} {n h : TimerHandle} {u : Millis} {l : List Due}

theorem start (sv : Services) (doubleTapDrag : Bool) :
    Reaches sv doubleTapDrag { doubleTapDrag } (.ofList loneId 0 0 []) := by
  refine ⟨[], fun _ hm => absurd hm List.not_mem_nil, ?_⟩
  exact congrArg (·.state) (perform_replaceLayout_lone sv doubleTapDrag)

theorem perform (hr : Reaches sv doubleTapDrag pad q) (op : Operation) (hop : op.isInput = true)
    (hs : (op.perform sv (lone pad q)).state = lone pad' q') :
    Reaches sv doubleTapDrag pad' q' := by
  obtain ⟨ops, hops, he⟩ := hr
  refine ⟨ops ++ [op], fun op' hm => ?_, ?_⟩
  · rcases List.mem_append.1 hm with hm | hm
    · exact hops op' hm
    · exact (List.mem_singleton.1 hm) ▸ hop
  · rw [← List.cons_append, List.map_append, run_append, he]
    exact hs

/-- A contact begins or ends now. Timers that are due have fired before. -/
theorem touch (hr : Reaches sv doubleTapDrag pad (.ofList loneId now n l))
    (hl : ∀ d ∈ l, now < d.deadline) (phase : TouchPhase)
    (hs : ((lone pad (.ofList loneId now n l)).route sv ⟨0, phase, loneSpot, now⟩).state =
      lone pad' q') : Reaches sv doubleTapDrag pad' q' := by
  refine hr.perform (.touch ⟨0, phase, loneSpot, now⟩) rfl ?_
  have hq : (TimerQueue.ofList loneId now n l).advanceClock now = .ofList loneId now n l :=
    TimerQueue.ext Millis.max_self rfl rfl rfl
  show (((lone pad _).advance sv now).state.route sv _).state = _
  rw [advance_lone_of_none sv (popExpired?_ofList_eq_none hl), hq]
  exact hs

theorem lift (hr : Reaches sv doubleTapDrag pad (.ofList loneId now n l))
    (hl : ∀ d ∈ l, now < d.deadline) (hp : pad.phase = .pending h) (hc : pad.pointer? = some 0) :
    Reaches sv doubleTapDrag { pad with contact? := none } (.ofList loneId now n l) := by
  have hup : pad.up loneSite 0 { timers := .ofList loneId now n l } =
      { state := { pad with contact? := none }
        desk := loneSite.drop 0 { timers := .ofList loneId now n l } } := by
    rw [Touchpad.up, if_pos hc]
    simp only [hp]
  exact hr.touch hl .up (touchUp_lone hc hup)

theorem press (hr : Reaches sv doubleTapDrag pad (.ofList loneId now n l))
    (hl : ∀ d ∈ l, now < d.deadline) (hc : pad.contact? = none) {r : Reaction Touchpad}
    (hb : Touchpad.beginContact sv loneSite (loneContact 0).initial
      { pad with contact? := some (loneContact 0) } { timers := .ofList loneId now n l } = r) :
    Reaches sv doubleTapDrag r.state r.desk.timers :=
  hr.touch hl .down (touchDown_lone sv 0 hc hb)

/-- A press opens the idle window. -/
theorem press_open (hr : Reaches sv doubleTapDrag pad (.ofList loneId now n l))
    (hl : ∀ d ∈ l, now < d.deadline) (hp : pad.phase = .idle) (hc : pad.contact? = none) :
    Reaches sv doubleTapDrag { pad with phase := .pending n, contact? := some (loneContact 0) }
      (.ofList loneId now (n + 1) (⟨Millis.later now sv.tuning.idleTimeout, n⟩ :: l)) := by
  refine hr.press hl hc (r := ⟨_, { timers := .ofList loneId now (n + 1) _ }, [.pulse], true⟩) ?_
  simp only [Touchpad.beginContact, hp]
  rfl

/-- A tap leaves the idle window open. -/
theorem tap (hr : Reaches sv doubleTapDrag pad (.ofList loneId now n l))
    (hl : ∀ d ∈ l, now < d.deadline) (hi : now < Millis.later now sv.tuning.idleTimeout)
    (hp : pad.phase = .idle) (hc : pad.contact? = none) :
    Reaches sv doubleTapDrag { pad with phase := .pending n, contact? := none }
      (.ofList loneId now (n + 1) (⟨Millis.later now sv.tuning.idleTimeout, n⟩ :: l)) :=
  (hr.press_open hl hp hc).lift (List.forall_mem_cons.2 ⟨hi, hl⟩) rfl rfl

/-- A second press starts a drag, with double tap drags. -/
theorem press_drag (hr : Reaches sv doubleTapDrag pad (.ofList loneId now n (⟨u, h⟩ :: l)))
    (hh : h ∉ l.map Due.handle) (hl : ∀ d ∈ (⟨u, h⟩ :: l : List Due), now < d.deadline)
    (hp : pad.phase = .pending h) (hc : pad.contact? = none) (hf : pad.doubleTapDrag = true) :
    ∃ target, Reaches sv doubleTapDrag
      { pad with phase := .doubleClick target, contact? := some (loneContact 0) }
      (.ofList loneId now n l) := by
  let target := Touchpad.dragTarget sv loneSite (loneContact 0).initial
  refine ⟨target, hr.press hl hc (r := ⟨_, { timers := .ofList loneId now n l },
    [.pulse, .primary true (.ofPoint target)], true⟩) ?_⟩
  simp only [Touchpad.beginContact, hp, hf, if_true, cancel_desk_ofList hh]
  rfl

/-- A second press sends a click and opens another idle window, without double tap drags. -/
theorem press_click (hr : Reaches sv doubleTapDrag pad (.ofList loneId now n (⟨u, h⟩ :: l)))
    (hh : h ∉ l.map Due.handle) (hl : ∀ d ∈ (⟨u, h⟩ :: l : List Due), now < d.deadline)
    (hp : pad.phase = .pending h) (hc : pad.contact? = none) (hf : pad.doubleTapDrag = false)
    (hk : pad.clickTimer? = none) :
    Reaches sv doubleTapDrag
      { pad with
        phase := .pending (n + 1), contact? := some (loneContact 0), clickTimer? := some n }
      (.ofList loneId now (n + 2) (⟨Millis.later now sv.tuning.idleTimeout, n + 1⟩ ::
        ⟨Millis.later now sv.tuning.clickTimeout, n⟩ :: l)) := by
  refine hr.press hl hc (r := ⟨_, { timers := .ofList loneId now (n + 2) _ },
    .pulse :: Touchpad.clickRequests, true⟩) ?_
  simp only [Touchpad.beginContact, hp, hf, Bool.false_eq_true, if_false, cancel_desk_ofList hh,
    Touchpad.resolveClick, Touchpad.cancelClick, hk]
  rfl

theorem fire (hr : Reaches sv doubleTapDrag pad (.ofList loneId now n (⟨u, h⟩ :: l)))
    (hh : h ∉ l.map Due.handle) (hl : ∀ d ∈ l, u < d.deadline) {r : Reaction Touchpad}
    {n' : TimerHandle} {l' : List Due}
    (ht : pad.timer sv loneSite h { timers := .ofList loneId (max now u) n l } = r)
    (hd : r.desk.timers = .ofList loneId (max now u) n' l') (hl' : ∀ d ∈ l', u < d.deadline) :
    Reaches sv doubleTapDrag r.state (.ofList loneId (max now u) n' l') := by
  have hpop : (TimerQueue.ofList loneId now n (⟨u, h⟩ :: l)).popExpired? u =
      some (⟨h, loneId, u⟩, .ofList loneId (max now u) n l) :=
    popExpired?_ofList_cons (d := ⟨u, h⟩) hh (UInt64.le_refl u) hl
  have hclock : (TimerQueue.ofList loneId (max now u) n' l').advanceClock u =
      .ofList loneId (max now u) n' l' := TimerQueue.ext Millis.max_max rfl rfl rfl
  have ha := (advance_lone sv hpop rfl (by rw [ht, hd]; exact popExpired?_ofList_eq_none hl')).1
  refine hr.perform (.advance u) rfl (ha.trans ?_)
  rw [ht, hd, hclock]

/-- The idle window closes while the contact is held: a drag starts. -/
theorem close_of_held (hr : Reaches sv doubleTapDrag pad (.ofList loneId now n (⟨u, h⟩ :: l)))
    (hh : h ∉ l.map Due.handle) (hl : ∀ d ∈ l, u < d.deadline) (hp : pad.phase = .pending h)
    (hc : pad.contact?.isSome = true) (hk : pad.clickTimer? ≠ some h) :
    Reaches sv doubleTapDrag { pad with phase := .pressMoving }
      (.ofList loneId (max now u) n l) := by
  refine hr.fire hh hl (r := ⟨_, { timers := .ofList loneId (max now u) n l },
    [.pulse, .primary true .here], true⟩) ?_ rfl hl
  rw [Touchpad.timer_of_idle hk hp, Touchpad.closeWindow, if_pos hc]

/-- The idle window closes after the contact has lifted: a click is sent. -/
theorem close_of_lifted (hr : Reaches sv doubleTapDrag pad (.ofList loneId now n (⟨u, h⟩ :: l)))
    (hh : h ∉ l.map Due.handle) (hl : ∀ d ∈ l, u < d.deadline)
    (hlater : u < Millis.later (max now u) sv.tuning.clickTimeout) (hp : pad.phase = .pending h)
    (hc : pad.contact? = none) (hk : pad.clickTimer? = none) :
    Reaches sv doubleTapDrag { pad with phase := .idle, clickTimer? := some n }
      (.ofList loneId (max now u) (n + 1)
        (⟨Millis.later (max now u) sv.tuning.clickTimeout, n⟩ :: l)) := by
  refine hr.fire hh hl (r := ⟨_, { timers := .ofList loneId (max now u) (n + 1) _ },
    Touchpad.clickRequests, true⟩) ?_ rfl (List.forall_mem_cons.2 ⟨hlater, hl⟩)
  rw [Touchpad.timer_of_idle (by simp [hk]) hp, Touchpad.closeWindow, if_neg (by simp [hc])]
  simp only [Touchpad.resolveClick, Touchpad.cancelClick, hk]
  rfl

/-- A click is outstanding in a drag: its timer is about to release the button. -/
theorem not_dragsHold {k : TimerHandle}
    (hr : Reaches sv doubleTapDrag pad (.ofList loneId now n [⟨u, k⟩]))
    (hacc : sv.accepting = true) (hp : pad.phase.holdsButton = true)
    (hk : pad.clickTimer? = some k) : ¬ sv.DragsHold doubleTapDrag := by
  intro hd
  obtain ⟨ops, hops, he⟩ := hr
  have hsole : SoleTouchpad doubleTapDrag [loneConfig doubleTapDrag] :=
    ⟨rfl, by simp [loneConfig, ControlKind.pressesLeft]⟩
  have hpop : (TimerQueue.ofList loneId now n [⟨u, k⟩]).popExpired? u =
      some (⟨k, loneId, u⟩, .ofList loneId (max now u) n []) :=
    popExpired?_ofList_cons List.not_mem_nil (UInt64.le_refl u) fun _ hm =>
      absurd hm List.not_mem_nil
  have ht : pad.timer sv loneSite k { timers := .ofList loneId (max now u) n [] } = _ :=
    Touchpad.timer_of_click hk
  obtain ⟨hs, his⟩ := advance_lone sv hpop rfl
    (by rw [ht]; exact popExpired?_ofList_eq_none fun _ hm => absurd hm List.not_mem_nil)
  rw [ht] at hs his
  -- the drag goes on after an advance to the deadline of the click, but the button is up
  have hlast := hd loneSize .empty _ hsole (ops ++ [.advance u])
    (fun op hm => (List.mem_append.1 hm).elim (hops op) fun hm => List.mem_singleton.1 hm ▸ rfl)
    { pad with clickTimer? := none }
  dsimp only at hlast
  rw [lastLeft?_record hacc, ← List.cons_append, List.map_append, run_append, he,
    leftAfter_append] at hlast
  rw [List.map_singleton, run_singleton] at hlast
  simp only [step, Operation.perform, Operation.apply, hs, his] at hlast
  have hfalse := hlast (List.mem_singleton_self _) hp
  rw [leftAfter_issuedBy] at hfalse
  cases hfalse

end Reaches

/-! ## Clicks that overlap with drags -/

/-- Without double tap drags: a tap, and a press that is held until its idle window has passed. The
press sends the click of the tap. -/
theorem overlap_hold (hi : sv.tuning.idleTimeout ≠ 0)
    (hlong : sv.tuning.idleTimeout < sv.tuning.clickTimeout) :
    ∃ pad n, Reaches sv false pad
        (.ofList loneId sv.tuning.idleTimeout n [⟨sv.tuning.clickTimeout, 1⟩]) ∧
      pad.phase.holdsButton = true ∧ pad.clickTimer? = some 1 := by
  have hpos : 0 < Millis.later 0 sv.tuning.idleTimeout :=
    Millis.zero_later.symm ▸ UInt64.pos_iff_ne_zero.2 hi
  have htap := (Reaches.start sv false).tap nofun hpos rfl rfl
  have hpress := htap.press_click List.not_mem_nil (List.forall_mem_singleton.2 hpos) rfl rfl
    rfl rfl
  simp only [Millis.zero_later] at hpress
  have hclose := hpress.close_of_held (by simp) (List.forall_mem_singleton.2 hlong) rfl rfl
    (by simp)
  rw [Millis.zero_max] at hclose
  exact ⟨_, _, hclose, rfl, rfl⟩

/-- With double tap drags: a tap, and as soon as its click has been sent another tap and a press. -/
theorem overlap_doubleTap (hi : sv.tuning.idleTimeout ≠ 0)
    (hlast : sv.tuning.idleTimeout ≠ 0xffffffffffffffff) (hc : sv.tuning.clickTimeout ≠ 0) :
    ∃ pad n, Reaches sv true pad (.ofList loneId sv.tuning.idleTimeout n
        [⟨Millis.later sv.tuning.idleTimeout sv.tuning.clickTimeout, 1⟩]) ∧
      pad.phase.holdsButton = true ∧ pad.clickTimer? = some 1 := by
  have hpos : 0 < Millis.later 0 sv.tuning.idleTimeout :=
    Millis.zero_later.symm ▸ UInt64.pos_iff_ne_zero.2 hi
  have hclick := Millis.lt_later_of_ne_last hlast hc
  have hwindow := Millis.lt_later_of_ne_last hlast hi
  have htap := (Reaches.start sv true).tap nofun hpos rfl rfl
  rw [Millis.zero_later] at htap
  have hsent := htap.close_of_lifted List.not_mem_nil nofun (by rwa [Millis.zero_max]) rfl rfl rfl
  rw [Millis.zero_max] at hsent
  have hagain := hsent.tap (List.forall_mem_singleton.2 hclick) hwindow rfl rfl
  obtain ⟨target, hdrag⟩ := hagain.press_drag (by simp)
    (List.forall_mem_cons.2 ⟨hwindow, List.forall_mem_singleton.2 hclick⟩) rfl rfl rfl
  exact ⟨_, _, hdrag, rfl, rfl⟩

end Surface

/-! ## The criterion -/

theorem Services.keepsDrags_of_dragsHold {sv : Services} {doubleTapDrag : Bool}
    (hacc : sv.accepting = true) (hidle : sv.tuning.idleTimeout ≠ 0)
    (hd : sv.DragsHold doubleTapDrag) : sv.tuning.KeepsDrags doubleTapDrag := by
  refine Decidable.byContradiction fun hk => ?_
  cases doubleTapDrag with
  | false =>
    obtain ⟨pad, n, hr, hp, hc⟩ := Surface.overlap_hold hidle (UInt64.not_le.1 hk)
    exact hr.not_dragsHold hacc hp hc hd
  | true =>
    obtain ⟨hclick, hlast⟩ := not_or.1 hk
    obtain ⟨pad, n, hr, hp, hc⟩ := Surface.overlap_doubleTap hidle hlast hclick
    exact hr.not_dragsHold hacc hp hc hd

theorem Settings.idleTimeout_ne_zero {st : Settings} (hv : st.fault? = none) :
    st.services.tuning.idleTimeout ≠ 0 := by
  intro hz
  have hz : st.gesture.idleTimeout = 0 := hz
  simp only [fault?, hz, if_true] at hv
  split at hv
  · cases hv
  · split at hv
    · cases hv
    · split at hv <;> cases hv

/-- **When a drag keeps the left button down.** With settings that are all in range, every drag on a
surface with one touchpad and no other control for the left button holds the button exactly if a
click is over before a drag can start. Without double tap drags, clicks must not be longer than the
idle window. With double tap drags, clicks must be over at once or the idle window must never
pass. -/
theorem drag_holds_button_iff (st : Settings) (hv : st.fault? = none) (doubleTapDrag : Bool) :
    st.services.DragsHold doubleTapDrag ↔ st.services.tuning.KeepsDrags doubleTapDrag :=
  ⟨Services.keepsDrags_of_dragsHold rfl (st.idleTimeout_ne_zero hv),
    Services.dragsHold_of_keepsDrags rfl (st.idleTimeout_ne_zero hv)⟩

/-- With the default settings drags hold the button without double tap drags only. -/
theorem drag_holds_button_of_default :
    ({} : Settings).fault? = none ∧ ({} : Settings).services.DragsHold false ∧
      ¬ ({} : Settings).services.DragsHold true := by
  have hv : ({} : Settings).fault? = none := by decide +kernel
  exact ⟨hv, (drag_holds_button_iff {} hv false).2 (by decide),
    fun hd => absurd ((drag_holds_button_iff {} hv true).1 hd) (by decide)⟩

/-- A tap, whose click is sent at 200, and a double tap right after it. The second press of the
double tap starts a drag at 215, and the release of the click is due at 250. -/
def earlyDoubleTap : List Operation :=
  [.touch ⟨0, .down, ⟨500, 500⟩, 0⟩, .touch ⟨0, .up, ⟨500, 500⟩, 10⟩,
    .touch ⟨0, .down, ⟨500, 500⟩, 205⟩, .touch ⟨0, .up, ⟨500, 500⟩, 210⟩,
    .touch ⟨0, .down, ⟨500, 500⟩, 215⟩, .advance 250]

/-- With the default settings the click releases the button in the middle of the drag. -/
theorem not_dragsHold_of_earlyDoubleTap :
    ({} : Settings).fault? = none ∧ ¬ ({} : Settings).services.DragsHold true := by
  refine ⟨by decide +kernel, fun hd => ?_⟩
  let cfg : ControlConfig :=
    { id := .ofNat 1, placement := ⟨0, 0, 1, 1⟩, kind := .touchpad true }
  let o := Surface.run ({} : Settings).services
    ((.replaceLayout [cfg] :: earlyDoubleTap).map .operation)
    ((Surface.empty ⟨1000, 1000⟩).withClaims .empty)
  have hphase : o.state.touchpads.map (·.phase.holdsButton) = [true] := by decide +kernel
  have hlast : lastLeft? (({} : Settings).services.recorder.record
      (({} : Settings).services.outputs o.issued)).events = some false := by decide +kernel
  obtain ⟨pad, hpad, hp⟩ := List.mem_map.1 (hphase ▸ List.mem_singleton_self true)
  have hheld := hd ⟨1000, 1000⟩ .empty [cfg] ⟨rfl, by decide⟩ earlyDoubleTap (by decide) pad hpad hp
  rw [hlast] at hheld
  cases hheld

end TouchOverlay
