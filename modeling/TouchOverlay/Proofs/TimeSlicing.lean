import TouchOverlay.Proofs.Drain
import TouchOverlay.Proofs.Run

/-!
# How time is sliced does not matter

An advance delivers the first timer that is due and goes on from there
(`advance_of_popExpired?`), or only moves the clock if there is none
(`advance_of_popExpired?_eq_none`). The clock moves to the deadline of each timer that fires, and a
stop between two deadlines moves it no further than the next one does (`advance_tick`). So an
advance that stops on the way, at whatever times, is the same as one that does not.
-/

namespace TouchOverlay

namespace TimerQueue
variable {q q' : TimerQueue} {now later : Millis} {t : ExpiredTimer}

/-- A clock that has not passed the first deadline does not matter to what fires. -/
theorem popExpired?_advanceClock (h : q.popExpired? now = none) :
    (q.advanceClock now).popExpired? later = q.popExpired? later := by
  unfold popExpired?
  rw [show (q.advanceClock now).first? = q.first? from rfl]
  cases hf : q.first? with
  | none => rfl
  | some d =>
    have hlt : now < d.deadline := popExpired?_eq_none_iff.1 h d (first?_eq_some_iff.1 hf).1
    have hq : ((q.advanceClock now).remove d).advanceClock d.deadline =
        (q.remove d).advanceClock d.deadline := by
      have hnow : max (max q.now now) d.deadline = max q.now d.deadline :=
        Millis.max_max_of_le (UInt64.le_of_lt hlt)
      simp only [advanceClock, remove, hnow]
    simp only [Option.bind_some, hq]
    rfl

theorem popExpired?_of_le (hle : now ≤ later) (h : q.popExpired? now = some (t, q')) :
    q.popExpired? later = some (t, q') := by
  obtain ⟨hf, hdue, ho, rfl⟩ := popExpired?_eq_some h
  have hlate : ¬ later < t.deadline := UInt64.not_lt.2 (UInt64.le_trans hdue hle)
  simp only [popExpired?, hf, Option.bind_some, hlate, if_false, ho, Option.map_some]

end TimerQueue

/-- One outcome after another one. -/
def AdvanceOutcome.andThen (r : AdvanceOutcome) (f : Surface → AdvanceOutcome) : AdvanceOutcome :=
  let r' := f r.state
  { state := r'.state
    issued := r.issued ++ r'.issued
    delivered := r.delivered + r'.delivered }

namespace AdvanceOutcome
variable {r : AdvanceOutcome} {f g : Surface → AdvanceOutcome}

theorem pure_andThen (s : Surface) : andThen { state := s } f = f s := by
  simp [andThen]

theorem andThen_assoc : (r.andThen f).andThen g = r.andThen fun s => (f s).andThen g := by
  simp [andThen, Nat.add_assoc]

theorem state_andThen : (r.andThen f).state = (f r.state).state := rfl

theorem andThen_congr (h : f r.state = g r.state) : r.andThen f = r.andThen g := by
  simp [andThen, h]

end AdvanceOutcome

namespace Surface

def tick (s : Surface) (now : Millis) : Surface := s.withTimers (s.desk.timers.advanceClock now)

/-- Advances to each of some times in turn. -/
def advanceEach (sv : Services) : List Millis → Surface → AdvanceOutcome
  | [], s => { state := s }
  | t :: ts, s => (s.advance sv t).andThen (advanceEach sv ts)

variable {sv : Services} {s s' : Surface} {now later t₁ t₂ : Millis} {t : ExpiredTimer} {n : Nat}

theorem tick_tick (h : t₁ ≤ t₂) : (s.tick t₁).tick t₂ = s.tick t₂ := by
  simp only [tick, withTimers, TimerQueue.advanceClock, Millis.max_max_of_le h]

theorem popExpired?_tick (h : s.popExpired? now = none) :
    (s.tick now).popExpired? later = s.popExpired? later := by
  have h : s.desk.timers.popExpired? now = none := Option.map_eq_none_iff.1 h
  show ((s.desk.timers.advanceClock now).popExpired? later).map _ = _
  rw [TimerQueue.popExpired?_advanceClock h]
  rfl

theorem popExpired?_of_le (hle : now ≤ later) (h : s.popExpired? now = some (t, s')) :
    s.popExpired? later = some (t, s') := by
  obtain ⟨q, hq, rfl⟩ := popExpired?_eq_some h
  rw [popExpired?, TimerQueue.popExpired?_of_le hle hq]
  rfl

/-! ## An advance, one timer at a time -/

theorem deliverDue_of_popExpired?_eq_none (h : s.popExpired? now = none) :
    deliverDue sv now n s = { state := s } := by
  cases n with
  | zero => rfl
  | succ n => simp only [deliverDue, h]

/-- A limit that the pending work does not exceed is never reached. -/
theorem deliverDue_congr {m : Nat} (hn : s.pendingWork ≤ n) (hm : s.pendingWork ≤ m) :
    deliverDue sv now n s = deliverDue sv now m s := by
  induction n generalizing m s with
  | zero =>
    cases hp : s.popExpired? now with
    | none => rw [deliverDue_of_popExpired?_eq_none hp, deliverDue_of_popExpired?_eq_none hp]
    | some x =>
      have hlt := pendingWork_deliver_lt sv hp
      omega
  | succ n ih =>
    cases hp : s.popExpired? now with
    | none => rw [deliverDue_of_popExpired?_eq_none hp, deliverDue_of_popExpired?_eq_none hp]
    | some x =>
      obtain ⟨t, s'⟩ := x
      have hlt := pendingWork_deliver_lt sv hp
      obtain ⟨m, rfl⟩ : ∃ k, m = k + 1 := Nat.exists_eq_succ_of_ne_zero (by omega)
      have hrest := ih (s := (s'.deliver sv t).state) (m := m) (by omega) (by omega)
      simp only [deliverDue, hp, hrest]

theorem advance_of_popExpired?_eq_none (h : s.popExpired? now = none) :
    s.advance sv now = { state := s.tick now } := by
  unfold advance
  rw [deliverDue_of_popExpired?_eq_none h]
  rfl

theorem tick_of_le (hle : now ≤ s.now) : s.tick now = s := by
  have hmax : max s.desk.timers.now now = s.desk.timers.now := Millis.max_eq_left hle
  rw [tick, TimerQueue.advanceClock, hmax]
  rfl

/-- Nothing is due, and the clock is there already. -/
theorem advance_of_quiet (h : s.popExpired? now = none) (hle : now ≤ s.now) :
    s.advance sv now = { state := s } := by
  rw [advance_of_popExpired?_eq_none h, tick_of_le hle]

theorem advance_of_popExpired? (h : s.popExpired? now = some (t, s')) :
    s.advance sv now = AdvanceOutcome.andThen
      { state := (s'.deliver sv t).state, issued := (s'.deliver sv t).issued, delivered := 1 }
      (·.advance sv now) := by
  have hlt := pendingWork_deliver_lt sv h
  obtain ⟨n, hn⟩ : ∃ n, s.pendingWork = n + 1 := Nat.exists_eq_succ_of_ne_zero (by omega)
  have hrest : deliverDue sv now n (s'.deliver sv t).state =
      deliverDue sv now (s'.deliver sv t).state.pendingWork (s'.deliver sv t).state :=
    deliverDue_congr (by omega) (Nat.le_refl _)
  simp only [advance, hn, deliverDue, h, hrest, AdvanceOutcome.andThen, Nat.add_comm]

/-- What holds when no timer is due, and holds before a delivery if it holds after it, holds of
every surface. -/
theorem advance_induction (sv : Services) (now : Millis) {motive : Surface → Prop}
    (idle : ∀ s, s.popExpired? now = none → motive s)
    (pop : ∀ s t s', s.popExpired? now = some (t, s') → motive (s'.deliver sv t).state → motive s)
    (s : Surface) : motive s := by
  induction hn : s.pendingWork using Nat.strongRecOn generalizing s with
  | ind n ih =>
    cases hp : s.popExpired? now with
    | none => exact idle s hp
    | some x =>
      obtain ⟨t, s'⟩ := x
      have hlt := pendingWork_deliver_lt sv hp
      exact pop s t s' hp (ih _ (by omega) _ rfl)

/-! ## Stops on the way -/

theorem advance_tick (hle : now ≤ later) (h : s.popExpired? now = none) :
    (s.tick now).advance sv later = s.advance sv later := by
  have hp : (s.tick now).popExpired? later = s.popExpired? later := popExpired?_tick h
  cases hs : s.popExpired? later with
  | none =>
    rw [advance_of_popExpired?_eq_none hs, advance_of_popExpired?_eq_none (hp.trans hs),
      tick_tick hle]
  | some x => rw [advance_of_popExpired? hs, advance_of_popExpired? (hp.trans hs)]

theorem advance_andThen_advance (sv : Services) (s : Surface) (hle : t₁ ≤ t₂) :
    (s.advance sv t₁).andThen (·.advance sv t₂) = s.advance sv t₂ := by
  induction s using advance_induction sv t₁ with
  | idle s hp =>
    rw [advance_of_popExpired?_eq_none hp, AdvanceOutcome.pure_andThen, advance_tick hle hp]
  | pop s t s' hp ih =>
    rw [advance_of_popExpired? hp, advance_of_popExpired? (popExpired?_of_le hle hp),
      AdvanceOutcome.andThen_assoc]
    exact AdvanceOutcome.andThen_congr ih

theorem advanceEach_concat (ts : List Millis) :
    s.advanceEach sv (ts ++ [now]) = (s.advanceEach sv ts).andThen (·.advance sv now) := by
  induction ts generalizing s with
  | nil =>
    simp [advanceEach, AdvanceOutcome.andThen]
  | cons t ts ih =>
    rw [List.cons_append, advanceEach, advanceEach, AdvanceOutcome.andThen_assoc]
    exact AdvanceOutcome.andThen_congr ih

theorem advanceEach_andThen_advance {ts : List Millis} (hle : ∀ t ∈ ts, t ≤ now) :
    (s.advanceEach sv ts).andThen (·.advance sv now) = s.advance sv now := by
  induction ts generalizing s with
  | nil => exact AdvanceOutcome.pure_andThen s
  | cons t ts ih =>
    have hrest := @ih (s.advance sv t).state fun u hu => hle u (List.mem_cons_of_mem _ hu)
    rw [advanceEach, AdvanceOutcome.andThen_assoc,
      AdvanceOutcome.andThen_congr (g := (·.advance sv now)) hrest]
    exact advance_andThen_advance sv s (hle t List.mem_cons_self)

/-- A touch after an advance that does not go beyond its time. -/
theorem touch_advance (sv : Services) (s : Surface) {e : TouchEvent} (hle : now ≤ e.time) :
    s.touch sv e =
      { (s.advance sv now).state.touch sv e with
        issued := (s.advance sv now).issued ++ ((s.advance sv now).state.touch sv e).issued } := by
  have ha := advance_andThen_advance sv s hle
  have hstate := congrArg AdvanceOutcome.state ha
  have hissued := congrArg AdvanceOutcome.issued ha
  simp only [AdvanceOutcome.andThen] at hstate hissued
  simp only [touch, ← hstate, ← hissued, List.append_assoc]

theorem touch_advanceEach (sv : Services) (s : Surface) {e : TouchEvent} {ts : List Millis}
    (hle : ∀ t ∈ ts, t ≤ e.time) :
    s.touch sv e =
      { (s.advanceEach sv ts).state.touch sv e with
        issued := (s.advanceEach sv ts).issued ++
          ((s.advanceEach sv ts).state.touch sv e).issued } := by
  induction ts generalizing s with
  | nil => rfl
  | cons t ts ih =>
    have hrest := ih (s.advance sv t).state fun u hu => hle u (List.mem_cons_of_mem _ hu)
    rw [touch_advance sv s (hle t List.mem_cons_self), hrest]
    simp only [advanceEach, AdvanceOutcome.andThen, List.append_assoc]

/-- **How time is sliced does not matter**, on any surface. An advance that stops on the way leaves
the same surface, sends the same requests in the same order and delivers as many timers as one
that does not stop. So a touch is taken alike, and leaves and sends the same, whatever advances
come before it, as long as they do not go beyond its time. -/
theorem advance_stops_unobserved (sv : Services) (s : Surface) :
    (∀ t₁ t₂, t₁ ≤ t₂ →
      let r := s.advance sv t₁
      let r' := r.state.advance sv t₂
      r'.state = (s.advance sv t₂).state ∧ r.issued ++ r'.issued = (s.advance sv t₂).issued ∧
        r.delivered + r'.delivered = (s.advance sv t₂).delivered) ∧
    ∀ (e : TouchEvent) (ts : List Millis), (∀ t ∈ ts, t ≤ e.time) →
      let r := s.advanceEach sv ts
      let o := r.state.touch sv e
      o.consumed = (s.touch sv e).consumed ∧ o.state = (s.touch sv e).state ∧
        r.issued ++ o.issued = (s.touch sv e).issued := by
  refine ⟨fun t₁ t₂ hle => ?_, fun e ts hle => ?_⟩
  · intro r r'
    rw [← advance_andThen_advance sv s hle]
    exact ⟨rfl, rfl, rfl⟩
  · intro r o
    rw [touch_advanceEach sv s hle]
    exact ⟨rfl, rfl, rfl⟩

/-- A surface with a touchpad over all of it. -/
def onePad : Surface :=
  let cfg : ControlConfig :=
    { id := .ofNat 1, placement := ⟨0, 0, 1, 1⟩, kind := .touchpad true }
  ((Operation.addControl cfg).perform {} (empty ⟨100, 100⟩)).state

/-- A tap on it: the click is due at 200 and its release at 250. -/
def tapped : Surface :=
  (run {} ([.touch ⟨5, .down, ⟨10, 10⟩, 0⟩, .touch ⟨5, .up, ⟨10, 10⟩, 30⟩].map .operation)
    onePad).state

/-- A stop between the click and its release, and many of them before another touch. -/
theorem advance_stops_unobserved_of_tapped :
    (tapped.advance {} 300).delivered = 2 ∧
      ((tapped.advance {} 200).state.advance {} 300).state = (tapped.advance {} 300).state ∧
      ((tapped.advanceEach {} [100, 200, 230]).state.touch {} ⟨5, .down, ⟨10, 10⟩, 240⟩).state =
        (tapped.touch {} ⟨5, .down, ⟨10, 10⟩, 240⟩).state :=
  ⟨by decide +kernel, ((advance_stops_unobserved {} tapped).1 200 300 (by decide)).1,
    ((advance_stops_unobserved {} tapped).2 ⟨5, .down, ⟨10, 10⟩, 240⟩ [100, 200, 230]
      (by simp)).2.1⟩

end Surface
end TouchOverlay
