import Mathlib.Data.List.Chain
import Mathlib.Order.Bounds.Basic
import TouchOverlay.Proofs.OnTime
import TouchOverlay.Proofs.Quiescence

/-!
# Traces that can be replayed

A scenario is refused for a surface without area, or for the first touch that lies before its
neighbour (`firstDisorder?_eq_some`). Neighbours in order are enough for all touches to be in order,
and then the clock of the surface follows the trace: a touch moves it to its own time, whatever
timers fire on the way (`now_touch`).
-/

namespace TouchOverlay

/-- No touch lies before an earlier one. -/
def InOrder (es : List TouchEvent) : Prop :=
  ∀ i j (_ : i < j) (hj : j < es.length), es[i].time ≤ es[j].time

/-- The touch at a position lies before the one that precedes it. -/
def GoesBack (es : List TouchEvent) (i : Nat) : Prop :=
  ∃ (_ : 0 < i) (hi : i < es.length), es[i].time < es[i - 1].time

section
variable {e a b : TouchEvent} {es pre post : List TouchEvent} {n : Nat} {x : ScenarioError}

theorem inOrder_iff_pairwise : InOrder es ↔ es.Pairwise fun e f => e.time ≤ f.time := by
  rw [List.pairwise_iff_getElem]
  exact ⟨fun h i j _ hj hij => h i j hij hj, fun h i j hij hj => h i j (by omega) hj hij⟩

/-- Neighbours in order are enough. -/
theorem inOrder_iff_isChain : InOrder es ↔ es.IsChain fun e f => e.time ≤ f.time := by
  have htrans : IsTrans TouchEvent fun e f => e.time ≤ f.time :=
    ⟨fun _ _ _ h h' => UInt64.le_trans h h'⟩
  rw [inOrder_iff_pairwise, List.isChain_iff_pairwise]

theorem inOrder_cons_cons : InOrder (a :: b :: es) ↔ a.time ≤ b.time ∧ InOrder (b :: es) := by
  rw [inOrder_iff_isChain, inOrder_iff_isChain, List.isChain_cons_cons]

theorem inOrder_singleton (e : TouchEvent) : InOrder [e] := by
  rw [inOrder_iff_isChain]
  exact .singleton e

theorem GoesBack.not_inOrder {i : Nat} (h : GoesBack es i) : ¬ InOrder es := by
  obtain ⟨hpos, hi, hlt⟩ := h
  exact fun ho => absurd (ho (i - 1) i (by omega) hi) (UInt64.not_le.2 hlt)

/-- Up to the first touch that goes back the trace is in order. -/
theorem isLeast_goesBack (hes : es = pre ++ a :: b :: post) (hlt : b.time < a.time)
    (hpre : InOrder (pre ++ [a])) : IsLeast {i | GoesBack es i} (pre.length + 1) := by
  subst hes
  constructor
  · refine ⟨Nat.succ_pos _, by simp, ?_⟩
    simpa using hlt
  · rintro i ⟨hpos, hi, hback⟩
    by_contra hlt
    have hi' : i < (pre ++ [a]).length := by
      rw [List.length_append, List.length_singleton]
      omega
    refine GoesBack.not_inOrder ⟨hpos, hi', ?_⟩ hpre
    have hsplit : pre ++ a :: b :: post = (pre ++ [a]) ++ b :: post := by simp
    simpa only [hsplit, List.getElem_append_left hi',
      List.getElem_append_left (Nat.lt_of_le_of_lt (Nat.sub_le i 1) hi')] using hback

namespace Scenario
open Surface
variable {sv : Services} {sc : Scenario} {s : Surface}

/-! ## The check of the times -/

theorem firstDisorder?_eq_none_iff : firstDisorder? n e.time es = none ↔ InOrder (e :: es) := by
  induction es generalizing n e with
  | nil => exact ⟨fun _ => inOrder_singleton e, fun _ => rfl⟩
  | cons f es ih =>
    rw [firstDisorder?, inOrder_cons_cons]
    split
    · rename_i hlt
      exact ⟨nofun, fun h => absurd h.1 (UInt64.not_le.2 hlt)⟩
    · rename_i hle
      rw [ih, and_iff_right (UInt64.not_lt.1 hle)]

/-- The first touch that goes back is named, with all before it in order. -/
theorem firstDisorder?_eq_some (h : firstDisorder? n e.time es = some x) :
    ∃ pre a b post, e :: es = pre ++ a :: b :: post ∧ b.time < a.time ∧ InOrder (pre ++ [a]) ∧
      x = .outOfOrder (n + pre.length + 1) b.time a.time := by
  induction es generalizing n e with
  | nil => cases h
  | cons f es ih =>
    rw [firstDisorder?] at h
    split at h
    · rename_i hlt
      exact ⟨[], e, f, es, rfl, hlt, inOrder_singleton e, (Option.some.inj h).symm⟩
    · rename_i hle
      obtain ⟨pre, a, b, post, hes, hlt, hpre, rfl⟩ := ih h
      refine ⟨e :: pre, a, b, post, by rw [hes]; rfl, hlt, ?_, ?_⟩
      · -- the touch after `e` heads what is in order
        obtain ⟨rest, hrest⟩ : ∃ rest, pre ++ [a] = f :: rest := by
          cases pre with
          | nil => exact ⟨[], by rw [(List.cons.inj hes).1]; rfl⟩
          | cons p pre => exact ⟨pre ++ [a], by rw [(List.cons.inj hes).1]; rfl⟩
        rw [List.cons_append, hrest, inOrder_cons_cons, ← hrest]
        exact ⟨UInt64.not_lt.1 hle, hpre⟩
      · simp only [List.length_cons]
        congr 1
        omega

theorem validate_of_not_positive (h : ¬ (0 < sc.surface.width ∧ 0 < sc.surface.height)) :
    sc.validate = .error .emptySurface := by
  rw [validate, fault?, if_neg h]

theorem validate_of_inOrder (h : 0 < sc.surface.width ∧ 0 < sc.surface.height)
    (ho : InOrder sc.events) : sc.validate = .ok sc := by
  rw [validate, fault?, if_pos h]
  cases hes : sc.events with
  | nil => rfl
  | cons e es =>
    rw [hes] at ho
    simp only [firstDisorder?_eq_none_iff.2 ho]

theorem validate_of_not_inOrder (h : 0 < sc.surface.width ∧ 0 < sc.surface.height)
    (ho : ¬ InOrder sc.events) :
    ∃ pre a b post, sc.events = pre ++ a :: b :: post ∧ b.time < a.time ∧ InOrder (pre ++ [a]) ∧
      sc.validate = .error (.outOfOrder (pre.length + 1) b.time a.time) := by
  rw [validate, fault?, if_pos h]
  cases hes : sc.events with
  | nil => exact absurd (by rw [hes, inOrder_iff_pairwise]; exact .nil) ho
  | cons e es =>
    rw [hes] at ho
    cases hf : firstDisorder? 0 e.time es with
    | none => exact absurd (firstDisorder?_eq_none_iff.1 hf) ho
    | some x =>
      obtain ⟨pre, a, b, post, hsplit, hlt, hpre, rfl⟩ := firstDisorder?_eq_some hf
      rw [Nat.zero_add] at hf
      exact ⟨pre, a, b, post, hsplit, hlt, hpre, by simp only [hf]⟩

theorem validate_eq_ok_iff : sc.validate = .ok sc ↔
    0 < sc.surface.width ∧ 0 < sc.surface.height ∧ InOrder sc.events := by
  refine ⟨fun h => ?_, fun ⟨hw, hh, ho⟩ => validate_of_inOrder ⟨hw, hh⟩ ho⟩
  by_cases hpos : 0 < sc.surface.width ∧ 0 < sc.surface.height
  · refine ⟨hpos.1, hpos.2, ?_⟩
    by_contra ho
    obtain ⟨_, _, _, _, -, -, -, herr⟩ := validate_of_not_inOrder hpos ho
    rw [herr] at h
    cases h
  · rw [validate_of_not_positive hpos] at h
    cases h

/-- What is greater than zero is a number. -/
theorem isNaN_of_pos {w : Float32} (h : 0 < w) : w.isNaN = false := by
  have hlt : (0 : Float32).toModel.unpack.lt w.toModel.unpack = true := of_decide_eq_true h
  have hnan (x : Float.Model.UnpackedFloat) : x.lt .notANumber = false := by cases x <;> rfl
  show w.toModel.unpack.isNaN = false
  cases hw : w.toModel.unpack with
  | notANumber =>
    rw [hw, hnan] at hlt
    cases hlt
  | _ => rfl

/-! ## The clock along a trace -/

theorem now_touch (sv : Services) (s : Surface) (e : TouchEvent) :
    (s.touch sv e).state.now = max s.now e.time :=
  (now_route sv _ e).trans (now_advance sv s e.time)

theorem now_buildSurface (hb : sc.buildSurface = .ok s) : s.now = 0 := by
  rw [(buildSurface_eq_ok {} hb).1, run_singleton]
  exact now_perform_of_layout {} _ rfl

/-- A trace in order that does not begin in the past leaves the clock at its last touch. -/
theorem now_run_touches (ho : InOrder es) (hs : ∀ f ∈ es, s.now ≤ f.time)
    (he : es.getLast? = some e) :
    (run sv ((es.map Operation.touch).map .operation) s).state.now = e.time := by
  induction es generalizing s with
  | nil => cases he
  | cons f es ih =>
    have hnow : (s.touch sv f).state.now = f.time :=
      (now_touch sv s f).trans (Millis.max_eq_right (hs f List.mem_cons_self))
    cases es with
    | nil =>
      obtain rfl : f = e := Option.some.inj he
      exact hnow
    | cons g es =>
      rw [inOrder_iff_pairwise, List.pairwise_cons, ← inOrder_iff_pairwise] at ho
      have hrest := ih (s := (s.touch sv f).state) ho.2 (fun x hx => hnow ▸ ho.1 x hx) he
      exact hrest

/-- **Validation admits exactly the traces that can be replayed**: those on a surface of positive
size, so with numbers for its sides, in which no touch lies before an earlier one. Where a touch
does, the error names the first one that lies before its neighbour, with the two times, and the
touches before it are in order. After each touch of an admitted trace the clock of the surface
stands at the time of the touch. -/
theorem validate_admits_replayable (sc : Scenario) :
    (sc.validate = .ok sc ↔
      0 < sc.surface.width ∧ 0 < sc.surface.height ∧ InOrder sc.events) ∧
    (sc.validate = .ok sc →
      sc.surface.width.isNaN = false ∧ sc.surface.height.isNaN = false) ∧
    (0 < sc.surface.width → 0 < sc.surface.height → sc.validate ≠ .ok sc →
      ∃ (i : Nat) (hi : i < sc.events.length), IsLeast {i | GoesBack sc.events i} i ∧
        InOrder (sc.events.take i) ∧
        sc.validate = .error (.outOfOrder i sc.events[i].time sc.events[i - 1].time)) ∧
    ∀ (sv : Services) (s : Surface), sc.validate = .ok sc → sc.buildSurface = .ok s →
      ∀ i (hi : i < sc.events.length),
        (run sv (((sc.events.take (i + 1)).map Operation.touch).map .operation) s).state.now =
          sc.events[i].time := by
  refine ⟨validate_eq_ok_iff, fun h => ?_, fun hw hh hne => ?_, fun sv s hv hb i hi => ?_⟩
  · obtain ⟨hw, hh, -⟩ := validate_eq_ok_iff.1 h
    exact ⟨isNaN_of_pos hw, isNaN_of_pos hh⟩
  · obtain ⟨pre, a, b, post, hes, hlt, hpre, herr⟩ :=
      validate_of_not_inOrder ⟨hw, hh⟩ fun ho => hne (validate_eq_ok_iff.2 ⟨hw, hh, ho⟩)
    have hlen : pre.length + 1 < sc.events.length := by simp [hes]
    refine ⟨pre.length + 1, hlen, isLeast_goesBack hes hlt hpre, ?_, ?_⟩
    · have hsplit : sc.events = (pre ++ [a]) ++ b :: post := by simp [hes]
      rwa [hsplit, List.take_left' (by simp)]
    · rw [herr]
      simp [hes]
  · obtain ⟨-, -, ho⟩ := validate_eq_ok_iff.1 hv
    refine now_run_touches ?_ (fun f _ => ?_) ?_
    · rw [inOrder_iff_pairwise] at ho ⊢
      exact ho.sublist (List.take_sublist _ _)
    · rw [now_buildSurface hb]
      exact UInt64.zero_le
    · rw [List.getLast?_take]
      simp [hi]

/-- The third touch goes back behind the second one. -/
def lateTouch : Scenario :=
  { surface := ⟨100, 100⟩
    events := [⟨5, .down, ⟨10, 10⟩, 10⟩, ⟨5, .move, ⟨20, 20⟩, 30⟩, ⟨5, .move, ⟨30, 20⟩, 20⟩,
      ⟨5, .up, ⟨30, 20⟩, 15⟩] }

/-- Two taps in order, and a touch that is late. -/
theorem validate_admits_replayable_of_lateTouch :
    (tapTwice.validate = .ok tapTwice ∧ ∃ s, tapTwice.buildSurface = .ok s ∧
      (run {} (((tapTwice.events.take 7).map Operation.touch).map .operation) s).state.now = 198) ∧
    lateTouch.validate ≠ .ok lateTouch ∧ IsLeast {i | GoesBack lateTouch.events i} 2 ∧
      lateTouch.validate = .error (.outOfOrder 2 20 30) := by
  constructor
  · obtain ⟨hiff, -, -, hclock⟩ := validate_admits_replayable tapTwice
    have hv : tapTwice.validate = .ok tapTwice :=
      hiff.2 ⟨by decide +kernel, by decide +kernel, inOrder_iff_pairwise.2 (by decide +kernel)⟩
    cases hb : tapTwice.buildSurface with
    | error e =>
      have hok : tapTwice.buildSurface.isOk = true := by decide +kernel
      rw [hb] at hok
      cases hok
    | ok s => exact ⟨hv, s, rfl, hclock {} s hv hb 6 (by decide)⟩
  · obtain ⟨-, -, hlate, -⟩ := validate_admits_replayable lateTouch
    have herr : lateTouch.validate = .error (.outOfOrder 2 20 30) := by rfl
    have hne : lateTouch.validate ≠ .ok lateTouch := by
      rw [herr]
      nofun
    obtain ⟨i, hi, hleast, -, h⟩ := hlate (by decide +kernel) (by decide +kernel) hne
    have hi : 2 = i := by
      rw [herr] at h
      injection h with h
      injection h
    exact ⟨hne, hi ▸ hleast, herr⟩

end Scenario
end
end TouchOverlay
