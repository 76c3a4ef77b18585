import TouchOverlay.Proofs.Run

/-!
# The history of a run

`Surface.run` keeps the last state of a run and its requests. A `Moment` is everything that one
operation gives: its answer, its requests, and the state that it leaves. Two runs that a caller
cannot tell apart have the same history.
-/

namespace TouchOverlay

/-- What an operation answers to its caller. -/
inductive Answer
  | done
  | refused (e : LayoutError)
  | removed (c : ControlConfig)
  | delivered (timers : Nat)
  | touched (consumed : Bool)

structure Moment where
  answer : Answer
  issued : List Issued
  surface : Surface

def Operation.answer (sv : Services) (s : Surface) : Operation → Answer
  | removeControl id =>
    match s.removeControl id with
    | .ok (c, _) => .removed c
    | .error e => .refused e
  | advance now => .delivered (s.advance sv now).delivered
  | touch e => .touched (s.touch sv e).consumed
  | op =>
    match op.apply sv s with
    | .ok _ => .done
    | .error e => .refused e

namespace Surface
variable {sv : Services} {s : Surface} {ops : List Operation} {op : Operation} {m : Moment}

def moment (sv : Services) (s : Surface) (op : Operation) : Moment :=
  { answer := op.answer sv s
    issued := (op.perform sv s).issued
    surface := (op.perform sv s).state }

def history (sv : Services) : List Operation → Surface → List Moment
  | [], _ => []
  | op :: ops, s => s.moment sv op :: history sv ops (op.perform sv s).state

/-- What every operation keeps holds in every moment. -/
theorem history_keeps {P : Surface → Prop}
    (hP : ∀ {s} (op : Operation), P s → P (op.perform sv s).state) (hs : P s)
    (hm : m ∈ s.history sv ops) : P m.surface := by
  induction ops generalizing s with
  | nil => exact absurd hm List.not_mem_nil
  | cons op ops ih =>
    rcases List.mem_cons.1 hm with rfl | hm
    · exact hP op hs
    · exact ih (hP op hs) hm

end Surface

/-! ## What is recorded -/

namespace Recorder

theorem report_eq_record (r : Recorder) (e : OutputEvent) : r.report e = r.record [e] := by
  unfold report inject
  by_cases hk : r.keeps e = true
  · simp [hk]
  · simp [record, hk]

theorem foldl_report (r : Recorder) (es : List OutputEvent) : es.foldl report r = r.record es := by
  induction es generalizing r with
  | nil => simp [record]
  | cons e es ih =>
    rw [List.foldl_cons, ih, report_eq_record, ← record_append]
    rfl

end Recorder

namespace Surface
variable {sv : Services} {s : Surface} {ops : List Operation}

/-- The events that the bridge of a surface has recorded after a run. -/
def recorded (sv : Services) (ops : List Operation) (s : Surface) : List OutputEvent :=
  ((sv.outputs ((s.history sv ops).flatMap (·.issued))).foldl .report sv.recorder).events

theorem recorded_eq (sv : Services) (ops : List Operation) (s : Surface) :
    s.recorded sv ops =
      (sv.outputs ((s.history sv ops).flatMap (·.issued))).filter sv.recorder.keeps := by
  rw [recorded, Recorder.foldl_report]
  exact List.nil_append _

theorem recorded_congr {s' : Surface} {ops' : List Operation}
    (h : (s.history sv ops).map Moment.issued = (s'.history sv ops').map Moment.issued) :
    s.recorded sv ops = s'.recorded sv ops' := by
  rw [recorded_eq, recorded_eq, List.flatMap_def, List.flatMap_def, h]

end Surface
end TouchOverlay
