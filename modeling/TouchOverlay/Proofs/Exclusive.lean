import TouchOverlay.Proofs.ClaimProtocol
import TouchOverlay.Proofs.History
import TouchOverlay.Proofs.Routing
import TouchOverlay.Proofs.TimerOwnership

/-!
# Surfaces that nobody else works on

The invariants of timers, routes and claims together, for a surface whose claims nobody else works on.
On such a surface the claims follow from the routes: a pointer is claimed if it is routed to a control
that withholds its contacts, and otherwise it is not.
-/

namespace TouchOverlay
namespace Surface

structure Exclusive (s : Surface) : Prop where
  tidy : s.Tidy .empty
  routed : s.Routed
  protocol : s.Protocol fun _ => False

namespace Exclusive
variable {sv : Services} {s : Surface} {p : PointerId} {id : ControlId} {m : Moment}

theorem empty (size : SurfaceSize) : (Surface.empty size).Exclusive :=
  ⟨.empty size .empty, .empty size .empty, .empty _ size⟩

theorem run (hs : s.Exclusive) (sv : Services) (ops : List Operation) :
    (run sv (ops.map .operation) s).state.Exclusive where
  tidy := hs.tidy.run sv _
  routed := hs.routed.run hs.tidy.nodup sv _
  protocol := by
    refine hs.protocol.run hs.tidy.nodup (fun _ _ h => h) ?_
    intro call hcall
    obtain ⟨_, -, hop⟩ := List.mem_map.1 hcall
    cases hop

theorem perform (hs : s.Exclusive) (sv : Services) (op : Operation) :
    (op.perform sv s).state.Exclusive :=
  hs.run sv [op]

theorem history (hs : s.Exclusive) {ops : List Operation} (hm : m ∈ s.history sv ops) :
    m.surface.Exclusive :=
  history_keeps (fun op hs => hs.perform sv op) hs hm

/-- The claims are the routes to controls that withhold their contacts. -/
theorem owner?_eq_some_iff (hs : s.Exclusive) : s.claims.owner? p = some id ↔
    s.route? p = some id ∧ ∃ c ∈ s.controls, c.id = id ∧ c.passThrough = false := by
  constructor
  · intro ho
    obtain ⟨c, hc, rfl⟩ := mem_ids.1 ((hs.protocol.known p id ho).resolve_left fun h => h)
    obtain ⟨hpass, hcp⟩ := (hs.protocol.own c hc p).1 ho
    exact ⟨(hs.routed.route p c.id).2 ⟨c, hc, rfl, hcp⟩, c, hc, rfl, hpass⟩
  · rintro ⟨hr, c, hc, rfl, hpass⟩
    obtain ⟨pre, post, hcs⟩ := List.append_of_mem hc
    exact (hs.protocol.own c hc p).2 ⟨hpass, (hs.routed.route_self hs.tidy.nodup hcs).1 hr⟩

theorem owner?_eq_none (hs : s.Exclusive) (hr : s.route? p = none) : s.claims.owner? p = none := by
  rw [Option.eq_none_iff_forall_ne_some]
  intro id ho
  have hroute := (hs.owner?_eq_some_iff.1 ho).1
  rw [hr] at hroute
  cases hroute

theorem route?_eq_none (hs : s.Exclusive) (hc : ∀ c ∈ s.controls, c.pointer? = none) :
    s.route? p = none := by
  rw [Option.eq_none_iff_forall_ne_some]
  intro id hr
  obtain ⟨c, hm, -, hp⟩ := (hs.routed.route p id).1 hr
  rw [hc c hm] at hp
  cases hp

end Exclusive
end Surface
end TouchOverlay
