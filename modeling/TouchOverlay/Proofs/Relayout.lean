import TouchOverlay.Proofs.Routing

/-!
# A new size is a new layout

A resize ends every session and mounts every control anew, as replacing the layout by itself would.
The two go about it differently: the replacement checks its layout before it ends a session, the
resize ends the sessions at their old bounds and drops what it cannot mount afterwards. Whether a
placement is valid does not depend on a size, and what is on a surface has passed the check, so the
replacement is not refused and the resize drops nothing.
-/

namespace TouchOverlay
namespace Surface

/-- The surface at another size, its controls where their placements say. -/
def rescale (s : Surface) (size : SurfaceSize) : Surface :=
  { s with
    size
    controls := s.controls.map fun c => { c with bounds := c.placement.resolve size } }

variable {s : Surface}

theorem map_id_config : (s.controls.map Control.config).map (·.id) = s.ids := List.map_map

theorem map_config_mount (size : SurfaceSize) (cfgs : List ControlConfig) :
    (cfgs.map (Control.mount size)).map Control.config = cfgs := by
  simp [Function.comp_def]

/-- Mounting at a new size is mounting at the old one and moving to the new one. -/
theorem mountAll_rescale (size : SurfaceSize) (cfgs : List ControlConfig) (hs : s.controls = []) :
    ({ s with size } : Surface).mountAll cfgs = (s.mountAll cfgs).rescale size := by
  simp only [mountAll_eq, rescale, hs, List.nil_append, List.map_map]
  rfl

namespace Routed

theorem isValid_config (hr : s.Routed) {cfg : ControlConfig}
    (hm : cfg ∈ s.controls.map Control.config) : cfg.placement.isValid = true := by
  obtain ⟨c, hc, rfl⟩ := List.mem_map.1 hm
  exact (hr.placed c hc).1

theorem replaceLayout_configs (hn : s.ids.Nodup) (hr : s.Routed) :
    s.replaceLayout (s.controls.map Control.config) =
      .ok { state := s.detachAll.state.mountAll (s.controls.map Control.config)
            issued := s.detachAll.issued } := by
  have hf : firstFault? [] (s.controls.map Control.config) = none := by
    refine firstFault?_of_valid ?_ fun cfg hm => ⟨List.not_mem_nil, hr.isValid_config hm⟩
    rwa [map_id_config]
  simp only [replaceLayout, hf]

theorem resize_eq (hr : s.Routed) (size : SurfaceSize) :
    s.resize size =
      { state := (s.detachAll.state.mountAll (s.controls.map Control.config)).rescale size
        issued := s.detachAll.issued } := by
  have hall : (s.controls.map Control.config).filter (·.placement.isValid) =
      s.controls.map Control.config :=
    List.filter_eq_self.2 fun cfg hm => hr.isValid_config hm
  simp only [resize, hall, mountAll_rescale size _ controls_detachAll]

end Routed

theorem map_config_rescale (size : SurfaceSize) :
    (s.rescale size).controls.map Control.config = s.controls.map Control.config := by
  simp only [rescale, List.map_map]
  rfl

/-- **A resize is a relayout that drops nothing**, at any new size, in every state of a run in which
others may work on the claims. It keeps the description of every control, in order. It asks for what
the replacement of the layout by itself asks for, which is not refused, and leaves what that leaves,
apart from the new size and the bounds that go with it. -/
theorem resize_is_relayout (sv : Services) (size : SurfaceSize) (cl : Claims) (sts : List Step)
    (size' : SurfaceSize) :
    let s := (run sv sts ((empty size).withClaims cl)).state
    let configs := s.controls.map Control.config
    (s.resize size').state.controls.map Control.config = configs ∧
    ∃ relayout, s.replaceLayout configs = .ok relayout ∧
      (s.resize size').issued = relayout.issued ∧
      (s.resize size').state = relayout.state.rescale size' := by
  intro s configs
  have hn : s.ids.Nodup := nodup_ids_run sts (nodup_ids_empty size cl)
  have hr : s.Routed := (Routed.empty size cl).run (nodup_ids_empty size cl) sv sts
  rw [hr.resize_eq size']
  refine ⟨?_, _, hr.replaceLayout_configs hn, rfl, rfl⟩
  rw [map_config_rescale, controls_mountAll, controls_detachAll, List.nil_append, map_config_mount]

end Surface
end TouchOverlay
