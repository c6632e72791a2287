import Switchboard.Settings.Basic

/-!
# Layers of settings

Settings come in layers, each laid over those before. A value that differs from the default covers
what lies below; a value equal to the default lets it show through, whether it was given or not. The
protocol table is covered as a whole, since its order matters.
-/

namespace Switchboard.Settings

/-- The upper value, unless it is the default. -/
def cover {α : Type} [DecidableEq α] (default lower upper : α) : α :=
  if upper = default then lower else upper

/-- Settings with a layer over them. -/
def overlay (lower upper : Settings) : Settings :=
  { listen := cover default.listen lower.listen upper.listen
    timeout := cover default.timeout lower.timeout upper.timeout
    onTimeout := cover default.onTimeout lower.onTimeout upper.onTimeout
    verbose := cover default.verbose lower.verbose upper.verbose
    logLevel := cover default.logLevel lower.logLevel upper.logLevel
    bufferSize := cover default.bufferSize lower.bufferSize upper.bufferSize
    connectTimeout := cover default.connectTimeout lower.connectTimeout upper.connectTimeout
    routes := if upper.routes.isEmpty then lower.routes else upper.routes }

/-- Layers over the defaults, the lowest first. -/
def ofLayers (layers : List Settings) : Settings :=
  layers.foldl overlay default

theorem cover_default {α : Type} [DecidableEq α] (default lower : α) :
    cover default lower default = lower := if_pos rfl

theorem default_cover {α : Type} [DecidableEq α] (default upper : α) :
    cover default default upper = upper := by
  rw [cover]
  split
  · exact Eq.symm ‹_›
  · rfl

/-- The defaults over a layer show all of it. -/
theorem overlay_default (lower : Settings) : lower.overlay default = lower := by
  simp only [overlay, cover_default]
  rfl

/-- A layer over the defaults shows nothing of them. -/
theorem default_overlay (upper : Settings) : default.overlay upper = upper := by
  have hroutes :
      (if upper.routes.isEmpty then default.routes else upper.routes) = upper.routes := by
    cases upper.routes <;> rfl
  simp only [overlay, default_cover, hroutes]

end Switchboard.Settings
