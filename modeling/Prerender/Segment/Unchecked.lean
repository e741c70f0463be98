import Prerender.Segment
import Prerender.Setting

/-!
# Segments with unchecked settings

A segment may be made by hand, with settings of any shape. `UncheckedConfig` holds what they
declare under the names of the settings, in the order that the settings have. Settings that were
checked are found in it under their names (`lookup?_declared`).
-/

namespace Prerender

/-- Settings of any shape: those declared, under their names. -/
abbrev UncheckedConfig := Bindings Value

/-- A segment whose settings may have any shape. -/
abbrev UncheckedSegment := SegmentWith UncheckedConfig

namespace UncheckedConfig

/-- The settings that are given by some bindings. One bound to nothing is not declared, and one of
another name is an error. -/
def ofBindings (given : Bindings Value) : Except Crash UncheckedConfig := do
  Setting.checkNames "SegmentConfig" SegmentConfig.names given.names
  return SegmentConfig.names.filterMap fun name =>
    match given.lookup? name with
    | none => none
    | some .none => none
    | some value => some (name, value)

end UncheckedConfig

/-- A segment, its settings forgotten to be right. -/
def Segment.uncheck (segment : Segment) : UncheckedSegment :=
  { name := segment.name
    role := segment.role
    sourcePath := segment.sourcePath
    config := segment.config.map SegmentConfig.declared
    generator := segment.generator }

namespace SegmentConfig

/-- Each setting is found under its name. -/
theorem lookup?_declared (config : SegmentConfig) {name : String} {value : Option Value}
    (member : (name, value) ∈ config.settings) : config.declared.lookup? name = value :=
  Bindings.lookup?_present (by simp [settings]) member

end SegmentConfig

end Prerender
