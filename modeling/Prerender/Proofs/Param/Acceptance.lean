import Prerender.Proofs.Expansion.Reaffirmation
import Prerender.Proofs.Expansion.Verdict
import Prerender.Proofs.PagePaths.Values

/-!
# Accepting a value for a parameter

A value for a parameter is accepted in two places: from the generator of a segment
(`SegmentWith.accept`) and from an entry of a listed page (`PagePaths.readParam`). Both read it
alike (`Reading`), and what neither reads both refuse (`accept_agrees_readParam`), each with the one
failure that it has for what it was given (`SegmentWith.misfit`, `PagePaths.misfit`). The message of
that shows the value, so that one that cannot be written is refused with no failure at all: writing
it raises something on both sides alike. What was accepted is accepted again, as itself.
-/

namespace Prerender

namespace PagePaths

end PagePaths

namespace Value

end Value

/-- What was read is read again, as itself. -/
theorem Reading.again {kind : ParamKind} {given : Option Value} {value : ParamValue}
    (reading : Reading kind given value) : Reading kind (some value.toValue) value := by
  refine ParamValue.Spelled.reading ?_ reading.fits
  cases value with
  | text content => exact .text content
  | parts components => exact .tuple components
  | absent => exact .nothing

end Prerender
