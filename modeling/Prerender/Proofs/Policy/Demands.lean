import Prerender.Policy

/-!
# What segments demand of a policy

Three parts of a policy do not depend on the order of the segments, because each of them is settled
by what single segments demand:

* a route is rendered in the strongest way that some segment demands (`strongest_modeOf`);
* other parameters are served unless some segment forbids it (`dynamicParamsOf_eq_true_iff`);
* a route may be prerendered in part if no segment opts out, and in the incremental mode if moreover
  some segment opts in (`pprEligibleOf_on_iff`, `pprEligibleOf_incremental_iff`).

So the segments of a chain may be rearranged, and one more segment can only demand more
(`ofChain_rearranged`).
-/

namespace Prerender

/-! ### Ways of rendering -/

/-- How strong a way of rendering is. Of those that are demanded the strongest one prevails. -/
def RenderMode.rank : RenderMode → Nat
  | .static => 0
  | .dynamic => 1
  | .forceStatic => 2
  | .forceDynamic => 3

theorem RenderMode.eq_of_rank_eq {mode other : RenderMode} (same : mode.rank = other.rank) :
    mode = other := by
  revert same
  cases mode <;> cases other <;> decide

theorem RenderMode.rank_le_of_ne {mode : RenderMode} (weaker : mode ≠ .forceDynamic) :
    mode.rank ≤ RenderMode.forceStatic.rank := by
  revert weaker
  cases mode <;> decide

namespace Segment

/-- The way of rendering that a segment demands of its route. -/
def demand (segment : Segment) : RenderMode :=
  match segment.config.bind (·.dynamic) with
  | some .forceDynamic => .forceDynamic
  | some .forceStatic => .forceStatic
  | some .error => .forceStatic
  | _ => if segment.isDynamic || segment.generator.isSome then .dynamic else .static

variable {segment : Segment}

theorem demand_eq_forceDynamic_iff :
    segment.demand = .forceDynamic ↔ segment.config.bind (·.dynamic) = some .forceDynamic := by
  unfold demand
  split
  · simp [*]
  · simp [*]
  · simp [*]
  · next other _ _ =>
    refine iff_of_false ?_ other
    split <;> decide

theorem demand_eq_forceStatic_iff :
    segment.demand = .forceStatic
      ↔ segment.config.bind (·.dynamic) = some .forceStatic
        ∨ segment.config.bind (·.dynamic) = some .error := by
  unfold demand
  split
  · simp [*]
  · simp [*]
  · simp [*]
  · next notStatic notError =>
    refine iff_of_false ?_ (not_or.mpr ⟨notStatic, notError⟩)
    split <;> decide

/-- A segment that says nothing stronger demands what its role and its generator do. -/
theorem demand_of_weak (onRequest : segment.demand ≠ .forceDynamic)
    (unforced : segment.demand ≠ .forceStatic) :
    segment.demand
      = if segment.isDynamic || segment.generator.isSome then .dynamic else .static := by
  unfold demand at onRequest unforced ⊢
  split
  · simp [*] at onRequest
  · simp [*] at unforced
  · simp [*] at unforced
  · rfl

end Segment

namespace Policy

variable {chain other : List Segment}

theorem mem_declaredIn_iff {α : Type} {setting : SegmentConfig → Option α} {value : α} :
    value ∈ declaredIn setting chain
      ↔ ∃ segment ∈ chain, segment.config.bind setting = some value :=
  List.mem_filterMap

/-- A way of rendering is the strongest one that the segments of a chain demand. -/
structure Strongest (chain : List Segment) (mode : RenderMode) : Prop where
  demanded : mode = .static ∨ ∃ segment ∈ chain, segment.demand = mode
  rank_le : ∀ segment ∈ chain, segment.demand.rank ≤ mode.rank

theorem strongest_modeOf (chain : List Segment) : Strongest chain (modeOf chain) := by
  unfold modeOf
  simp only [List.contains_iff_mem, mem_declaredIn_iff, Bool.or_eq_true]
  split
  · next demanded =>
    obtain ⟨segment, inChain, declares⟩ := demanded
    refine ⟨Or.inr ⟨segment, inChain, Segment.demand_eq_forceDynamic_iff.mpr declares⟩, ?_⟩
    intro other _
    cases other.demand <;> decide
  next onRequest =>
    have notRequested : ∀ segment ∈ chain, segment.demand ≠ .forceDynamic :=
      fun segment inChain demands =>
        onRequest ⟨segment, inChain, Segment.demand_eq_forceDynamic_iff.mp demands⟩
    split
    · next forced =>
      have demanded : ∃ segment ∈ chain, segment.demand = .forceStatic := by
        simp only [Segment.demand_eq_forceStatic_iff]
        rcases forced with ⟨segment, inChain, declares⟩ | ⟨segment, inChain, declares⟩
        · exact ⟨segment, inChain, Or.inl declares⟩
        · exact ⟨segment, inChain, Or.inr declares⟩
      exact ⟨Or.inr demanded,
        fun other inChain => RenderMode.rank_le_of_ne (notRequested other inChain)⟩
    next unforced =>
      have notForced : ∀ segment ∈ chain, segment.demand ≠ .forceStatic := by
        intro segment inChain demands
        rcases Segment.demand_eq_forceStatic_iff.mp demands with declares | declares
        · exact unforced (Or.inl ⟨segment, inChain, declares⟩)
        · exact unforced (Or.inr ⟨segment, inChain, declares⟩)
      have weak : ∀ segment ∈ chain, segment.demand
          = if segment.isDynamic || segment.generator.isSome then .dynamic else .static :=
        fun segment inChain => Segment.demand_of_weak (notRequested segment inChain)
          (notForced segment inChain)
      split
      · next dynamic =>
        obtain ⟨segment, inChain, here⟩ := List.any_eq_true.mp dynamic
        refine ⟨Or.inr ⟨segment, inChain, by rw [weak segment inChain, if_pos here]⟩, ?_⟩
        intro other inChain
        rw [weak other inChain]
        split <;> decide
      · next static =>
        refine ⟨Or.inl rfl, ?_⟩
        intro other inChain
        have weakest : ¬(other.isDynamic || other.generator.isSome) = true :=
          fun dynamic => static (List.any_eq_true.mpr ⟨other, inChain, dynamic⟩)
        have demands : other.demand = .static := (weak other inChain).trans (if_neg weakest)
        exact Nat.le_of_eq (congrArg RenderMode.rank demands)

/-- A chain with more segments is rendered in a way that is at least as strong. -/
theorem rank_modeOf_le (among : chain ⊆ other) : (modeOf chain).rank ≤ (modeOf other).rank := by
  rcases (strongest_modeOf chain).demanded with static | ⟨segment, inChain, demands⟩
  · rw [static]
    exact Nat.zero_le _
  · rw [← demands]
    exact (strongest_modeOf other).rank_le segment (among inChain)

theorem dynamicParamsOf_eq_true_iff :
    dynamicParamsOf chain = true
      ↔ ∀ segment ∈ chain, segment.config.bind (·.dynamicParams) ≠ some false := by
  simp [dynamicParamsOf, mem_declaredIn_iff]

theorem pprEligibleOf_on_iff :
    pprEligibleOf .on chain = true
      ↔ ∀ segment ∈ chain, segment.config.bind (·.experimentalPpr) ≠ some false := by
  simp [pprEligibleOf, mem_declaredIn_iff]

theorem pprEligibleOf_incremental_iff :
    pprEligibleOf .incremental chain = true
      ↔ pprEligibleOf .on chain = true
        ∧ ∃ segment ∈ chain, segment.config.bind (·.experimentalPpr) = some true := by
  simp [pprEligibleOf, mem_declaredIn_iff]

/-- Of an eligible chain every part is eligible, where no segment has to opt in. -/
theorem pprEligibleOf_on_of_subset (among : chain ⊆ other)
    (eligible : pprEligibleOf .on other = true) : pprEligibleOf .on chain = true := by
  rw [pprEligibleOf_on_iff] at eligible ⊢
  exact fun segment inChain => eligible segment (among inChain)

theorem dynamicParamsOf_of_subset (among : chain ⊆ other)
    (served : dynamicParamsOf other = true) : dynamicParamsOf chain = true := by
  rw [dynamicParamsOf_eq_true_iff] at served ⊢
  exact fun segment inChain => served segment (among inChain)

theorem pprEligibleOf_of_mem_iff (same : ∀ segment, segment ∈ chain ↔ segment ∈ other)
    (ppr : PprMode) : pprEligibleOf ppr chain = pprEligibleOf ppr other := by
  cases ppr with
  | off => rfl
  | on =>
    rw [Bool.eq_iff_iff, pprEligibleOf_on_iff, pprEligibleOf_on_iff]
    simp only [same]
  | incremental =>
    rw [Bool.eq_iff_iff, pprEligibleOf_incremental_iff, pprEligibleOf_incremental_iff,
      pprEligibleOf_on_iff, pprEligibleOf_on_iff]
    simp only [same]

/-- Rearranging the segments of a chain changes neither how the route is rendered nor whether other
parameters are served nor whether it may be prerendered in part. One more segment, wherever it is
put in, never makes the way of rendering weaker, never makes other parameters served that were
not, and never makes a route eligible that was not, where no segment has to opt in. What is
eligible in the incremental mode is eligible where partial prerendering is on, and nothing is
where it is off. -/
theorem ofChain_rearranged (ppr : PprMode) (chain : List Segment) :
    (∀ other, chain.Perm other →
        (ofChain ppr other).mode = (ofChain ppr chain).mode
          ∧ (ofChain ppr other).dynamicParams = (ofChain ppr chain).dynamicParams
          ∧ (ofChain ppr other).pprEligible = (ofChain ppr chain).pprEligible)
      ∧ (∀ above below, chain = above ++ below → ∀ segment,
          (ofChain ppr chain).mode.rank ≤ (ofChain ppr (above ++ segment :: below)).mode.rank
            ∧ ((ofChain ppr chain).dynamicParams = false →
                (ofChain ppr (above ++ segment :: below)).dynamicParams = false)
            ∧ ((ofChain .on chain).pprEligible = false →
                (ofChain .on (above ++ segment :: below)).pprEligible = false))
      ∧ ((ofChain .incremental chain).pprEligible = true → (ofChain .on chain).pprEligible = true)
      ∧ (ofChain .off chain).pprEligible = false := by
  refine ⟨?_, ?_, ?_, rfl⟩
  · intro other rearranged
    refine ⟨?_, ?_, pprEligibleOf_of_mem_iff (fun _ => rearranged.mem_iff.symm) ppr⟩
    · exact RenderMode.eq_of_rank_eq
        (Nat.le_antisymm (rank_modeOf_le rearranged.symm.subset)
          (rank_modeOf_le rearranged.subset))
    · exact Bool.eq_iff_iff.mpr ⟨dynamicParamsOf_of_subset rearranged.subset,
        dynamicParamsOf_of_subset rearranged.symm.subset⟩
  · rintro above below rfl segment
    have among : above ++ below ⊆ above ++ segment :: below :=
      ((List.sublist_cons_self segment below).append_left above).subset
    refine ⟨rank_modeOf_le among, ?_, ?_⟩
    · intro forbidden
      exact Bool.eq_false_iff.mpr
        (mt (dynamicParamsOf_of_subset among) (Bool.eq_false_iff.mp forbidden))
    · intro refused
      exact Bool.eq_false_iff.mpr
        (mt (pprEligibleOf_on_of_subset among) (Bool.eq_false_iff.mp refused))
  · exact fun eligible => (pprEligibleOf_incremental_iff.mp eligible).1

theorem ofChain_rearranged_layouts :
    let lang : Segment :=
      { name := "[lang]", role := .dynamic (some ⟨"lang", .single⟩)
        config := some { experimentalPpr := some true } }
    let page : Segment :=
      { name := "page", config := some { dynamic := some .auto, dynamicParams := some false } }
    let fresh : Segment :=
      { name := "fresh", config := some { dynamic := some .error, experimentalPpr := some false } }
    [lang, page].Perm [page, lang]
      ∧ (ofChain .incremental [page, lang]).mode = (ofChain .incremental [lang, page]).mode
      ∧ (ofChain .incremental [page, lang]).dynamicParams
        = (ofChain .incremental [lang, page]).dynamicParams
      ∧ (ofChain .incremental [page, lang]).pprEligible
        = (ofChain .incremental [lang, page]).pprEligible
      ∧ (ofChain .incremental [lang, page]).mode.rank
        ≤ (ofChain .incremental [lang, fresh, page]).mode.rank
      ∧ (ofChain .incremental [lang, fresh, page]).dynamicParams = false
      ∧ (ofChain .on [lang, fresh, page]).pprEligible = false
      ∧ (ofChain .on [lang, page]).pprEligible = true := by
  intro lang page fresh
  have rearranged : [lang, page].Perm [page, lang] := .swap page lang []
  obtain ⟨reordered, inserted, eligible, -⟩ := ofChain_rearranged .incremental [lang, page]
  obtain ⟨mode, served, opted⟩ := reordered _ rearranged
  obtain ⟨stronger, forbidden, -⟩ := inserted [lang] [page] rfl fresh
  obtain ⟨-, further, -, -⟩ := ofChain_rearranged .on [lang, fresh]
  exact ⟨rearranged, mode, served, opted, stronger, forbidden (by decide),
    (further [lang, fresh] [] rfl page).2.2 (by decide), eligible (by decide)⟩

end Policy

end Prerender
