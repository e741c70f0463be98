import Mathlib.Data.List.Basic
import Prerender.Expansion

/-!
# Owners of the parameters of a chain

The check before an expansion succeeds exactly if the chain is well declared (`WellDeclared`), and
its result then lists the dynamic segments under the names of their parameters
(`ownersFrom_filter_eq_ok_iff`).
-/

namespace Prerender

variable {σ : Type}

namespace SegmentWith

theorem paramName?_of_param? {segment : SegmentWith σ} {param : SegmentParam}
    (carried : segment.param? = some param) : segment.paramName? = some param.name := by
  rw [paramName?, carried, Option.map_some]

theorem name_of_param? {segment : SegmentWith σ} {param : SegmentParam} {name : String}
    (carried : segment.param? = some param) (named : segment.paramName? = some name) :
    param.name = name :=
  Option.some.inj ((paramName?_of_param? carried).symm.trans named)

theorem isDynamic_of_paramName? {segment : SegmentWith σ} {name : String}
    (named : segment.paramName? = some name) : segment.isDynamic = true := by
  unfold paramName? param? at named
  unfold isDynamic
  split at named
  · cases named
  · next role => rfl

end SegmentWith

namespace Expansion

/-- The names of the parameters of a chain, in order. -/
def paramNames (chain : List (SegmentWith σ)) : List String :=
  chain.filterMap (·.paramName?)

theorem paramNames_append (above below : List (SegmentWith σ)) :
    paramNames (above ++ below) = paramNames above ++ paramNames below :=
  List.filterMap_append

theorem paramNames_singleton (segment : SegmentWith σ) :
    paramNames [segment] = segment.paramName?.toList := by
  cases named : segment.paramName? <;> simp [paramNames, named]

/-- The segments of a chain that have a parameter, each under its name. -/
def ownersOf (chain : List (SegmentWith σ)) : Owners σ :=
  chain.filterMap fun segment => segment.paramName?.map (·, segment)

/-- Every dynamic segment of a chain has a parameter, and no two of them the same one. -/
structure WellDeclared (chain : List (SegmentWith σ)) : Prop where
  named : ∀ segment ∈ chain, segment.isDynamic = true → segment.paramName?.isSome = true
  distinct : (paramNames chain).Nodup

theorem WellDeclared.of_append {above below : List (SegmentWith σ)}
    (declared : WellDeclared (above ++ below)) : WellDeclared above where
  named segment inAbove := declared.named segment (List.mem_append_left below inAbove)
  distinct := by
    have distinct := declared.distinct
    rw [paramNames_append] at distinct
    exact (List.nodup_append.mp distinct).1

theorem names_ownersOf (chain : List (SegmentWith σ)) :
    (ownersOf chain).names = paramNames chain := by
  induction chain with
  | nil => rfl
  | cons segment rest ih =>
    cases named : segment.paramName? with
    | none => simpa [ownersOf, paramNames, named] using ih
    | some name => simpa [ownersOf, paramNames, named] using ih

theorem mem_of_lookup?_ownersOf {chain : List (SegmentWith σ)} {name : String}
    {owner : SegmentWith σ} (owned : (ownersOf chain).lookup? name = some owner) :
    owner ∈ chain ∧ owner.paramName? = some name := by
  obtain ⟨segment, member, named⟩ := List.mem_filterMap.mp (Bindings.mem_of_lookup? owned)
  obtain ⟨_, isName, same⟩ := Option.map_eq_some_iff.mp named
  cases same
  exact ⟨member, isName⟩

/-- Every segment with a parameter owns it, if the chain is well declared. -/
theorem lookup?_ownersOf {chain : List (SegmentWith σ)} (declared : WellDeclared chain)
    {segment : SegmentWith σ} (inChain : segment ∈ chain) {name : String}
    (named : segment.paramName? = some name) :
    (ownersOf chain).lookup? name = some segment := by
  have nodup : (ownersOf chain).names.Nodup := names_ownersOf chain ▸ declared.distinct
  exact Bindings.lookup?_of_mem nodup
    (List.mem_filterMap.mpr ⟨segment, inChain, Option.map_eq_some_iff.mpr ⟨name, named, rfl⟩⟩)

/-- No two segments of a chain that is well declared have the same parameter. -/
theorem eq_of_paramName? {chain : List (SegmentWith σ)} (declared : WellDeclared chain)
    {a b : SegmentWith σ} (inChainA : a ∈ chain) (inChainB : b ∈ chain) {name : String}
    (namedA : a.paramName? = some name) (namedB : b.paramName? = some name) : a = b := by
  have nodup : (ownersOf chain).names.Nodup := names_ownersOf chain ▸ declared.distinct
  have ownsA : (name, a) ∈ ownersOf chain :=
    List.mem_filterMap.mpr ⟨a, inChainA, Option.map_eq_some_iff.mpr ⟨name, namedA, rfl⟩⟩
  have ownsB : (name, b) ∈ ownersOf chain :=
    List.mem_filterMap.mpr ⟨b, inChainB, Option.map_eq_some_iff.mpr ⟨name, namedB, rfl⟩⟩
  have foundA := Bindings.lookup?_of_mem nodup ownsA
  rw [Bindings.lookup?_of_mem nodup ownsB] at foundA
  exact (Option.some.inj foundA).symm

/-- Only dynamic segments have parameters. -/
theorem filterMap_filter_isDynamic {α : Type} (f : SegmentWith σ → Option α)
    (dynamic : ∀ segment value, f segment = some value → segment.isDynamic = true)
    (chain : List (SegmentWith σ)) :
    (chain.filter (·.isDynamic)).filterMap f = chain.filterMap f := by
  rw [List.filterMap_filter]
  apply List.filterMap_congr
  intro segment _
  cases given : f segment with
  | none => simp
  | some value => simp [dynamic segment value given]

theorem ownersFrom_eq_ok_iff {owners result : Owners σ} {segments : List (SegmentWith σ)}
    (nodup : owners.names.Nodup) :
    ownersFrom owners segments = .ok result
      ↔ (∀ segment ∈ segments, segment.paramName?.isSome = true)
        ∧ (owners.names ++ paramNames segments).Nodup ∧ result = owners ++ ownersOf segments := by
  induction segments generalizing owners with
  | nil =>
    simp only [ownersFrom, List.not_mem_nil, false_implies, implies_true, paramNames, ownersOf,
      List.filterMap_nil, List.append_nil, nodup, true_and, Except.ok.injEq]
    exact eq_comm
  | cons segment rest ih =>
    rw [ownersFrom, List.forall_mem_cons]
    cases named : segment.paramName? with
    | none => simp
    | some name =>
      have split : paramNames (segment :: rest) = name :: paramNames rest := by
        simp [paramNames, named]
      have splitOwners : ownersOf (segment :: rest) = (name, segment) :: ownersOf rest := by
        simp [ownersOf, named]
      rw [split, splitOwners]
      cases found : owners.lookup? name with
      | some first =>
        have bound : name ∈ owners.names :=
          List.mem_map.mpr ⟨_, Bindings.mem_of_lookup? found, rfl⟩
        simp only [found, reduceCtorEq, false_iff, not_and]
        intro _ distinct
        exact absurd rfl ((List.nodup_append.mp distinct).2.2 name bound name List.mem_cons_self)
      | none =>
        have unbound : name ∉ owners.names := Bindings.lookup?_eq_none_iff.mp found
        have assigned := Bindings.assign_eq_append unbound segment
        have longer : (owners ++ [(name, segment)]).names = owners.names ++ [name] := by
          simp [Bindings.names]
        have stillNodup := Bindings.nodup_names_assign nodup name segment
        rw [assigned] at stillNodup
        simp only [found, Option.isSome_some, true_and, assigned]
        rw [ih stillNodup, longer, List.append_assoc, List.append_assoc, List.singleton_append,
          List.singleton_append]

/-- The check before an expansion succeeds exactly on chains that are well declared. -/
theorem ownersFrom_filter_eq_ok_iff {chain : List (SegmentWith σ)} {owners : Owners σ} :
    ownersFrom [] (chain.filter (·.isDynamic)) = .ok owners
      ↔ WellDeclared chain ∧ owners = ownersOf chain := by
  have names : paramNames (chain.filter (·.isDynamic)) = paramNames chain :=
    filterMap_filter_isDynamic _ (fun _ _ => SegmentWith.isDynamic_of_paramName?) chain
  have segments : ownersOf (chain.filter (·.isDynamic)) = ownersOf chain := by
    apply filterMap_filter_isDynamic
    intro segment _ given
    obtain ⟨_, named, _⟩ := Option.map_eq_some_iff.mp given
    exact SegmentWith.isDynamic_of_paramName? named
  have start : (Bindings.names ([] : Owners σ)).Nodup := List.nodup_nil
  rw [ownersFrom_eq_ok_iff start, names, segments]
  constructor
  · rintro ⟨named, distinct, rfl⟩
    exact ⟨⟨fun segment member dynamic => named segment (List.mem_filter.mpr ⟨member, dynamic⟩),
      distinct⟩, rfl⟩
  · rintro ⟨declared, rfl⟩
    refine ⟨?_, declared.distinct, rfl⟩
    intro segment member
    obtain ⟨inChain, dynamic⟩ := List.mem_filter.mp member
    exact declared.named segment inChain dynamic

end Expansion

end Prerender
