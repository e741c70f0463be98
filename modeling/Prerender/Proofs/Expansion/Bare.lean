import Mathlib.Data.List.Basic
import Prerender.Expansion

/-!
# What is asked of the owners of parameters

Owners are asked for their parameters and their descriptions only. So neither the check before an
expansion nor a run down its chain changes if the owners are taken without their generators and
settings (`ownersFrom_bare`, `expandChain_bare`).
-/

namespace Prerender

variable {σ : Type}

/-- A segment without its settings and its generator. -/
def SegmentWith.bare (segment : SegmentWith σ) : SegmentWith σ where
  name := segment.name
  role := segment.role
  sourcePath := segment.sourcePath

@[simp] theorem SegmentWith.paramName?_bare (segment : SegmentWith σ) :
    segment.bare.paramName? = segment.paramName? := rfl

/-! ### Owners -/

namespace Owners

/-- Owners without their settings and their generators. -/
def bare (owners : Owners σ) : Owners σ :=
  owners.map fun (name, owner) => (name, owner.bare)

@[simp] theorem names_bare (owners : Owners σ) : owners.bare.names = owners.names := by
  simp [bare, Bindings.names]

@[simp] theorem lookup?_bare (owners : Owners σ) (name : String) :
    owners.bare.lookup? name = (owners.lookup? name).map SegmentWith.bare := by
  induction owners with
  | nil => rfl
  | cons binding rest ih =>
    obtain ⟨bound, owner⟩ := binding
    rw [Bindings.lookup?]
    split
    · next same => simp [bare, Bindings.lookup?, same]
    · next differs =>
      rw [← ih]
      simp [bare, Bindings.lookup?, differs]

@[simp] theorem binds_bare (owners : Owners σ) (name : String) :
    owners.bare.binds name = owners.binds name := by
  simp [Bindings.binds]

@[simp] theorem of?_bare (owners : Owners σ) (key : Value) :
    owners.bare.of? key = (owners.of? key).map SegmentWith.bare := by
  cases key with
  | text name => exact lookup?_bare owners name
  | _ => rfl

@[simp] theorem source_bare (owners : Owners σ) (key : Value) :
    owners.bare.source key = owners.source key := by
  unfold source
  rw [of?_bare]
  cases owners.of? key <;> rfl

@[simp] theorem names_sorted_bare (owners : Owners σ) :
    owners.bare.sorted.names = owners.sorted.names := by
  have ordered : (owners.sorted).map (fun (name, owner) => (name, owner.bare))
      = owners.bare.sorted := List.map_mergeSort fun _ _ _ _ => rfl
  rw [← ordered]
  simp [Bindings.names]

theorem bare_assign (owners : Owners σ) (name : String) (owner : SegmentWith σ) :
    bare (owners.assign name owner) = owners.bare.assign name owner.bare := by
  induction owners with
  | nil => rfl
  | cons binding rest ih =>
    obtain ⟨bound, first⟩ := binding
    by_cases same : bound = name
    · simp [bare, Bindings.assign, same]
    · simp only [bare, Bindings.assign, same, if_false, List.map_cons] at ih ⊢
      rw [ih]

end Owners

/-! ### The merges -/

namespace SegmentWith

variable (segment : SegmentWith σ) (owners : Owners σ)

@[simp] theorem refuseKey_bare (key : Value) (fault : String → String → ConflictFault) :
    segment.refuseKey owners.bare key fault = segment.refuseKey owners key fault := by
  simp [refuseKey]

@[simp] theorem checkKey_bare (own : String) (record : Entries) (key : Value) :
    segment.checkKey own record owners.bare key = segment.checkKey own record owners key := by
  simp [checkKey]

@[simp] theorem checkKeys_bare (own : String) (record entries : Entries) :
    segment.checkKeys own record owners.bare entries
      = segment.checkKeys own record owners entries := by
  induction entries with
  | nil => rfl
  | cons entry rest ih => simp [checkKeys, ih]

theorem mergeDynamic_bare (record : ParamRecord) (items : List Item) :
    segment.mergeDynamic record items owners.bare = segment.mergeDynamic record items owners := by
  have addition (own : String) : segment.dynamicAddition own record.toEntries owners.bare
      = segment.dynamicAddition own record.toEntries owners := by
    funext item
    simp [dynamicAddition, dynamicEntries]
  simp [mergeDynamic, dynamicAdditions, addition]

@[simp] theorem checkRepeated_bare (key resolved value : Value) :
    segment.checkRepeated key resolved owners.bare value
      = segment.checkRepeated key resolved owners value := by
  unfold checkRepeated refuseContradiction
  rw [Owners.of?_bare, Owners.source_bare]
  cases owners.of? key <;> rfl

@[simp] theorem staticAdditionStep_bare (record : Entries) (additions : ParamRecord)
    (entry : Value × Value) :
    segment.staticAdditionStep record owners.bare additions entry
      = segment.staticAdditionStep record owners additions entry := by
  obtain ⟨key, value⟩ := entry
  unfold staticAdditionStep
  cases record.lookup? key with
  | some resolved => simp
  | none =>
    cases key with
    | text name =>
      simp only [Owners.lookup?_bare, Owners.names_sorted_bare]
      cases owners.lookup? name <;> rfl
    | _ => simp

theorem mergeStatic_bare (record : ParamRecord) (items : List Item) :
    segment.mergeStatic record items owners.bare = segment.mergeStatic record items owners := by
  have step : segment.staticAdditionStep record.toEntries owners.bare
      = segment.staticAdditionStep record.toEntries owners := by
    funext additions entry
    simp
  have addition : segment.staticAddition record.toEntries owners.bare
      = segment.staticAddition record.toEntries owners := by
    funext item
    simp [staticAddition, staticEntries, step]
  simp [mergeStatic, staticAdditions, addition]

@[simp] theorem merge_bare (record : ParamRecord) (items : List Item) :
    segment.merge record items owners.bare = segment.merge record items owners := by
  simp [merge, mergeDynamic_bare, mergeStatic_bare]

end SegmentWith

/-! ### Runs -/

namespace Expansion

@[simp] theorem expandRecord_bare (segment : SegmentWith σ) (owners : Owners σ)
    (record : ParamRecord) (calls : List Call) :
    expandRecord segment owners.bare record calls = expandRecord segment owners record calls := by
  simp [expandRecord]

@[simp] theorem expandFurther_bare (segment : SegmentWith σ) (owners : Owners σ)
    (records : List ParamRecord) (calls : List Call) :
    expandFurther segment owners.bare records calls
      = expandFurther segment owners records calls := by
  induction records generalizing calls with
  | nil => rfl
  | cons record rest ih => simp [expandFurther, ih]

@[simp] theorem expandLevel_bare (overrun : Nat → Nat) (segment : SegmentWith σ)
    (owners : Owners σ) (records : List ParamRecord) (calls : List Call) :
    expandLevel overrun segment owners.bare records calls
      = expandLevel overrun segment owners records calls := by
  induction records generalizing calls with
  | nil => rfl
  | cons record rest ih => simp [expandLevel, ih]

/-- A run down a chain is the same for owners without their generators and settings. -/
@[simp] theorem expandChain_bare (overrun : Nat → Nat) (owners : Owners σ)
    (chain : List (SegmentWith σ)) (records : List ParamRecord) (calls : List Call) :
    expandChain overrun owners.bare chain records calls
      = expandChain overrun owners chain records calls := by
  induction chain generalizing records calls with
  | nil => rfl
  | cons segment rest ih => simp [expandChain, ih]

@[simp] theorem pathsOf_bare (owners : Owners σ) (records : List ParamRecord) :
    pathsOf owners.bare records = pathsOf owners records := by
  have complete : isComplete owners.bare = isComplete owners := by
    funext record
    simp only [isComplete, Owners.names_bare]
    congr 2
    funext name
    exact Owners.binds_bare owners name
  simp [pathsOf, complete]

/-- The check before an expansion asks the dynamic segments for nothing but their parameters and
their descriptions. -/
theorem ownersFrom_bare (owners : Owners σ) (segments : List (SegmentWith σ)) :
    ownersFrom owners.bare (segments.map SegmentWith.bare)
      = (ownersFrom owners segments).map Owners.bare := by
  induction segments generalizing owners with
  | nil => rfl
  | cons segment rest ih =>
    rw [List.map_cons, ownersFrom, ownersFrom, SegmentWith.paramName?_bare]
    cases segment.paramName? with
    | none => rfl
    | some name =>
      have found := Owners.lookup?_bare owners name
      cases first : owners.lookup? name with
      | some owner =>
        rw [first, Option.map_some] at found
        simp only [found, first]
        rfl
      | none =>
        rw [first, Option.map_none] at found
        simp only [found, first]
        rw [← Owners.bare_assign, ih]

end Expansion

end Prerender
