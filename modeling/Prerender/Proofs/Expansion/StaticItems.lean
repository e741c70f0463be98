import Prerender.Proofs.Expansion.Verdict

/-!
# Items of segments that are not dynamic

An item of a segment that is not dynamic is accepted entry by entry (`Owners.Accepts`), and extends
the record by all that its entries bind (`Owners.Extends`). The first entry at fault decides
(`StaticFault`). So its items decide a merge of such a segment (`mergeStatic_decidedBy`).
-/

namespace Prerender

variable {σ : Type}

/-- The owners accept an entry as a binding behind a record: the key names a parameter, the kind of
that allows the value, and the record does not bind it to another one. -/
structure Owners.Accepts (owners : Owners σ) (record : ParamRecord) (entry : Value × Value)
    (binding : String × ParamValue) : Prop where
  key : entry.1 = .text binding.1
  reads : ∃ owner param, owners.lookup? binding.1 = some owner ∧ owner.param? = some param
    ∧ Reading param.kind (some entry.2) binding.2
  agrees : ∀ resolved, record.lookup? binding.1 = some resolved → resolved = binding.2

/-- An item extends a record by what its entries bind. -/
def Owners.Extends (owners : Owners σ) (record : ParamRecord) (item : Item) (child : ParamRecord) :
    Prop :=
  ∃ entries bindings, item = .ok entries
    ∧ List.Forall₂ (owners.Accepts record) entries bindings ∧ child = record.extend bindings

namespace SegmentWith

variable {segment : SegmentWith σ} {owners : Owners σ} {record : ParamRecord}

theorem staticAdditionStep_of_unowned (suit : owners.Suit record) {key : Value}
    (unowned : owners.of? key = none) (value : Value) (additions : ParamRecord) :
    segment.staticAdditionStep record.toEntries owners additions (key, value)
      = .error (key.refusal fun shown =>
          segment.fault (.unownedKey segment.name shown owners.sorted.names)) := by
  unfold staticAdditionStep
  rw [suit.lookup?_toEntries unowned]
  cases key with
  | text name =>
    have missing : owners.lookup? name = none := unowned
    simp only [missing]
    rfl
  | _ => rfl

theorem staticAdditionStep_of_open {name : String} (opened : record.lookup? name = none)
    {owner : SegmentWith σ} (owned : owners.lookup? name = some owner) (value : Value)
    (additions : ParamRecord) :
    segment.staticAdditionStep record.toEntries owners additions (.text name, value)
      = (owner.accept (some value) segment).map (additions.assign name) := by
  unfold staticAdditionStep
  rw [ParamRecord.lookup?_toEntries, opened]
  simp only [Option.map_none, owned]
  cases owner.accept (some value) segment <;> rfl

theorem staticAdditionStep_of_bound {name : String} {resolved : ParamValue}
    (bound : record.lookup? name = some resolved) {owner : SegmentWith σ}
    (owned : owners.lookup? name = some owner) (value : Value) (additions : ParamRecord) :
    segment.staticAdditionStep record.toEntries owners additions (.text name, value)
      = match owner.accept (some value) segment with
        | .error raised => .error raised
        | .ok read =>
          if read = resolved then .ok additions
          else .error (.failure (.conflict owner.describe segment.describe
            (.contradiction segment.describe name read.shown resolved.shown owner.describe))) := by
  unfold staticAdditionStep checkRepeated
  rw [ParamRecord.lookup?_toEntries, bound]
  have isOwner : owners.of? (.text name) = some owner := owned
  simp only [Option.map_some, isOwner]
  cases owner.accept (some value) segment with
  | error raised => rfl
  | ok read =>
    simp only [Except.map, bind, Except.bind, Value.compare_comparable_toValue]
    by_cases same : read = resolved
    · simp only [decide_eq_true same, if_pos same]
      rfl
    · simp only [decide_eq_false same, if_neg same, Bool.false_eq_true, if_false,
        refuseContradiction, Owners.source, isOwner]
      simp only [bind, Except.bind, Value.plainText, Value.display_toValue, Value.refused,
        Value.refusal]

/-- Which bindings the owner of a parameter accepts. -/
theorem accepts_text_iff (segment : SegmentWith σ) {name : String} {owner : SegmentWith σ}
    (owned : owners.lookup? name = some owner) {value : Value} {binding : String × ParamValue} :
    owners.Accepts record (.text name, value) binding
      ↔ binding.1 = name ∧ owner.accept (some value) segment = .ok binding.2
        ∧ ∀ resolved, record.lookup? name = some resolved → resolved = binding.2 := by
  constructor
  · rintro ⟨key, ⟨other, otherParam, otherOwned, otherCarried, reading⟩, agrees⟩
    cases key
    cases owned.symm.trans otherOwned
    exact ⟨rfl, accept_eq_ok_iff.mpr ⟨otherParam, otherCarried, reading⟩, agrees⟩
  · rintro ⟨rfl, accepted, agrees⟩
    obtain ⟨other, same, reading⟩ := accept_eq_ok_iff.mp accepted
    exact ⟨rfl, ⟨owner, other, owned, same, reading⟩, agrees⟩

/-- An entry is gone past exactly if the owners accept it, and adds what the record does not bind
yet. -/
theorem staticAdditionStep_toEntries_eq_ok_iff (suit : owners.Suit record)
    {entry : Value × Value} {additions next : ParamRecord} :
    segment.staticAdditionStep record.toEntries owners additions entry = .ok next
      ↔ ∃ binding, owners.Accepts record entry binding
        ∧ next = if record.binds binding.1 then additions
          else additions.assign binding.1 binding.2 := by
  obtain ⟨key, value⟩ := entry
  cases isOwner : owners.of? key with
  | none =>
    rw [staticAdditionStep_of_unowned suit isOwner]
    refine iff_of_false (by rintro ⟨⟩) ?_
    rintro ⟨binding, ⟨rfl, ⟨owner, -, owned, -⟩, -⟩, -⟩
    cases isOwner.symm.trans owned
  | some owner =>
    obtain ⟨name, rfl, owned⟩ := Owners.exists_of_of? isOwner
    simp only [accepts_text_iff segment owned]
    cases found : record.lookup? name with
    | none =>
      have unbound : record.binds name = false := by rw [Bindings.binds, found, Option.isSome_none]
      rw [staticAdditionStep_of_open found owned, Except.map_eq_ok_iff]
      constructor
      · rintro ⟨read, accepted, rfl⟩
        exact ⟨(name, read), ⟨rfl, accepted, by rintro _ ⟨⟩⟩, by simp [unbound]⟩
      · rintro ⟨⟨_, read⟩, ⟨rfl, accepted, -⟩, rfl⟩
        exact ⟨read, accepted, by simp [unbound]⟩
    | some resolved =>
      have bound : record.binds name = true := by rw [Bindings.binds, found, Option.isSome_some]
      rw [staticAdditionStep_of_bound found owned]
      constructor
      · intro ok
        cases accepted : owner.accept (some value) segment with
        | error raised =>
          rw [accepted] at ok
          cases ok
        | ok read =>
          simp only [accepted] at ok
          split at ok
          · next same =>
            cases ok
            subst same
            exact ⟨(name, read), ⟨rfl, rfl, by rintro _ ⟨⟩; rfl⟩, by simp [bound]⟩
          · cases ok
      · rintro ⟨⟨_, read⟩, ⟨rfl, accepted, agrees⟩, rfl⟩
        obtain rfl := agrees resolved rfl
        simp [accepted, bound]

/-- What the owners accept stands in the record already, or is assigned behind it. -/
theorem assign_of_accepts {entry : Value × Value} {binding : String × ParamValue}
    (accepts : owners.Accepts record entry binding) (additions : ParamRecord) :
    record ++ (if record.binds binding.1 then additions else additions.assign binding.1 binding.2)
      = Bindings.assign (record ++ additions) binding.1 binding.2 := by
  cases found : record.lookup? binding.1 with
  | none =>
    rw [Bindings.assign_append found, Bindings.binds, found]
    rfl
  | some resolved =>
    have kept : Bindings.lookup? (record ++ additions) binding.1 = some binding.2 := by
      rw [Bindings.lookup?_append, found, Option.some_or, accepts.agrees resolved found]
    rw [Bindings.assign_eq_self kept, Bindings.binds, found]
    rfl

theorem exists_append_of_accepts {entries : Entries} {bindings : ParamRecord}
    (each : List.Forall₂ (owners.Accepts record) entries bindings) (additions : ParamRecord) :
    ∃ last, record ++ last = ParamRecord.extend (record ++ additions) bindings := by
  induction each generalizing additions with
  | nil => exact ⟨additions, rfl⟩
  | cons accepts _ ih =>
    obtain ⟨last, same⟩ := ih _
    rw [assign_of_accepts accepts] at same
    exact ⟨last, same⟩

/-- Entries are gone through exactly if the owners accept all of them. -/
theorem foldlM_staticAdditionStep_eq_ok_iff (suit : owners.Suit record) {entries : Entries}
    {additions last : ParamRecord} :
    entries.foldlM (segment.staticAdditionStep record.toEntries owners) additions = .ok last
      ↔ ∃ bindings, List.Forall₂ (owners.Accepts record) entries bindings
        ∧ record ++ last = ParamRecord.extend (record ++ additions) bindings := by
  induction entries generalizing additions with
  | nil =>
    simp only [List.foldlM_nil, List.forall₂_nil_left_iff, exists_eq_left, pure, Except.pure,
      Except.ok.injEq]
    exact ⟨fun same => same ▸ rfl, fun same => (List.append_cancel_left same).symm⟩
  | cons entry rest ih =>
    simp only [List.foldlM_cons, Except.bind_eq_ok_iff, ih,
      staticAdditionStep_toEntries_eq_ok_iff suit]
    constructor
    · rintro ⟨_, ⟨binding, accepts, rfl⟩, bindings, others, run⟩
      rw [assign_of_accepts accepts] at run
      exact ⟨binding :: bindings, .cons accepts others, run⟩
    · rintro ⟨_, each, run⟩
      cases each with
      | @cons _ binding _ bindings accepts others =>
        refine ⟨_, ⟨binding, accepts, rfl⟩, bindings, others, ?_⟩
        rw [assign_of_accepts accepts]
        exact run

theorem nodup_names_of_staticAddition {item : Item} {additions : ParamRecord}
    (ok : segment.staticAddition record.toEntries owners item = .ok additions) :
    additions.names.Nodup := by
  obtain ⟨entries, -, ok⟩ := staticAddition_eq_ok_iff.mp ok
  have start : (Bindings.names ([] : ParamRecord)).Nodup := List.nodup_nil
  refine Except.foldlM_preserves (P := fun additions => additions.names.Nodup) ?_ start ok
  intro before entry after nodup step
  rcases staticAdditionStep_eq_ok_iff.mp step with ⟨-, -, -, rfl⟩
    | ⟨name, -, value, -, -, -, -, rfl⟩
  · exact nodup
  · exact Bindings.nodup_names_assign nodup name value

/-- What an item of a segment that is not dynamic adds is what its entries bind. -/
theorem staticAddition_extends_iff (suit : owners.Suit record) {item : Item}
    {child : ParamRecord} :
    (∃ additions, segment.staticAddition record.toEntries owners item = .ok additions
        ∧ child = record.extend additions)
      ↔ owners.Extends record item child := by
  have behind : ∀ additions,
      segment.staticAddition record.toEntries owners item = .ok additions →
        record.extend additions = record ++ additions := fun additions ok =>
    ParamRecord.extend_eq_append (nodup_names_of_staticAddition ok)
      (staticAddition_opens ok).unbound
  have gone : ∀ additions, segment.staticAddition record.toEntries owners item = .ok additions
      ↔ ∃ entries bindings, item = .ok entries
        ∧ List.Forall₂ (owners.Accepts record) entries bindings
        ∧ record ++ additions = record.extend bindings := by
    intro additions
    simp only [staticAddition_eq_ok_iff, staticEntries, foldlM_staticAdditionStep_eq_ok_iff suit,
      List.append_nil, exists_and_left]
  constructor
  · rintro ⟨additions, ok, rfl⟩
    obtain ⟨entries, bindings, read, each, same⟩ := (gone additions).mp ok
    exact ⟨entries, bindings, read, each, (behind additions ok).trans same⟩
  · rintro ⟨entries, bindings, read, each, rfl⟩
    obtain ⟨additions, same⟩ := exists_append_of_accepts each []
    rw [List.append_nil] at same
    have ok := (gone additions).mpr ⟨entries, bindings, read, each, same⟩
    exact ⟨additions, ok, same.symm.trans (behind additions ok).symm⟩

end SegmentWith

end Prerender
