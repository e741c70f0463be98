import Prerender.Expansion.Merge
import Prerender.Proofs.Except
import Prerender.Proofs.Param

/-!
# What a merge does

A merge treats each item on its own (`merge_cons`): `merge_eq_ok_iff` says that it succeeds if every
item adds something to the record (`Adds`), and that it then gives one record for each of them.

What an item adds depends on the kind of segment:

* an item of a dynamic segment has no key but the segment's own parameter, and adds that one as
  the segment accepts it (`dynamicEntries_eq_ok_iff`);
* an item of any other segment adds parameters that the record does not bind yet, each as its
  owner accepts it (`staticAddition_opens`).

`accept_eq_ok_iff` says which values are accepted, and as what (`Reading`).
-/

namespace Prerender

/-! ### Accepted values -/

/-- How a generated value, or the lack of one, is read as a parameter of some kind. -/
inductive Reading : ParamKind → Option Value → ParamValue → Prop where
  | text (content : String) : Reading .single (some (.text content)) (.text content)
  | parts {kind : ParamKind} {given : Value} {part : String} {parts : List String}
      (many : kind ≠ .single) (spelled : given.sequence?.bind Value.texts? = some (part :: parts)) :
      Reading kind (some given) (.parts (part :: parts))
  /-- An optional catch-all may be left out. -/
  | missing : Reading .optionalCatchAll none .absent
  | nothing : Reading .optionalCatchAll (some .none) .absent
  | empty {given : Value} (spelled : given.sequence?.bind Value.texts? = some []) :
      Reading .optionalCatchAll (some given) .absent

theorem Reading.fits {kind : ParamKind} {given : Option Value} {value : ParamValue}
    (reading : Reading kind given value) : value.Fits kind := by
  cases reading with
  | text content => exact trivial
  | parts many spelled =>
    cases kind with
    | single => exact absurd rfl many
    | catchAll => exact List.cons_ne_nil _ _
    | optionalCatchAll => exact List.cons_ne_nil _ _
  | missing => exact trivial
  | nothing => exact trivial
  | empty spelled => exact trivial

theorem Value.list_or_tuple_of_texts {given : Value} {texts : List String}
    (spelled : given.sequence?.bind Value.texts? = some texts) :
    ∃ items, given = .list items ∨ given = .tuple items := by
  obtain ⟨items, isSequence, -⟩ := Option.bind_eq_some_iff.mp spelled
  refine ⟨items, ?_⟩
  unfold Value.sequence? at isSequence
  split at isSequence
  · exact Or.inl (Option.some.inj isSequence ▸ rfl)
  · exact Or.inr (Option.some.inj isSequence ▸ rfl)
  · cases isSequence

theorem Value.equals_text_iff {key : Value} {name : String} :
    key.equals (.text name) = true ↔ key = .text name := by
  cases key <;> simp [Value.equals, Value.numeric?]

namespace SegmentWith

variable {σ : Type}

theorem accept_eq_ok_iff {segment origin : SegmentWith σ} {given : Option Value}
    {value : ParamValue} : segment.accept given origin = .ok value
      ↔ ∃ param, segment.param? = some param ∧ Reading param.kind given value := by
  unfold accept
  cases carried : segment.param? with
  | none => simp
  | some param =>
    obtain ⟨name, kind⟩ := param
    simp only [Option.some.injEq, exists_eq_left']
    constructor
    · intro ok
      split at ok
      · cases ok
        exact .missing
      · cases ok
        exact .nothing
      · cases ok
      · cases ok
        exact .text _
      · cases ok
      · next many =>
        split at ok
        · cases ok
          exact .parts many ‹_›
        · cases ok
          exact .empty ‹_›
        · cases ok
    · intro reading
      cases reading with
      | text content => rfl
      | parts many spelled =>
        obtain ⟨items, rfl | rfl⟩ := Value.list_or_tuple_of_texts spelled
        · cases kind with
          | single => exact absurd rfl many
          | catchAll => simp only [spelled]
          | optionalCatchAll => simp only [spelled]
        · cases kind with
          | single => exact absurd rfl many
          | catchAll => simp only [spelled]
          | optionalCatchAll => simp only [spelled]
      | missing => rfl
      | nothing => rfl
      | empty spelled =>
        obtain ⟨items, rfl | rfl⟩ := Value.list_or_tuple_of_texts spelled <;> simp only [spelled]

/-! ### Items of dynamic segments -/

theorem checkKey_eq_ok_iff {segment : SegmentWith σ} {own : String} {record : Entries}
    {owners : Owners σ} {key : Value} : segment.checkKey own record owners key = .ok ()
      ↔ key = .text own ∧ record.lookup? key = none := by
  unfold checkKey
  cases found : record.lookup? key with
  | some resolved => simp
  | none =>
    by_cases isOwn : key = .text own
    · simp [isOwn, Value.equals_text_iff]
    · have differs : key.equals (.text own) = false :=
        Bool.eq_false_iff.mpr (mt Value.equals_text_iff.mp isOwn)
      simp only [Option.isSome_none, Bool.false_eq_true, if_false, differs, isOwn, false_and]
      split <;> simp

theorem checkKeys_eq_ok_iff {segment : SegmentWith σ} {own : String} {record : Entries}
    {owners : Owners σ} {entries : Entries} : segment.checkKeys own record owners entries = .ok ()
      ↔ ∀ entry ∈ entries, entry.1 = .text own ∧ record.lookup? entry.1 = none := by
  induction entries with
  | nil => simp [checkKeys]
  | cons entry rest ih =>
    rw [checkKeys, Except.bind_eq_ok_iff, List.forall_mem_cons]
    constructor
    · rintro ⟨_, here, behind⟩
      exact ⟨checkKey_eq_ok_iff.mp here, ih.mp behind⟩
    · rintro ⟨here, behind⟩
      exact ⟨(), checkKey_eq_ok_iff.mpr here, ih.mpr behind⟩

/-- An item of a dynamic segment adds the segment's own parameter. It has no other key, and not
even that one if the record binds it. -/
theorem dynamicEntries_eq_ok_iff {segment : SegmentWith σ} {own : String} {record : Entries}
    {owners : Owners σ} {entries : Entries} {additions : ParamRecord} :
    segment.dynamicEntries own record owners entries = .ok additions
      ↔ (∀ entry ∈ entries, entry.1 = .text own ∧ record.lookup? entry.1 = none)
        ∧ ∃ value, segment.accept (entries.lookup? (.text own)) segment = .ok value
          ∧ additions = [(own, value)] := by
  rw [dynamicEntries, Except.bind_eq_ok_iff]
  constructor
  · rintro ⟨_, checked, ok⟩
    obtain ⟨value, accepted, same⟩ := Except.bind_eq_ok_iff.mp ok
    cases same
    exact ⟨checkKeys_eq_ok_iff.mp checked, value, accepted, rfl⟩
  · rintro ⟨checked, value, accepted, rfl⟩
    exact ⟨(), checkKeys_eq_ok_iff.mpr checked, Except.bind_eq_ok_iff.mpr ⟨value, accepted, rfl⟩⟩

theorem dynamicAddition_eq_ok_iff {segment : SegmentWith σ} {own : String} {record : Entries}
    {owners : Owners σ} {item : Item} {additions : ParamRecord} :
    segment.dynamicAddition own record owners item = .ok additions
      ↔ ∃ entries, item = .ok entries
        ∧ segment.dynamicEntries own record owners entries = .ok additions :=
  Except.bind_eq_ok_iff

/-! ### Items of other segments -/

/-- An entry either repeats what the record has, or adds a parameter that it does not bind. -/
theorem staticAdditionStep_eq_ok_iff {segment : SegmentWith σ} {record : Entries}
    {owners : Owners σ} {additions next : ParamRecord} {entry : Value × Value} :
    segment.staticAdditionStep record owners additions entry = .ok next
      ↔ (∃ resolved, record.lookup? entry.1 = some resolved
          ∧ segment.checkRepeated entry.1 resolved owners entry.2 = .ok () ∧ next = additions)
        ∨ ∃ name owner value, entry.1 = .text name ∧ record.lookup? (.text name) = none
          ∧ owners.lookup? name = some owner ∧ owner.accept (some entry.2) segment = .ok value
          ∧ next = additions.assign name value := by
  obtain ⟨key, given⟩ := entry
  unfold staticAdditionStep
  cases found : record.lookup? key with
  | some resolved =>
    simp only [Except.bind_eq_ok_iff, Option.some.injEq]
    constructor
    · rintro ⟨_, checked, same⟩
      cases same
      exact Or.inl ⟨resolved, rfl, checked, rfl⟩
    · rintro (⟨_, rfl, checked, rfl⟩ | ⟨name, _, _, rfl, unbound, _⟩)
      · exact ⟨(), checked, rfl⟩
      · rw [found] at unbound
        cases unbound
  | none =>
    simp only [reduceCtorEq, false_and, exists_false, false_or]
    constructor
    · intro ok
      split at ok
      · next name value same =>
        cases same
        split at ok
        · next owner owned =>
          obtain ⟨value, accepted, same⟩ := Except.bind_eq_ok_iff.mp ok
          cases same
          exact ⟨name, owner, value, rfl, found, owned, accepted, rfl⟩
        · cases ok
      · exact absurd ok (Value.refused_ne_ok _ _ _)
    · rintro ⟨name, owner, value, rfl, -, owned, accepted, rfl⟩
      simp only [owned]
      exact Except.bind_eq_ok_iff.mpr ⟨value, accepted, rfl⟩

/-- Additions open parameters: each of them is not bound by the record, and accepted by its
owner. -/
structure Opens (segment : SegmentWith σ) (record : ParamRecord) (owners : Owners σ)
    (additions : ParamRecord) : Prop where
  unbound : ∀ binding ∈ additions, record.lookup? binding.1 = none
  accepted : ∀ binding ∈ additions, ∃ owner given,
    owners.lookup? binding.1 = some owner ∧ owner.accept (some given) segment = .ok binding.2

theorem staticAddition_eq_ok_iff {segment : SegmentWith σ} {record : Entries} {owners : Owners σ}
    {item : Item} {additions : ParamRecord} :
    segment.staticAddition record owners item = .ok additions
      ↔ ∃ entries, item = .ok entries
        ∧ segment.staticEntries record owners entries = .ok additions :=
  Except.bind_eq_ok_iff

/-- What an item of a segment that is not dynamic adds are open parameters. -/
theorem staticAddition_opens {segment : SegmentWith σ} {record : ParamRecord} {owners : Owners σ}
    {item : Item} {additions : ParamRecord}
    (ok : segment.staticAddition record.toEntries owners item = .ok additions) :
    segment.Opens record owners additions := by
  obtain ⟨entries, -, ok⟩ := staticAddition_eq_ok_iff.mp ok
  have start : segment.Opens record owners [] :=
    ⟨fun _ member => absurd member List.not_mem_nil,
      fun _ member => absurd member List.not_mem_nil⟩
  refine Except.foldlM_preserves ?_ start ok
  intro before entry after opens step
  rcases staticAdditionStep_eq_ok_iff.mp step with
    ⟨_, _, _, rfl⟩ | ⟨name, owner, value, _, free, owned, accepted, rfl⟩
  · exact opens
  · rw [ParamRecord.lookup?_toEntries, Option.map_eq_none_iff] at free
    constructor
    · intro binding member
      rcases Bindings.eq_or_mem_of_mem_assign member with rfl | earlier
      · exact free
      · exact opens.unbound binding earlier
    · intro binding member
      rcases Bindings.eq_or_mem_of_mem_assign member with rfl | earlier
      · exact ⟨owner, entry.2, owned, accepted⟩
      · exact opens.accepted binding earlier

/-! ### Items one by one -/

/-- An item of a segment adds something to a record. -/
def Adds (segment : SegmentWith σ) (owners : Owners σ) (record : ParamRecord) (item : Item)
    (additions : ParamRecord) : Prop :=
  if segment.isDynamic then
    ∃ own, segment.paramName? = some own
      ∧ segment.dynamicAddition own record.toEntries owners item = .ok additions
  else segment.staticAddition record.toEntries owners item = .ok additions

theorem map_extend_mapM_eq_ok_iff {add : Item → Except Raised ParamRecord} {items : List Item}
    {record : ParamRecord} {merged : List ParamRecord} :
    (items.mapM add).map (·.map record.extend) = .ok merged
      ↔ List.Forall₂
          (fun item child => ∃ additions, add item = .ok additions
            ∧ child = record.extend additions)
          items merged := by
  rw [Except.map_eq_ok_iff]
  simp only [Except.mapM_eq_ok_iff]
  induction items generalizing merged with
  | nil =>
    simp only [List.forall₂_nil_left_iff, exists_eq_left]
    exact eq_comm
  | cons item rest ih =>
    simp only [List.forall₂_cons_left_iff]
    constructor
    · rintro ⟨_, ⟨additions, others, here, behind, rfl⟩, rfl⟩
      exact ⟨_, _, ⟨additions, here, rfl⟩, ih.mp ⟨others, behind, rfl⟩, rfl⟩
    · rintro ⟨_, children, ⟨additions, here, rfl⟩, behind, rfl⟩
      obtain ⟨others, later, rfl⟩ := ih.mpr behind
      exact ⟨additions :: others, ⟨additions, others, here, later, rfl⟩, rfl⟩

/-- A merge gives one record for each item: the old one, extended by what the item adds. -/
theorem merge_eq_ok_iff {segment : SegmentWith σ} {record : ParamRecord} {items : List Item}
    {owners : Owners σ} {merged : List ParamRecord} :
    segment.merge record items owners = .ok merged
      ↔ (segment.isDynamic = true → segment.paramName?.isSome = true)
        ∧ List.Forall₂
            (fun item child => ∃ additions, segment.Adds owners record item additions
              ∧ child = record.extend additions)
            items merged := by
  unfold merge Adds
  cases dynamic : segment.isDynamic with
  | false =>
    simp only [Bool.false_eq_true, if_false, false_implies, true_and]
    exact map_extend_mapM_eq_ok_iff
  | true =>
    simp only [if_true, true_implies, mergeDynamic, dynamicAdditions]
    cases named : segment.paramName? with
    | none => simp [Except.map]
    | some own =>
      simp only [Option.isSome_some, true_and, Option.some.injEq, exists_eq_left']
      exact map_extend_mapM_eq_ok_iff

theorem map_extend_mapM_cons {add : Item → Except Raised ParamRecord} {item : Item}
    {rest : List Item} {record : ParamRecord} :
    ((item :: rest).mapM add).map (·.map record.extend)
      = match ([item].mapM add).map (·.map record.extend) with
        | .error failure => .error failure
        | .ok here => ((rest.mapM add).map (·.map record.extend)).map (here ++ ·) := by
  rw [List.mapM_cons, List.mapM_cons, List.mapM_nil]
  cases add item with
  | error failure => rfl
  | ok additions => cases rest.mapM add <;> rfl

theorem merge_nil {segment : SegmentWith σ} {record : ParamRecord} {owners : Owners σ}
    (named : segment.isDynamic = true → segment.paramName?.isSome = true) :
    segment.merge record [] owners = .ok [] :=
  merge_eq_ok_iff.mpr ⟨named, .nil⟩

/-- Items are merged one after the other, up to the first one that fails. -/
theorem merge_cons {segment : SegmentWith σ} {record : ParamRecord} {owners : Owners σ}
    (named : segment.isDynamic = true → segment.paramName?.isSome = true) (item : Item)
    (rest : List Item) :
    segment.merge record (item :: rest) owners
      = match segment.merge record [item] owners with
        | .error failure => .error failure
        | .ok here => (segment.merge record rest owners).map (here ++ ·) := by
  unfold merge
  split
  · next dynamic =>
    obtain ⟨own, isOwn⟩ := Option.isSome_iff_exists.mp (named dynamic)
    simp only [mergeDynamic, dynamicAdditions, isOwn]
    exact map_extend_mapM_cons
  · exact map_extend_mapM_cons

end SegmentWith

/-! ### Records with additions -/

namespace ParamRecord

theorem nodup_names_extend {record additions : ParamRecord} (nodup : record.names.Nodup) :
    (record.extend additions).names.Nodup := by
  induction additions generalizing record with
  | nil => exact nodup
  | cons addition rest ih =>
    exact ih (Bindings.nodup_names_assign nodup addition.1 addition.2)

theorem mem_or_mem_of_mem_extend {record additions : ParamRecord} {binding : String × ParamValue}
    (member : binding ∈ record.extend additions) : binding ∈ record ∨ binding ∈ additions := by
  induction additions generalizing record with
  | nil => exact Or.inl member
  | cons addition rest ih =>
    rcases ih member with assigned | later
    · rcases Bindings.eq_or_mem_of_mem_assign assigned with here | earlier
      · exact Or.inr (here ▸ List.mem_cons_self)
      · exact Or.inl earlier
    · exact Or.inr (List.mem_cons_of_mem addition later)

/-- A name that is not among the additions keeps its value. -/
theorem lookup?_extend_of_not_mem {record additions : ParamRecord} {name : String}
    (absent : name ∉ additions.names) :
    (record.extend additions).lookup? name = record.lookup? name := by
  induction additions generalizing record with
  | nil => rfl
  | cons addition rest ih =>
    rw [Bindings.names_cons, List.mem_cons, not_or] at absent
    refine (ih absent.2).trans ?_
    rw [Bindings.lookup?_assign, if_neg (Ne.symm absent.1)]

end ParamRecord

end Prerender
