import Prerender.Proofs.Expansion.Acceptance
import Prerender.Proofs.Expansion.Shape

/-!
# Items spelled differently

A generator may spell one item in many ways: the keys in any order, a list or a tuple for the parts
of a path, and nothing or no parts for an optional catch-all. Entries in plain form
(`Entries.plain`) have one spelling for each value, so that two items say the same if their plain
forms are permutations of each other (`Entries.Respells`, `Item.Respells`). Whatever one of them can
be merged into, the other one can, and records that are the same map (`ParamRecord.SameMap`) become
such records again (`merge_respelled`).
-/

namespace Prerender

variable {σ : Type}

open Expansion

/-! ### Values -/

/-- A value in plain form: a list counts as a tuple, and no parts count as nothing where a parameter
is optional. -/
def Value.plain (optional : Bool) (value : Value) : Value :=
  match value.comparable with
  | .tuple [] => if optional then .none else .tuple []
  | value => value

theorem reading_comparable_iff {kind : ParamKind} (given : Value) {value : ParamValue} :
    Reading kind (some given.comparable) value ↔ Reading kind (some given) value := by
  cases given with
  | list items =>
    constructor
    · intro reading
      cases reading with
      | parts many spelled => exact .parts many spelled
      | empty spelled => exact .empty spelled
    · intro reading
      cases reading with
      | parts many spelled => exact .parts many spelled
      | empty spelled => exact .empty spelled
  | _ => rfl

theorem reading_nothing_iff {value : ParamValue} :
    Reading .optionalCatchAll (some .none) value
      ↔ Reading .optionalCatchAll (some (.tuple [])) value := by
  constructor
  · intro reading
    cases reading with
    | parts _ spelled => cases spelled
    | nothing => exact .empty rfl
    | empty spelled => cases spelled
  · intro reading
    cases reading with
    | parts _ spelled => cases spelled
    | empty _ => exact .nothing

/-- Values are read alike in plain form. -/
theorem reading_plain_iff {kind : ParamKind} {optional : Bool}
    (exact : optional = true ↔ kind = .optionalCatchAll) (given : Option Value)
    {value : ParamValue} :
    Reading kind (given.map (Value.plain optional)) value ↔ Reading kind given value := by
  cases given with
  | none => rfl
  | some given =>
    rw [Option.map_some, ← reading_comparable_iff given, Value.plain]
    split
    · next empty =>
      rw [empty]
      split
      · next isOptional =>
        obtain rfl := exact.mp isOptional
        exact reading_nothing_iff
      · rfl
    · rfl

/-! ### Items -/

/-- Whether a key names an optional catch-all of a chain. -/
def Expansion.mayBeNothing (chain : List (SegmentWith σ)) : Value → Bool
  | .text name => chain.any fun segment => segment.param? = some ⟨name, .optionalCatchAll⟩
  | _ => false

/-- Entries with their values in plain form. -/
def Entries.plain (chain : List (SegmentWith σ)) (entries : Entries) : Entries :=
  entries.map fun entry => (entry.1, entry.2.plain (mayBeNothing chain entry.1))

/-- Entries of distinct keys say the same, in whatever order and however the values are spelled. -/
structure Entries.Respells (chain : List (SegmentWith σ)) (entries other : Entries) : Prop where
  distinct : entries.named.names.Nodup
  same : (entries.plain chain).Perm (other.plain chain)

/-- Two items say the same, or neither of them can be read. -/
inductive Item.Respells (chain : List (SegmentWith σ)) : Item → Item → Prop where
  | read {entries other : Entries} (respells : entries.Respells chain other) :
    Respells chain (.ok entries) (.ok other)
  | unread (raised other : Raised) : Respells chain (.error raised) (.error other)

namespace Entries

theorem mem_named_iff {entries : Entries} {name : String} {value : Value} :
    (name, value) ∈ entries.named ↔ (.text name, value) ∈ entries := by
  rw [named, List.mem_filterMap]
  constructor
  · rintro ⟨entry, member, isName⟩
    split at isName
    · cases isName
      exact member
    · cases isName
  · intro member
    exact ⟨_, member, rfl⟩

theorem lookup?_named (entries : Entries) (name : String) :
    entries.named.lookup? name = entries.lookup? (.text name) := by
  induction entries with
  | nil => rfl
  | cons entry rest ih =>
    obtain ⟨key, value⟩ := entry
    rw [lookup?, ← ih]
    by_cases isText : ∃ text, key = .text text
    · obtain ⟨text, rfl⟩ := isText
      simp only [Value.equals_text_iff, Value.text.injEq]
      rfl
    · have other : ¬key.equals (.text name) = true := fun same =>
        isText ⟨name, Value.equals_text_iff.mp same⟩
      have skipped : named ((key, value) :: rest) = named rest := by
        cases key with
        | text text => exact absurd ⟨text, rfl⟩ isText
        | _ => rfl
      rw [if_neg other, skipped]

/-- No name standing twice among the keys, an entry is what is found under its name. -/
theorem lookup?_text_eq_some_iff {entries : Entries} (distinct : entries.named.names.Nodup)
    {name : String} {value : Value} :
    entries.lookup? (.text name) = some value ↔ (.text name, value) ∈ entries := by
  rw [← lookup?_named, ← Bindings.mem_iff_lookup? distinct, mem_named_iff]

variable {chain : List (SegmentWith σ)} {entries other : Entries}

/-- Plain form leaves the keys alone. -/
theorem names_named_plain (chain : List (SegmentWith σ)) (entries : Entries) :
    (entries.plain chain).named.names = entries.named.names := by
  rw [named, named, Bindings.names, Bindings.names, List.map_filterMap,
    List.map_filterMap, plain, List.filterMap_map]
  apply List.filterMap_congr
  rintro ⟨key, value⟩ _
  cases key <;> rfl

theorem Respells.distinct_other (respells : entries.Respells chain other) :
    other.named.names.Nodup := by
  have same : (entries.plain chain).named.names.Perm (other.plain chain).named.names :=
    (respells.same.filterMap _).map _
  rw [names_named_plain, names_named_plain] at same
  exact same.nodup_iff.mp respells.distinct

theorem Respells.symm (respells : entries.Respells chain other) : other.Respells chain entries :=
  ⟨respells.distinct_other, respells.same.symm⟩

theorem mem_plain_iff {key value : Value} :
    (key, value) ∈ entries.plain chain
      ↔ ∃ given, (key, given) ∈ entries ∧ given.plain (mayBeNothing chain key) = value := by
  rw [plain, List.mem_map]
  constructor
  · rintro ⟨⟨_, given⟩, member, same⟩
    cases same
    exact ⟨given, member, rfl⟩
  · rintro ⟨given, member, rfl⟩
    exact ⟨_, member, rfl⟩

/-- Both have the same keys. -/
theorem Respells.exists_entry (respells : entries.Respells chain other) {key value : Value}
    (member : (key, value) ∈ other) : ∃ given, (key, given) ∈ entries := by
  have plainly : (key, value.plain (mayBeNothing chain key)) ∈ other.plain chain :=
    mem_plain_iff.mpr ⟨value, member, rfl⟩
  rw [← respells.same.mem_iff, mem_plain_iff] at plainly
  obtain ⟨given, inEntries, -⟩ := plainly
  exact ⟨given, inEntries⟩

/-- Under a name, both have the same value in plain form, or none. -/
theorem Respells.lookup?_plain (respells : entries.Respells chain other) (name : String) :
    (entries.lookup? (.text name)).map (Value.plain (mayBeNothing chain (.text name)))
      = (other.lookup? (.text name)).map (Value.plain (mayBeNothing chain (.text name))) := by
  apply Option.ext
  intro value
  simp only [Option.map_eq_some_iff, lookup?_text_eq_some_iff respells.distinct,
    lookup?_text_eq_some_iff respells.distinct_other]
  rw [← mem_plain_iff, ← mem_plain_iff, respells.same.mem_iff]

end Entries

theorem Item.Respells.symm {chain : List (SegmentWith σ)} {item other : Item}
    (respells : item.Respells chain other) : other.Respells chain item := by
  cases respells with
  | read respells => exact .read respells.symm
  | unread raised other => exact .unread other raised

/-! ### Maps -/

theorem Bindings.lookup?_perm {α : Type} {bindings others : Bindings α}
    (nodup : bindings.names.Nodup) (perm : bindings.Perm others) (name : String) :
    bindings.lookup? name = others.lookup? name := by
  have nodupOthers : others.names.Nodup := (perm.map _).nodup_iff.mp nodup
  apply Option.ext
  intro value
  rw [← Bindings.mem_iff_lookup? nodup, ← Bindings.mem_iff_lookup? nodupOthers, perm.mem_iff]

namespace ParamRecord

/-- Two records are the same map: they bind the same names to the same values, and each name
once. -/
structure SameMap (record other : ParamRecord) : Prop where
  nodup : record.names.Nodup
  nodup_other : other.names.Nodup
  lookup? : ∀ name, record.lookup? name = other.lookup? name

variable {record other : ParamRecord}

theorem SameMap.refl (nodup : record.names.Nodup) : record.SameMap record :=
  ⟨nodup, nodup, fun _ => rfl⟩

theorem SameMap.symm (same : record.SameMap other) : other.SameMap record :=
  ⟨same.nodup_other, same.nodup, fun name => (same.lookup? name).symm⟩

/-- User code finds the same in both. -/
theorem SameMap.lookup?_toEntries (same : record.SameMap other) (name : String) :
    record.toEntries.lookup? (.text name) = other.toEntries.lookup? (.text name) := by
  rw [ParamRecord.lookup?_toEntries, ParamRecord.lookup?_toEntries, same.lookup?]

/-- A name has the value that is added under it, or else the one that it had. -/
theorem lookup?_extend {additions : ParamRecord} (nodup : additions.names.Nodup)
    (record : ParamRecord) (name : String) :
    (record.extend additions).lookup? name = (additions.lookup? name).or (record.lookup? name) := by
  induction additions generalizing record with
  | nil => rfl
  | cons addition rest ih =>
    obtain ⟨added, value⟩ := addition
    rw [Bindings.names_cons, List.nodup_cons] at nodup
    refine (ih nodup.2 _).trans ?_
    rw [Bindings.lookup?_assign, Bindings.lookup?]
    split
    · next same =>
      have once : Bindings.lookup? rest name = none :=
        Bindings.lookup?_eq_none_iff.mpr (same ▸ nodup.1)
      rw [once]
      rfl
    · rfl

theorem SameMap.extend (same : record.SameMap other) {additions others : ParamRecord}
    (nodup : additions.names.Nodup) (perm : additions.Perm others) :
    (record.extend additions).SameMap (other.extend others) := by
  have nodupOthers : others.names.Nodup := (perm.map _).nodup_iff.mp nodup
  refine ⟨nodup_names_extend same.nodup, nodup_names_extend same.nodup_other, ?_⟩
  intro name
  rw [lookup?_extend nodup, lookup?_extend nodupOthers, Bindings.lookup?_perm nodup perm,
    same.lookup?]

end ParamRecord

namespace Expansion

variable {chain : List (SegmentWith σ)} {record other : ParamRecord}

/-- What shapes a record shapes every one that is the same map. -/
theorem ShapedBy.of_sameMap (shaped : ShapedBy chain record) (same : record.SameMap other) :
    ShapedBy chain other := by
  refine ⟨same.nodup_other, ?_⟩
  intro name value member
  have found := Bindings.lookup?_of_mem same.nodup_other member
  rw [← same.lookup?] at found
  exact shaped.shaped name value (Bindings.mem_of_lookup? found)

/-- Records of the shape that a chain asks for suit its owners. -/
theorem ShapedBy.suit (shaped : ShapedBy chain record) (declared : WellDeclared chain) :
    (ownersOf chain).Suit record := by
  intro name value found
  obtain ⟨owner, inChain, param, carried, rfl, fits⟩ :=
    shaped.shaped name value (Bindings.mem_of_lookup? found)
  exact ⟨owner, param, lookup?_ownersOf declared inChain
    (SegmentWith.paramName?_of_param? carried), carried, fits⟩

/-! ### Merging -/

theorem mayBeNothing_iff (declared : WellDeclared chain) {owner : SegmentWith σ}
    (inChain : owner ∈ chain) {param : SegmentParam} (carried : owner.param? = some param) :
    mayBeNothing chain (.text param.name) = true ↔ param.kind = .optionalCatchAll := by
  rw [mayBeNothing, List.any_eq_true]
  simp only [decide_eq_true_eq]
  constructor
  · rintro ⟨optional, optionalInChain, isOptional⟩
    have named := SegmentWith.paramName?_of_param? isOptional
    obtain rfl := eq_of_paramName? declared inChain optionalInChain
      (SegmentWith.paramName?_of_param? carried) named
    exact congrArg SegmentParam.kind (Option.some.inj (carried.symm.trans isOptional))
  · intro isOptional
    exact ⟨owner, inChain, carried.trans (by rw [← isOptional])⟩

/-- Behind records that are the same map, the owners accept the same bindings, and entries in plain
form as well as others. -/
theorem accepts_plain_iff (declared : WellDeclared chain) (same : record.SameMap other)
    {entry : Value × Value} {binding : String × ParamValue} :
    (ownersOf chain).Accepts record
        (entry.1, entry.2.plain (mayBeNothing chain entry.1)) binding
      ↔ (ownersOf chain).Accepts other entry binding := by
  have read (owner : SegmentWith σ) (param : SegmentParam)
      (owned : (ownersOf chain).lookup? binding.1 = some owner)
      (carried : owner.param? = some param) :
      Reading param.kind (some (entry.2.plain (mayBeNothing chain (.text binding.1)))) binding.2
        ↔ Reading param.kind (some entry.2) binding.2 := by
    obtain ⟨inChain, named⟩ := mem_of_lookup?_ownersOf owned
    have isName := SegmentWith.name_of_param? carried named
    exact reading_plain_iff (isName ▸ mayBeNothing_iff declared inChain carried) (some entry.2)
  constructor
  · rintro ⟨key, ⟨owner, param, owned, carried, reading⟩, agrees⟩
    rw [key] at reading
    refine ⟨key, ⟨owner, param, owned, carried, (read owner param owned carried).mp reading⟩, ?_⟩
    exact same.lookup? binding.1 ▸ agrees
  · rintro ⟨key, ⟨owner, param, owned, carried, reading⟩, agrees⟩
    refine ⟨key, ⟨owner, param, owned, carried, ?_⟩, (same.lookup? binding.1).symm ▸ agrees⟩
    rw [key]
    exact (read owner param owned carried).mpr reading

theorem names_of_accepts {owners : Owners σ} {entries : Entries} {bindings : ParamRecord}
    (each : List.Forall₂ (owners.Accepts record) entries bindings) :
    bindings.names = entries.named.names := by
  induction each with
  | nil => rfl
  | @cons entry binding _ _ accepts _ ih =>
    obtain ⟨key, value⟩ := entry
    obtain rfl : key = .text binding.1 := accepts.key
    rw [Bindings.names_cons, ih]
    rfl

/-- Items that say the same extend records that are the same map to such records again. -/
theorem extends_respelled (declared : WellDeclared chain) (same : record.SameMap other)
    {item respelled : Item} (respells : item.Respells chain respelled) {child : ParamRecord}
    (extends' : (ownersOf chain).Extends record item child) :
    ∃ otherChild, (ownersOf chain).Extends other respelled otherChild
      ∧ child.SameMap otherChild := by
  obtain ⟨entries, bindings, rfl, each, rfl⟩ := extends'
  cases respells with
  | @read _ respelled respells =>
  -- The plain forms are permuted, so what the owners accept for them is as well.
  have plainly : List.Forall₂ ((ownersOf chain).Accepts other) (entries.plain chain) bindings :=
    List.forall₂_map_left_iff.mpr (each.imp fun _ _ => (accepts_plain_iff declared same.symm).mpr)
  obtain ⟨others, eachPlain, perm⟩ := List.perm_comp_forall₂ respells.same.symm plainly
  have eachOther : List.Forall₂ ((ownersOf chain).Accepts other) respelled others :=
    (List.forall₂_map_left_iff.mp eachPlain).imp fun _ _ =>
      (accepts_plain_iff declared (.refl same.nodup_other)).mp
  have distinct : (Bindings.names bindings).Nodup := names_of_accepts each ▸ respells.distinct
  exact ⟨_, ⟨respelled, others, rfl, eachOther, rfl⟩, same.extend distinct perm.symm⟩

theorem dynamicAddition_respelled (declared : WellDeclared chain) {segment : SegmentWith σ}
    (inChain : segment ∈ chain) (same : record.SameMap other) {item respelled : Item}
    (respells : item.Respells chain respelled) {own : String}
    (named : segment.paramName? = some own) {additions : ParamRecord}
    (adds : segment.dynamicAddition own record.toEntries (ownersOf chain) item = .ok additions) :
    segment.dynamicAddition own other.toEntries (ownersOf chain) respelled = .ok additions
      ∧ additions.names.Nodup := by
  obtain ⟨entries, rfl, adds⟩ := SegmentWith.dynamicAddition_eq_ok_iff.mp adds
  obtain ⟨keys, value, accepted, rfl⟩ := SegmentWith.dynamicEntries_eq_ok_iff.mp adds
  obtain ⟨param, carried, reading⟩ := SegmentWith.accept_eq_ok_iff.mp accepted
  obtain rfl := SegmentWith.name_of_param? carried named
  have optional := mayBeNothing_iff declared inChain carried
  cases respells with
  | @read _ respelled respells =>
  rw [← reading_plain_iff optional, respells.lookup?_plain, reading_plain_iff optional] at reading
  refine ⟨SegmentWith.dynamicAddition_eq_ok_iff.mpr ⟨respelled, rfl,
    SegmentWith.dynamicEntries_eq_ok_iff.mpr ⟨?_, value, ?_, rfl⟩⟩, List.nodup_singleton _⟩
  · rintro ⟨key, respelling⟩ member
    obtain ⟨given, inEntries⟩ := respells.exists_entry member
    obtain ⟨rfl, unbound⟩ := keys (key, given) inEntries
    exact ⟨rfl, (same.lookup?_toEntries param.name).symm.trans unbound⟩
  · exact SegmentWith.accept_eq_ok_iff.mpr ⟨param, carried, reading⟩

/-- Items that say the same, added to records that are the same map, leave these the same map. -/
theorem adds_respelled (declared : WellDeclared chain) {segment : SegmentWith σ}
    (inChain : segment ∈ chain) (shaped : ShapedBy chain record) (same : record.SameMap other)
    {item respelled : Item} (respells : item.Respells chain respelled) {child : ParamRecord}
    (gives : ∃ additions, segment.Adds (ownersOf chain) record item additions
      ∧ child = record.extend additions) :
    ∃ otherChild, (∃ additions, segment.Adds (ownersOf chain) other respelled additions
        ∧ otherChild = other.extend additions)
      ∧ child.SameMap otherChild := by
  unfold SegmentWith.Adds at gives ⊢
  cases dynamic : segment.isDynamic with
  | true =>
    simp only [dynamic, if_true] at gives ⊢
    obtain ⟨additions, ⟨own, named, adds⟩, rfl⟩ := gives
    obtain ⟨addsOther, nodup⟩ :=
      dynamicAddition_respelled declared inChain same respells named adds
    exact ⟨_, ⟨additions, ⟨own, named, addsOther⟩, rfl⟩, same.extend nodup (.refl additions)⟩
  | false =>
    have suit := shaped.suit declared
    have suitOther := (shaped.of_sameMap same).suit declared
    simp only [dynamic, Bool.false_eq_true, if_false,
      SegmentWith.staticAddition_extends_iff suit,
      SegmentWith.staticAddition_extends_iff suitOther] at gives ⊢
    exact extends_respelled declared same respells gives

/-- Items that say the same are merged alike into records that are the same map. -/
theorem merge_respelled (declared : WellDeclared chain) {segment : SegmentWith σ}
    (inChain : segment ∈ chain) (shaped : ShapedBy chain record) (same : record.SameMap other)
    {items respelled : List Item}
    (respells : List.Forall₂ (Item.Respells chain) items respelled) {merged : List ParamRecord}
    (ok : segment.merge record items (ownersOf chain) = .ok merged) :
    ∃ otherMerged, segment.merge other respelled (ownersOf chain) = .ok otherMerged
      ∧ List.Forall₂ ParamRecord.SameMap merged otherMerged := by
  obtain ⟨named, each⟩ := SegmentWith.merge_eq_ok_iff.mp ok
  obtain ⟨otherMerged, eachOther, sameMerged⟩ := exists_forall₂_of_forall₂ respells each
    fun _ _ _ respells gives => adds_respelled declared inChain shaped same respells gives
  exact ⟨otherMerged, SegmentWith.merge_eq_ok_iff.mpr ⟨named, eachOther⟩, sameMerged⟩

end Expansion

/-! ### Segments of one role -/

namespace SegmentWith

variable {segment moved : SegmentWith σ}

theorem isDynamic_of_role (sameRole : moved.role = segment.role) :
    moved.isDynamic = segment.isDynamic := by
  rw [isDynamic, isDynamic, sameRole]

theorem param?_of_role (sameRole : moved.role = segment.role) : moved.param? = segment.param? := by
  rw [param?, param?, sameRole]

theorem paramName?_of_role (sameRole : moved.role = segment.role) :
    moved.paramName? = segment.paramName? := by
  rw [paramName?, paramName?, param?_of_role sameRole]

/-- Segments of one role merge alike, up to failures. -/
theorem merge_eq_ok_iff_of_role {owners : Owners σ} {record : ParamRecord}
    (suit : owners.Suit record) (sameRole : moved.role = segment.role) {items : List Item}
    {merged : List ParamRecord} :
    moved.merge record items owners = .ok merged
      ↔ segment.merge record items owners = .ok merged := by
  rw [merge_eq_ok_iff, merge_eq_ok_iff, isDynamic_of_role sameRole, paramName?_of_role sameRole]
  refine and_congr_right fun _ => forall₂_congr_of_mem ?_
  intro item _ child
  unfold Adds
  rw [isDynamic_of_role sameRole, paramName?_of_role sameRole]
  cases segment.isDynamic with
  | true =>
    simp only [if_true, dynamicAddition_eq_ok_iff, dynamicEntries_eq_ok_iff, accept_eq_ok_iff,
      param?_of_role sameRole]
  | false => simp only [Bool.false_eq_true, if_false, staticAddition_extends_iff suit]

end SegmentWith

end Prerender
