import Prerender.Expansion.Generator

/-!
# Merging generated items into a record

The items that a generator returns for a record of parameters extend that record, one new record
for each item. What an item adds to the record depends on the segment:

* a dynamic segment binds its own parameter and no other (`dynamicAdditions`);
* a segment that is not dynamic may bind any parameter of the chain that is still open, and may
  repeat values that the record has already (`staticAdditions`).

Both look at the record as user code sees it, so that they can be asked about records that hold
anything. `mergeDynamic` and `mergeStatic` extend a record of parameters by what the items add.

`Owners` are the dynamic segments of a chain under the names of their parameters.
-/

namespace Prerender

/-- A record with some bindings added to it. A name that it binds already gets the new value. -/
def ParamRecord.extend (record additions : ParamRecord) : ParamRecord :=
  additions.foldl (fun record addition => Bindings.assign record addition.1 addition.2) record

/-- What a mapping holds, with some parameters added to it. -/
def Entries.extend (entries : Entries) (additions : ParamRecord) : Entries :=
  additions.foldl
    (fun entries addition => Entries.insert entries (.text addition.1) addition.2.toValue) entries

/-- A value as it is compared with one that was resolved before: lists count as tuples. -/
def Value.comparable : Value → Value
  | .list items => .tuple items
  | value => value

/-- The dynamic segments of a chain under the names of their parameters. -/
abbrev Owners (σ : Type) := Bindings (SegmentWith σ)

/-- The segment that owns the parameter a key names. -/
def Owners.of? {σ : Type} (owners : Owners σ) : Value → Option (SegmentWith σ)
  | .text name => owners.lookup? name
  | _ => none

/-- How messages name the source of a parameter: the segment that owns it, or else its key. -/
def Owners.source {σ : Type} (owners : Owners σ) (key : Value) : Except Raised String :=
  match owners.of? key with
  | some owner => .ok owner.describe
  | none => key.display

namespace SegmentWith

variable {σ : Type}

/-- Refuses a key of an item because of another source of the parameter that it names. -/
def refuseKey (segment : SegmentWith σ) (owners : Owners σ) (key : Value)
    (fault : String → String → ConflictFault) : Except Raised Unit := do
  let source ← owners.source key
  key.refused fun shown => .conflict source segment.describe (fault shown source)

@[simp] theorem refuseKey_ne_ok (segment : SegmentWith σ) (owners : Owners σ) (key : Value)
    (fault : String → String → ConflictFault) (result : Unit) :
    segment.refuseKey owners key fault ≠ .ok result := by
  unfold refuseKey
  cases owners.source key <;> nofun

/-- Checks a key of an item generated by a dynamic segment. It has to be the segment's own
parameter, and the record must not hold it yet. -/
def checkKey (segment : SegmentWith σ) (own : String) (record : Entries) (owners : Owners σ)
    (key : Value) : Except Raised Unit :=
  if (record.lookup? key).isSome then
    segment.refuseKey owners key (.alreadyResolved segment.describe)
  else if key.equals (.text own) then .ok ()
  else if (owners.of? key).isSome then
    segment.refuseKey owners key (.foreignParam segment.describe)
  else key.refused fun shown => segment.fault (.unknownKey segment.name shown own)

/-- Checks all keys of an item, in their order. -/
def checkKeys (segment : SegmentWith σ) (own : String) (record : Entries) (owners : Owners σ) :
    Entries → Except Raised Unit
  | [] => .ok ()
  | (key, _) :: rest => do
    segment.checkKey own record owners key
    segment.checkKeys own record owners rest

/-- What the entries of an item of a dynamic segment add to a record. -/
def dynamicEntries (segment : SegmentWith σ) (own : String) (record : Entries)
    (owners : Owners σ) (entries : Entries) : Except Raised ParamRecord := do
  segment.checkKeys own record owners entries
  let value ← segment.accept (entries.lookup? (.text own)) segment
  return [(own, value)]

/-- What an item of a dynamic segment adds to a record. -/
def dynamicAddition (segment : SegmentWith σ) (own : String) (record : Entries)
    (owners : Owners σ) (item : Item) : Except Raised ParamRecord := do
  let entries ← item
  segment.dynamicEntries own record owners entries

/-- What the items of a dynamic segment add to a record, each to a copy of its own. -/
def dynamicAdditions (segment : SegmentWith σ) (record : Entries) (items : List Item)
    (owners : Owners σ) : Except Raised (List ParamRecord) :=
  match segment.paramName? with
  | none => .error (.failure (.structural (.unnamedParam segment.describe)))
  | some own => items.mapM (segment.dynamicAddition own record owners)

/-- Refuses a value that contradicts one that was resolved before. -/
def refuseContradiction (segment : SegmentWith σ) (key resolved : Value) (owners : Owners σ)
    (given : Value) : Except Raised Unit := do
  let source ← owners.source key
  let name ← key.plainText
  let received ← given.display
  resolved.refused fun shown =>
    .conflict source segment.describe
      (.contradiction segment.describe name received shown source)

@[simp] theorem refuseContradiction_ne_ok (segment : SegmentWith σ) (key resolved : Value)
    (owners : Owners σ) (given : Value) (result : Unit) :
    segment.refuseContradiction key resolved owners given ≠ .ok result := by
  unfold refuseContradiction
  cases owners.source key <;> cases key.plainText <;> cases given.display <;> nofun

/-- A value that repeats one of the record has to agree with it, in the form that the parameter's
owner gives it. -/
def checkRepeated (segment : SegmentWith σ) (key resolved : Value) (owners : Owners σ)
    (value : Value) : Except Raised Unit := do
  let given ← match owners.of? key with
    | some owner => (owner.accept (some value) segment).map ParamValue.toValue
    | none => .ok value
  if ← given.comparable.compare resolved then return ()
  else segment.refuseContradiction key resolved owners given

/-- Goes through one entry of an item, behind what the entries before it add. -/
def staticAdditionStep (segment : SegmentWith σ) (record : Entries) (owners : Owners σ)
    (additions : ParamRecord) (entry : Value × Value) : Except Raised ParamRecord :=
  match record.lookup? entry.1 with
  | some resolved => do
    segment.checkRepeated entry.1 resolved owners entry.2
    return additions
  | none =>
    match entry with
    | (.text name, value) =>
      match owners.lookup? name with
      | some owner => do
        let accepted ← owner.accept (some value) segment
        return additions.assign name accepted
      | none =>
        .error (.failure (segment.fault
          (.unownedKey segment.name (Text.quote name) owners.sorted.names)))
    | (key, _) =>
      key.refused fun shown =>
        segment.fault (.unownedKey segment.name shown owners.sorted.names)

/-- What the entries of an item of a segment that is not dynamic add to a record. -/
def staticEntries (segment : SegmentWith σ) (record : Entries) (owners : Owners σ)
    (entries : Entries) : Except Raised ParamRecord :=
  entries.foldlM (segment.staticAdditionStep record owners) []

/-- What an item of a segment that is not dynamic adds to a record. -/
def staticAddition (segment : SegmentWith σ) (record : Entries) (owners : Owners σ)
    (item : Item) : Except Raised ParamRecord := do
  let entries ← item
  segment.staticEntries record owners entries

/-- What the items of a segment that is not dynamic add to a record, each to a copy of its own. -/
def staticAdditions (segment : SegmentWith σ) (record : Entries) (items : List Item)
    (owners : Owners σ) : Except Raised (List ParamRecord) :=
  items.mapM (segment.staticAddition record owners)

/-- The records that the items of a dynamic segment give. -/
def mergeDynamic (segment : SegmentWith σ) (record : ParamRecord) (items : List Item)
    (owners : Owners σ) : Except Raised (List ParamRecord) :=
  (segment.dynamicAdditions record.toEntries items owners).map (·.map record.extend)

/-- The records that the items of a segment that is not dynamic give. -/
def mergeStatic (segment : SegmentWith σ) (record : ParamRecord) (items : List Item)
    (owners : Owners σ) : Except Raised (List ParamRecord) :=
  (segment.staticAdditions record.toEntries items owners).map (·.map record.extend)

/-- The records that the items of a segment give. -/
def merge (segment : SegmentWith σ) (record : ParamRecord) (items : List Item)
    (owners : Owners σ) : Except Raised (List ParamRecord) :=
  if segment.isDynamic then segment.mergeDynamic record items owners
  else segment.mergeStatic record items owners

end SegmentWith

end Prerender
