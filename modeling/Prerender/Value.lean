import Prerender.Failure
import Prerender.Number
import Prerender.Param

/-!
# Values of user modules

Modules are loosely typed: an export may be bound to anything, and a function may return anything.
`Value` holds whatever user code can hand over. A function is given by its behaviour: from the
calls made before and its arguments to a value or to what it raises, so that it may keep a state
of its own.

`display` writes a value for messages, and `equals` compares two of them as user code does. Both may
be up to user code, which can raise something instead: an object of a class of user code is written
and compared as that class has it, and a mapping of such a class may not be readable at all. An
integer with too many digits and a module without a proper specification cannot be written either.
`refused` is for the failures whose message shows a value.

The keys of a mapping are told apart by `equals`: `Entries` are what a mapping holds, and
`Entries.put` gives them one more, if its key can be one.
-/

namespace Prerender

/-- What a user function is called with. -/
inductive Arguments where
  /-- A generator is called with the parameters resolved so far. -/
  | params (record : ParamRecord)
  /-- A path function is called with the configured locales. -/
  | locales (locales : List String) (defaultLocale : Option String)
deriving DecidableEq, Repr

/-- A call of a user function. -/
structure Call where
  function : String
  arguments : Arguments
deriving DecidableEq, Repr

/-- A value of a user module. -/
inductive Value where
  | none
  | bool (value : Bool)
  | number (value : Number)
  | text (content : String)
  | bytes (content : List UInt8)
  | list (items : List Value)
  | tuple (items : List Value)
  /-- Entries in the order in which their keys were first given. -/
  | mapping (entries : List (Value × Value))
  /-- A plain object with named fields. -/
  | object (fields : List (String × Value))
  /-- A module object. -/
  | moduleObject (fields : List (String × Value))
  /-- An iterator that can be read once: its items, and what it raises behind them. -/
  | stream (items : List Value) (raised : Option Raised)
  /-- An object of a class of user code, by the name of the class. It is equal to itself only and
  counts as true. What it is written as, or raises when it is written, and what it raises when it is
  compared are its own affair. -/
  | foreign (type : String) (written : Except Raised String) (compared : Option Raised)
  /-- A mapping of a class of user code that raises something as soon as it is read. One that raises
  it later on is refused before, for what was read of it, or ends the same way. -/
  | unreadable (type : String) (written : Except Raised String) (raised : Raised)
  /-- A function, with its answer to a call that follows the given ones. -/
  | function (name : String) (run : List Call → Arguments → Except Raised Value)

/-- A user function, with its answer to a call that follows the given ones. -/
structure UserFunction where
  name : String
  run : List Call → Arguments → Except Raised Value

namespace Value

/-- The name of a value's type. -/
def typeName : Value → String
  | .none => "NoneType"
  | .bool _ => "bool"
  | .number (.int _) => "int"
  | .number (.float _) => "float"
  | .text _ => "str"
  | .bytes _ => "bytes"
  | .list _ => "list"
  | .tuple _ => "tuple"
  | .mapping _ => "dict"
  | .object _ => "SimpleNamespace"
  | .moduleObject _ => "module"
  | .stream .. => "generator"
  | .function .. => "function"
  | .foreign type .. => type
  | .unreadable type .. => type

/-- The name of a value's type with the module that defines it, unless that is the built-in
one. -/
def qualifiedTypeName : Value → String
  | .object _ => "types.SimpleNamespace"
  | value => value.typeName

/-- The function that a value is. -/
def function? : Value → Option UserFunction
  | .function name run => some ⟨name, run⟩
  | _ => Option.none

/-- What is raised when a value is asked for an attribute that it does not have. -/
def lacking : Value → String → Crash
  | .moduleObject fields, name =>
    match Bindings.lookup? fields "__name__" with
    | some (.text module) => .noAttribute s!"module {Text.quote module}" name
    | _ => .noAttribute "module" name
  | value, name => .noAttribute s!"{Text.quote value.qualifiedTypeName} object" name

/-- The attributes of a value, as far as user code can set them. -/
def attributes : Value → Bindings Value
  | .object fields => fields
  | .moduleObject fields => fields
  | _ => []

/-- The first attribute that a module's specification lacks for the module to be written. -/
def missingOfSpec? (spec : Value) : Option String :=
  match spec.attributes.lookup? "name", spec.attributes.lookup? "origin" with
  | Option.none, _ => some "name"
  | _, Option.none => some "origin"
  | _, some .none => if spec.attributes.binds "loader" then Option.none else some "loader"
  | _, some _ => if spec.attributes.binds "has_location" then Option.none else some "has_location"

/-- Whether a value counts as true. -/
def isTruthy : Value → Bool
  | .none => false
  | .bool value => value
  | .number value => !value.sameValue (.int 0)
  | .text content => !content.isEmpty
  | .bytes content => !content.isEmpty
  | .list items => !items.isEmpty
  | .tuple items => !items.isEmpty
  | .mapping entries => !entries.isEmpty
  | _ => true

/-- A module object as messages show it. Its specification is looked at if it has one. -/
def displayModule (fields : Bindings Value) : Except Raised String :=
  match (fields.lookup? "__spec__").filter isTruthy with
  | Option.none => .ok "<module>"
  | some spec =>
    match spec.missingOfSpec? with
    | Option.none => .ok "<module>"
    | some name => .error (.crash (spec.lacking name))

mutual

/-- A value as messages show it, or what is raised when it is written. -/
def display : Value → Except Raised String
  | .none => .ok "None"
  | .bool true => .ok "True"
  | .bool false => .ok "False"
  | .number value =>
    if value.isWritable then .ok value.text else .error (.crash (.digitLimit Number.digitLimit))
  | .text content => .ok (Text.quote content)
  | .bytes content => .ok (Text.quoteBytes content)
  | .list items => (displayItems items).map Text.bracketed
  | .tuple items => (displayItems items).map Text.parenthesized
  | .mapping entries =>
    (displayEntries entries).map fun shown => "\x7b" ++ ", ".intercalate shown ++ "\x7d"
  | .object fields =>
    (displayFields fields).map fun shown => "namespace(" ++ ", ".intercalate shown ++ ")"
  | .moduleObject fields => displayModule fields
  | .stream .. => .ok "<generator>"
  | .function name _ => .ok ("<function " ++ name ++ ">")
  | .foreign _ written _ => written
  | .unreadable _ written _ => written
termination_by structural value => value

/-- Each of several values as messages show it. -/
def displayItems : List Value → Except Raised (List String)
  | [] => .ok []
  | item :: rest => do
    let shown ← item.display
    let others ← displayItems rest
    return shown :: others
termination_by structural items => items

/-- The entries of a mapping as messages show them. -/
def displayEntries : List (Value × Value) → Except Raised (List String)
  | [] => .ok []
  | (key, value) :: rest => do
    let shownKey ← key.display
    let shown ← value.display
    let others ← displayEntries rest
    return (shownKey ++ ": " ++ shown) :: others
termination_by structural entries => entries

/-- The fields of an object as messages show them. A field with an empty name is not shown. -/
def displayFields : List (String × Value) → Except Raised (List String)
  | [] => .ok []
  | (name, value) :: rest =>
    if name.isEmpty then displayFields rest
    else do
      let shown ← value.display
      let others ← displayFields rest
      return (name ++ "=" ++ shown) :: others
termination_by structural fields => fields

end

/-- A value as plain text: a text as it is, and any other value as messages show it. -/
def plainText : Value → Except Raised String
  | .text content => .ok content
  | value => value.display

/-- What refusing a value raises: a failure whose message shows it, or what writing it raises. -/
def refusal (value : Value) (report : String → Failure) : Raised :=
  match value.display with
  | .ok shown => .failure (report shown)
  | .error raised => raised

/-- Refuses a value. -/
def refused {α : Type} (value : Value) (report : String → Failure) : Except Raised α :=
  .error (value.refusal report)

@[simp] theorem refused_ne_ok {α : Type} (value : Value) (report : String → Failure) (result : α) :
    value.refused report ≠ .ok result := nofun

/-- The number that a value counts as in comparisons: a truth value counts as one or zero. -/
def numeric? : Value → Option Number
  | .bool value => some (.int (if value then 1 else 0))
  | .number value => some value
  | _ => Option.none

mutual

/-- Whether user code finds two values equal. Truth values and numbers are compared by value;
lists, tuples, mappings and plain objects by what they hold. Modules, iterators and functions are
equal to nothing, since no two of them are known to be the same. -/
def equals : Value → Value → Bool
  | .none, .none => true
  | .bool a, b => (b.numeric?.map (Number.sameValue (.int (if a then 1 else 0)))).getD false
  | .number a, b => (b.numeric?.map (Number.sameValue a)).getD false
  | .text a, .text b => a = b
  | .bytes a, .bytes b => a = b
  | .list a, .list b => equalItems a b
  | .tuple a, .tuple b => equalItems a b
  | .mapping a, .mapping b => a.length = b.length && equalEntries a b
  | .object a, .object b => a.length = b.length && equalFields a b
  | _, _ => false
termination_by structural a => a

/-- Whether two lists of values are equal item by item. -/
def equalItems : List Value → List Value → Bool
  | [], [] => true
  | a :: as, b :: bs => a.equals b && equalItems as bs
  | _, _ => false
termination_by structural as => as

/-- Whether each of some entries is also among others. -/
def equalEntries : List (Value × Value) → List (Value × Value) → Bool
  | [], _ => true
  | (key, value) :: rest, others =>
    others.any (fun other => key.equals other.1 && value.equals other.2)
      && equalEntries rest others
termination_by structural entries => entries

/-- Whether each of some fields is also among others. -/
def equalFields : List (String × Value) → List (String × Value) → Bool
  | [], _ => true
  | (name, value) :: rest, others =>
    others.any (fun other => name = other.1 && value.equals other.2) && equalFields rest others
termination_by structural fields => fields

end

mutual

/-- The name of the type because of which a value can be no key: that of the value itself, or of
something inside a tuple. -/
def unhashable? : Value → Option String
  | .list items => some (Value.list items).qualifiedTypeName
  | .mapping entries => some (Value.mapping entries).qualifiedTypeName
  | .object fields => some (Value.object fields).qualifiedTypeName
  | .unreadable type .. => some type
  | .tuple items => unhashableAmong? items
  | _ => Option.none
termination_by structural value => value

/-- The name of the first type among some values because of which they can be no keys. -/
def unhashableAmong? : List Value → Option String
  | [] => Option.none
  | item :: rest =>
    match item.unhashable? with
    | some type => some type
    | Option.none => unhashableAmong? rest
termination_by structural items => items

end

/-- The texts that a list or tuple consists of, if it holds texts only. -/
def texts? : List Value → Option (List String)
  | [] => some []
  | .text content :: rest => (texts? rest).map (content :: ·)
  | _ => Option.none

theorem texts?_eq_some_iff {items : List Value} {texts : List String} :
    texts? items = some texts ↔ items = texts.map .text := by
  induction items generalizing texts with
  | nil => cases texts <;> simp [texts?]
  | cons item rest ih =>
    cases item with
    | text content =>
      cases texts with
      | nil => simp [texts?]
      | cons first others =>
        simp only [texts?, Option.map_eq_some_iff, ih, List.map_cons, List.cons.injEq, text.injEq]
        constructor
        · rintro ⟨_, rfl, rfl, rfl⟩
          exact ⟨rfl, rfl⟩
        · rintro ⟨rfl, rfl⟩
          exact ⟨others, rfl, rfl, rfl⟩
    | _ => cases texts <;> simp [texts?]

/-- The items of a list or tuple. -/
def sequence? : Value → Option (List Value)
  | .list items => some items
  | .tuple items => some items
  | _ => Option.none

theorem sequence?_eq_some_iff {value : Value} {items : List Value} :
    value.sequence? = some items ↔ value = .list items ∨ value = .tuple items := by
  cases value <;> simp [sequence?]

/-- What a mapping holds or raises when it is read; none for a value that is no mapping. -/
def asMapping? : Value → Option (Except Raised (List (Value × Value)))
  | .mapping entries => some (.ok entries)
  | .unreadable _ _ raised => some (.error raised)
  | _ => Option.none

/-- Whether a value equals another one, or what it raises when it is compared. -/
def compare (value other : Value) : Except Raised Bool :=
  match value with
  | .foreign _ _ (some raised) => .error raised
  | value => .ok (value.equals other)

/-- Whether a value equals one of some others, compared in turn. -/
def isAmong (value : Value) : List Value → Except Raised Bool
  | [] => .ok false
  | other :: others => do
    if ← value.compare other then return true
    value.isAmong others

end Value

/-- What a mapping holds: values under keys, in the order in which the keys were first given. -/
abbrev Entries := List (Value × Value)

namespace Entries

/-- The value under a key. -/
def lookup? : Entries → Value → Option Value
  | [], _ => none
  | (present, value) :: rest, key =>
    if present.equals key then some value else lookup? rest key

/-- Gives a key its value. A key that is there keeps its place and its form. -/
def insert : Entries → Value → Value → Entries
  | [], key, value => [(key, value)]
  | (present, old) :: rest, key, value =>
    if present.equals key then (present, value) :: rest
    else (present, old) :: insert rest key value

/-- Gives a key its value, unless it cannot be a key at all. -/
def put (entries : Entries) (key value : Value) : Except Crash Entries :=
  match key.unhashable? with
  | some type => .error (.unhashable type)
  | none => .ok (entries.insert key value)

/-- The names among the keys, with their values. -/
def named (entries : Entries) : Bindings Value :=
  entries.filterMap fun
    | (.text name, value) => some (name, value)
    | _ => none

end Entries

/-- A parameter's value as user code sees it. -/
def ParamValue.toValue : ParamValue → Value
  | .text content => .text content
  | .parts components => .tuple (components.map .text)
  | .absent => .none

/-- A record as user code sees it. -/
def ParamRecord.toEntries (record : ParamRecord) : Entries :=
  record.map fun (name, value) => (.text name, value.toValue)

/-- User code finds under a name the value that the record binds to it. -/
theorem ParamRecord.lookup?_toEntries (record : ParamRecord) (name : String) :
    record.toEntries.lookup? (.text name) = (record.lookup? name).map ParamValue.toValue := by
  induction record with
  | nil => rfl
  | cons binding rest ih =>
    obtain ⟨bound, value⟩ := binding
    by_cases same : bound = name
    · simp [toEntries, Entries.lookup?, Bindings.lookup?, Value.equals, same]
    · simpa [toEntries, Entries.lookup?, Bindings.lookup?, Value.equals, same] using ih

end Prerender
