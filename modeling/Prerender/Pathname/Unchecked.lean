import Prerender.Pathname
import Prerender.Value

/-!
# Interpolation of unchecked values

`Pathname.interpolateUnchecked` fills in values of any shape. A text gives one component, nothing
gives none, and whatever can be iterated over gives one for each element, which has to be a text
or bytes. An iterator is read once: where its name comes again, it gives nothing. On values that
parameters can have it is `Pathname.interpolate` (`interpolateUnchecked_uncheck`).
-/

namespace Prerender

/-- What iterating over a value gives, and what it raises at last. Values that cannot be iterated
over give nothing. -/
def Value.elements? : Value → Option (List Value × Option Raised)
  | .list items => some (items, Option.none)
  | .tuple items => some (items, Option.none)
  | .mapping entries => some (entries.map (·.1), Option.none)
  | .bytes content => some (content.map fun byte => .number (.int byte.toNat), Option.none)
  | .text content => some (content.toList.map fun c => .text (String.singleton c), Option.none)
  | .stream items raised => some (items, raised)
  | _ => Option.none

/-- What is left of a value that was iterated over. -/
def Value.afterReading : Value → Value
  | .stream _ _ => .stream [] Option.none
  | value => value

namespace Pathname

/-- A byte of a URL path component. -/
def encodeByte (byte : UInt8) : List Char :=
  let c := Char.ofNat byte.toNat
  if byte < 0x80 && Text.isUnreserved c then [c] else Text.escapedByte byte

/-- The URL component that an element of a value gives. -/
def encodeElement : Value → Except Raised String
  | .text content => .ok (encodeComponent content)
  | .bytes content => .ok (String.ofList (content.flatMap encodeByte))
  | _ => .error (.crash .notEncodable)

/-- The URL components that the elements of a value give. -/
def encodeElements : List Value → Except Raised (List String)
  | [] => .ok []
  | element :: rest => do
    let here ← encodeElement element
    let behind ← encodeElements rest
    return here :: behind

/-- The URL components that a value gives. -/
def encodeUnchecked (value : Value) : Except Raised (List String) :=
  match value with
  | .none => .ok []
  | .text content => .ok [encodeComponent content]
  | value =>
    match value.elements? with
    | none => .error (.crash (.notIterable value.qualifiedTypeName))
    | some (elements, raised) =>
      match encodeElements elements, raised with
      | .error exception, _ => .error exception
      | .ok _, some exception => .error exception
      | .ok components, none => .ok components

/-- The URL components that the components of a pathname give. -/
def fillUnchecked (params : Bindings Value) : List Component → Except Raised (List String)
  | [] => .ok []
  | .literal text :: rest => do
    let behind ← fillUnchecked params rest
    return text :: behind
  | .placeholder param :: rest =>
    match params.lookup? param.name with
    | none => .error (.crash (.missingParam param.name))
    | some value => do
      let here ← encodeUnchecked value
      let behind ← fillUnchecked (params.assign param.name value.afterReading) rest
      return here ++ behind

/-- The URL path of a pathname under values that were not checked. -/
def interpolateUnchecked (pathname : String) (params : Bindings Value) : Except Raised String :=
  (fillUnchecked params (pattern pathname)).map joinSlashes

/-- A record as user code sees it. -/
def uncheck (record : ParamRecord) : Bindings Value :=
  record.map fun (name, value) => (name, value.toValue)

theorem encodeElements_map_text (texts : List String) :
    encodeElements (texts.map .text) = .ok (texts.map encodeComponent) := by
  induction texts with
  | nil => rfl
  | cons text rest ih =>
    simp only [List.map_cons, encodeElements, encodeElement, ih]
    rfl

theorem encodeUnchecked_toValue (value : ParamValue) :
    encodeUnchecked value.toValue = .ok (encodeValue value) := by
  cases value with
  | text content => rfl
  | parts components =>
    simp [ParamValue.toValue, encodeUnchecked, Value.elements?, encodeElements_map_text,
      encodeValue]
  | absent => rfl

theorem lookup?_uncheck (record : ParamRecord) (name : String) :
    (uncheck record).lookup? name = (record.lookup? name).map ParamValue.toValue := by
  induction record with
  | nil => rfl
  | cons binding rest ih =>
    obtain ⟨bound, value⟩ := binding
    by_cases same : bound = name
    · simp [uncheck, Bindings.lookup?, same]
    · simpa [uncheck, Bindings.lookup?, same] using ih

theorem afterReading_toValue (value : ParamValue) :
    value.toValue.afterReading = value.toValue := by
  cases value <;> rfl

theorem fillUnchecked_uncheck (record : ParamRecord) (components : List Component) :
    fillUnchecked (uncheck record) components = (fillAll record components).mapError .crash := by
  induction components with
  | nil => rfl
  | cons component rest ih =>
    cases component with
    | literal text =>
      simp only [fillUnchecked, fillAll, Component.fill, ih]
      cases fillAll record rest <;> rfl
    | placeholder param =>
      simp only [fillUnchecked, fillAll, Component.fill, lookup?_uncheck]
      cases found : record.lookup? param.name with
      | none => rfl
      | some value =>
        have bound : (uncheck record).lookup? param.name = some value.toValue := by
          rw [lookup?_uncheck, found, Option.map_some]
        simp only [Option.map_some, encodeUnchecked_toValue, afterReading_toValue,
          Bindings.assign_eq_self bound, ih]
        cases fillAll record rest <;> rfl

/-- On values that parameters can have, nothing depends on their being checked. -/
theorem interpolateUnchecked_uncheck (pathname : String) (record : ParamRecord) :
    interpolateUnchecked pathname (uncheck record)
      = (interpolate pathname record).mapError .crash := by
  unfold interpolateUnchecked interpolate
  rw [fillUnchecked_uncheck]
  cases fillAll record (pattern pathname) <;> rfl

end Pathname

end Prerender
