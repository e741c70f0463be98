import Prerender.Proofs.Except
import Prerender.Value

/-!
# What a value can raise

User code may raise something where a value is written, compared or read. `Value.exceptions`
collects what that can be. Writing a value raises one of these or an exception of its own, which is
no reported error (`display_failsWith`).
-/

namespace Prerender

/-- What was raised, and what asking for its text raises. -/
def Raised.exceptions (raised : Raised) : List Raised :=
  match raised.note with
  | .ok _ => [raised]
  | .error instead => [raised, instead]

theorem Raised.mem_exceptions_of_note {raised instead : Raised}
    (unwritten : raised.note = .error instead) : instead ∈ raised.exceptions := by
  simp [Raised.exceptions, unwritten]

/-- A parameter's value as messages show it. -/
def ParamValue.shown : ParamValue → String
  | .text content => Text.quote content
  | .parts components => Text.parenthesized (components.map Text.quote)
  | .absent => "None"

namespace Value

/-- What writing something raises. -/
def raisedIn {α : Type} : Except Raised α → List Raised
  | .ok _ => []
  | .error raised => [raised]

mutual

/-- What user code can raise where a value is written, compared or read. -/
def exceptions : Value → List Raised
  | .list items => exceptionsAmong items
  | .tuple items => exceptionsAmong items
  | .mapping entries => exceptionsInEntries entries
  | .object fields => exceptionsInFields fields
  | .stream items raised => raised.toList.flatMap Raised.exceptions ++ exceptionsAmong items
  | .foreign _ written compared => compared.toList ++ raisedIn written
  | .unreadable _ written raised => raised :: raisedIn written
  | _ => []
termination_by structural value => value

/-- What user code can raise where one of some values is used. -/
def exceptionsAmong : List Value → List Raised
  | [] => []
  | item :: rest => item.exceptions ++ exceptionsAmong rest
termination_by structural items => items

/-- What user code can raise where a key or a value of a mapping is used. -/
def exceptionsInEntries : List (Value × Value) → List Raised
  | [] => []
  | (key, value) :: rest => key.exceptions ++ value.exceptions ++ exceptionsInEntries rest
termination_by structural entries => entries

/-- What user code can raise where a field of an object is used. -/
def exceptionsInFields : List (String × Value) → List Raised
  | [] => []
  | (_, value) :: rest => value.exceptions ++ exceptionsInFields rest
termination_by structural fields => fields

end

theorem subset_exceptionsInEntries {entry : Value × Value} {entries : List (Value × Value)}
    (member : entry ∈ entries) :
    entry.1.exceptions ⊆ exceptionsInEntries entries
      ∧ entry.2.exceptions ⊆ exceptionsInEntries entries := by
  induction entries with
  | nil => cases member
  | cons first rest ih =>
    obtain ⟨key, value⟩ := first
    rw [exceptionsInEntries]
    rcases List.mem_cons.mp member with rfl | later
    · constructor <;> intro raised isRaised <;> simp [isRaised]
    · obtain ⟨keys, values⟩ := ih later
      exact ⟨fun _ raised => List.mem_append_right _ (keys raised),
        fun _ raised => List.mem_append_right _ (values raised)⟩

/-- A parameter's value raises nothing. -/
@[simp] theorem exceptions_toValue (value : ParamValue) : value.toValue.exceptions = [] := by
  have texts : ∀ components : List String, exceptionsAmong (components.map .text) = [] := by
    intro components
    induction components with
    | nil => rfl
    | cons first rest ih => simpa [exceptionsAmong, exceptions] using ih
  cases value with
  | parts components => exact texts components
  | _ => rfl

@[simp] theorem exceptionsInEntries_toEntries (record : ParamRecord) :
    exceptionsInEntries record.toEntries = [] := by
  induction record with
  | nil => rfl
  | cons binding rest ih =>
    simpa [ParamRecord.toEntries, exceptionsInEntries, exceptions] using ih

/-- A parameter's value is always written. -/
theorem display_toValue (value : ParamValue) : value.toValue.display = .ok value.shown := by
  have texts : ∀ components : List String,
      displayItems (components.map .text) = .ok (components.map Text.quote) := by
    intro components
    induction components with
    | nil => rfl
    | cons first rest ih =>
      rw [List.map_cons, displayItems, ih]
      rfl
  cases value with
  | parts components => rw [ParamValue.toValue, display, texts]; rfl
  | _ => rfl

/-- What was raised is one of some known exceptions, or no reported error. -/
def Foreseen (known : List Raised) (raised : Raised) : Prop :=
  raised ∈ known ∨ ∃ crash, raised = .crash crash

theorem Foreseen.mono {known more : List Raised} (subset : known ⊆ more) {raised : Raised}
    (foreseen : Foreseen known raised) : Foreseen more raised :=
  foreseen.imp (fun member => subset member) id

theorem displayModule_failsWith (known : List Raised) (fields : Bindings Value) :
    Except.FailsWith (Foreseen known) (displayModule fields) := by
  unfold displayModule
  split
  · exact .ok _
  · split
    · exact .ok _
    · exact .error (.inr ⟨_, rfl⟩)

mutual

/-- What writing a value raises comes from user code, or it is no reported error. -/
theorem display_failsWith : (value : Value) →
    Except.FailsWith (Foreseen value.exceptions) value.display
  | .none => .ok _
  | .bool true => .ok _
  | .bool false => .ok _
  | .number value => by
    rw [display]
    split
    · exact .ok _
    · exact .error (.inr ⟨_, rfl⟩)
  | .text _ => .ok _
  | .bytes _ => .ok _
  | .list items => (displayItems_failsWith items).map _
  | .tuple items => (displayItems_failsWith items).map _
  | .mapping entries => (displayEntries_failsWith entries).map _
  | .object fields => (displayFields_failsWith fields).map _
  | .moduleObject fields => displayModule_failsWith _ fields
  | .stream .. => .ok _
  | .function .. => .ok _
  | .foreign type written compared => by
    rintro raised rfl
    exact .inl (by simp [exceptions, raisedIn])
  | .unreadable type written other => by
    rintro raised rfl
    exact .inl (by simp [exceptions, raisedIn])

theorem displayItems_failsWith : (items : List Value) →
    Except.FailsWith (Foreseen (exceptionsAmong items)) (displayItems items)
  | [] => .ok _
  | item :: rest => by
    have inItem : item.exceptions ⊆ exceptionsAmong (item :: rest) := List.subset_append_left ..
    have inRest : exceptionsAmong rest ⊆ exceptionsAmong (item :: rest) :=
      List.subset_append_right ..
    rw [displayItems]
    refine ((display_failsWith item).mono fun _ => Foreseen.mono inItem).bind fun _ => ?_
    exact ((displayItems_failsWith rest).mono fun _ => Foreseen.mono inRest).bind fun _ => .ok _

theorem displayEntries_failsWith : (entries : List (Value × Value)) →
    Except.FailsWith (Foreseen (exceptionsInEntries entries)) (displayEntries entries)
  | [] => .ok _
  | (key, value) :: rest => by
    obtain ⟨inKey, inValue⟩ :=
      subset_exceptionsInEntries (List.mem_cons_self : (key, value) ∈ (key, value) :: rest)
    have inRest : exceptionsInEntries rest ⊆ exceptionsInEntries ((key, value) :: rest) :=
      List.subset_append_right ..
    rw [displayEntries]
    refine ((display_failsWith key).mono fun _ => Foreseen.mono inKey).bind fun _ => ?_
    refine ((display_failsWith value).mono fun _ => Foreseen.mono inValue).bind fun _ => ?_
    exact ((displayEntries_failsWith rest).mono fun _ => Foreseen.mono inRest).bind fun _ => .ok _

theorem displayFields_failsWith : (fields : List (String × Value)) →
    Except.FailsWith (Foreseen (exceptionsInFields fields)) (displayFields fields)
  | [] => .ok _
  | (name, value) :: rest => by
    have inValue : value.exceptions ⊆ exceptionsInFields ((name, value) :: rest) :=
      List.subset_append_left ..
    have inRest : exceptionsInFields rest ⊆ exceptionsInFields ((name, value) :: rest) :=
      List.subset_append_right ..
    have behind := (displayFields_failsWith rest).mono fun _ => Foreseen.mono inRest
    rw [displayFields]
    split
    · exact behind
    · refine ((display_failsWith value).mono fun _ => Foreseen.mono inValue).bind fun _ => ?_
      exact behind.bind fun _ => .ok _

end

end Value

end Prerender
