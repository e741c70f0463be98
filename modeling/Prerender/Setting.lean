import Prerender.Failure

/-!
# Names of settings

Settings are given under their names. `Setting.checkNames` refuses a name that the settings do not
have, and the one that they go by themselves; of several such names the first one decides. It
accepts exactly what has none of them (`checkNames_eq_ok_iff`).
-/

namespace Prerender.Setting

/-- The name by which settings of any kind go themselves, so that no single one can have it. -/
def reserved : String := "self"

/-- What is wrong with a name, among the settings that have the known ones. -/
def nameFault? (settings : String) (known : List String) (name : String) : Option Crash :=
  if name = reserved then some (.reservedSetting settings name)
  else if known.contains name then none
  else some (.unknownSetting settings name)

/-- Checks the names under which settings are given. -/
def checkNames (settings : String) (known given : List String) : Except Crash Unit :=
  match given.findSome? (nameFault? settings known) with
  | some exception => .error exception
  | none => .ok ()

theorem nameFault?_eq_none_iff (settings : String) (known : List String) (name : String) :
    nameFault? settings known name = none ↔ name ≠ reserved ∧ name ∈ known := by
  unfold nameFault?
  split <;> simp_all

/-- Accepted names are known, and none of them is reserved. -/
theorem checkNames_eq_ok_iff (settings : String) (known given : List String) :
    checkNames settings known given = .ok ()
      ↔ ∀ name ∈ given, name ≠ reserved ∧ name ∈ known := by
  simp only [← nameFault?_eq_none_iff settings, ← List.findSome?_eq_none_iff]
  unfold checkNames
  split <;> simp_all

end Prerender.Setting
