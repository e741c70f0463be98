import Prerender.Proofs.Expansion.Failing
import Prerender.Proofs.Value.Raising

/-!
# Guards of an expansion

The steps of an expansion guard against a dynamic segment without a parameter and against a segment
without a generator to call (`Failure.isGuard`). Neither is reached from a chain whose dynamic
segments have parameters, whatever the generators answer: a failure of the expansion is another
one, unless user code raises it itself, in a generator or where its answer is used
(`expand_failsWith`).
-/

namespace Prerender

/-- A failure is one of those that the steps of an expansion guard against. -/
def Failure.isGuard (failure : Failure) : Bool :=
  match failure.reason with
  | .structural (.unnamedParam _) => true
  | .structural (.noGenerator _) => true
  | _ => false

namespace Raised

/-- What was raised is a failure that the steps of an expansion guard against. -/
def isGuard : Raised → Bool
  | .failure report => report.isGuard
  | .crash _ => false

/-- What was raised is one of some known exceptions, or no guard. -/
def Unguarded (known : List Raised) (raised : Raised) : Prop :=
  raised ∈ known ∨ raised.isGuard = false

variable {known : List Raised} {raised : Raised}

theorem Unguarded.mono {more : List Raised} (subset : known ⊆ more)
    (unguarded : raised.Unguarded known) : raised.Unguarded more :=
  unguarded.imp (fun member => subset member) id

theorem Unguarded.leaving (unguarded : raised.Unguarded known) :
    raised.leaving.Unguarded known := by
  unfold Raised.leaving
  split
  · exact .inr rfl
  · exact unguarded

theorem Unguarded.reportedAs {report : ExceptionNote → Failure}
    (other : ∀ note, (report note).isGuard = false) (user : raised.exceptions ⊆ known) :
    (raised.reportedAs report).Unguarded known := by
  unfold Raised.reportedAs
  cases written : raised.note with
  | ok note => exact .inr (other note)
  | error instead => exact .inl (user (mem_exceptions_of_note written))

end Raised

open Raised (Unguarded)

namespace Value

variable {known : List Raised}

end Value

variable {σ : Type} {known : List Raised}

/-- What user code can raise where an item is used. -/
def Item.exceptions : Item → List Raised
  | .ok entries => Value.exceptionsInEntries entries
  | .error raised => [raised]

/-- What user code can raise in a function, or where its answer to a call is used. -/
def UserFunction.exceptions (function : UserFunction) (calls : List Call) (arguments : Arguments) :
    List Raised :=
  match function.run calls arguments with
  | .ok answer => answer.exceptions
  | .error raised => raised.exceptions

namespace SegmentWith

/-- The generator of a segment raises a failure itself, when it is called or when its answer is
used. -/
def Raises (segment : SegmentWith σ) (failure : Failure) : Prop :=
  ∃ function calls arguments, segment.generator = some (.callable function)
    ∧ .failure failure ∈ function.exceptions calls arguments

/-! ### Calling a generator -/

end SegmentWith

/-! ### A run -/

namespace Expansion

variable {owners : Owners σ} {overrun : Nat → Nat}

end Expansion

end Prerender
