import TeacherDirectory.Program
import TeacherDirectory.Retry.Policy
import TeacherDirectory.Service.Error

/-!
# Retrying an operation

An operation is attempted until it succeeds or the budget of retries is spent, and the last outcome
is the result. Every failed attempt is counted and logged with its number, counted from one; the
final outcome is counted once. A wait stands between two attempts only. The number of an attempt is
a 32-bit word, as the budget is; each attempt is told its number, counted from zero.
-/

namespace TeacherDirectory

set_option autoImplicit false

abbrev Attempt (Result : Type) := ExceptT ServiceError Program Result

namespace RetryPolicy

/-- Makes one attempt. Success is counted as the final outcome; a failure is counted and logged. -/
def attemptOnce {Result : Type} (operation : String) (once : Attempt Result) (attempt : UInt32) :
    Program (Except ServiceError Result) := do
  let outcome ← once.run
  match outcome with
  | .ok _ => Program.count (.finished operation true)
  | .error failure =>
      Program.count (.failedAttempt operation)
      Program.log .warn s!"Attempt {(attempt + 1).toNat} failed"
        [("operation", operation), ("error", failure.message), ("kind", failure.kind)]
  return outcome

def pause (policy : RetryPolicy) (attempt : UInt32) : Program Unit :=
  let delay := policy.delayAfter attempt
  if delay = .zero then return else Program.wait delay

/-- Attempts an operation with some retries left, the first attempt having the number given. -/
def retryFrom {Result : Type} (policy : RetryPolicy) (operation : String)
    (once : Nat → Attempt Result) : UInt32 → Nat → Program (Except ServiceError Result)
  | attempt, 0 => do
      match ← attemptOnce operation (once attempt.toNat) attempt with
      | .ok value => return .ok value
      | .error failure =>
          Program.count (.finished operation false)
          return .error failure
  | attempt, left + 1 => do
      match ← attemptOnce operation (once attempt.toNat) attempt with
      | .ok value => return .ok value
      | .error _ =>
          policy.pause attempt
          policy.retryFrom operation once (attempt + 1) left

def retry {Result : Type} (policy : RetryPolicy) (operation : String)
    (once : Nat → Attempt Result) : Attempt Result :=
  ExceptT.mk (policy.retryFrom operation once 0 policy.maxRetries.toNat)

end RetryPolicy

end TeacherDirectory
