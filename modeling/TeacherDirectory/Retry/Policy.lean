import TeacherDirectory.Time

/-!
# Retry policies

A policy says how often a failed operation is tried again and how long to wait before. The wait
grows by a factor with each attempt, up to an exponent of thirty-two, and never exceeds the longest
wait; it is the longest wait where the product is no span of time at all.
-/

namespace TeacherDirectory

set_option autoImplicit false

structure RetryPolicy where
  maxRetries : UInt32
  initialDelay : Span
  backoff : Float
  maxDelay : Span

namespace RetryPolicy

def defaultRetries : UInt32 := 2

def defaultInitialDelay : Span := .ofMilliseconds 200

def defaultMaxDelay : Span := .ofMilliseconds 5000

def doubling : Float := 2.0

/-- The exponent beyond which a wait no longer grows. -/
def greatestExponent : Nat := 32

/-- Two retries, after 200 and 400 milliseconds. -/
def standard : RetryPolicy := ⟨defaultRetries, defaultInitialDelay, doubling, defaultMaxDelay⟩

def immediate (maxRetries : UInt32) : RetryPolicy := ⟨maxRetries, .zero, doubling, .zero⟩

/-- A whole power by repeated squaring: `product` times `base` to the exponent, the lowest binary
digit first. -/
def powerFrom (product base : Float) (exponent : Nat) : Float :=
  let product := if exponent % 2 = 1 then product * base else product
  if exponent < 2 then product else powerFrom product (base * base) (exponent / 2)
termination_by exponent
decreasing_by omega

def power (base : Float) (exponent : Nat) : Float := powerFrom 1.0 base exponent

/-- The wait after a failed attempt, counted from zero. -/
def delayAfter (policy : RetryPolicy) (attempt : UInt32) : Span :=
  let factor := power policy.backoff (Nat.min attempt.toNat greatestExponent)
  match Span.ofFloat? (policy.initialDelay.toFloat * factor) with
  | some span => span.min policy.maxDelay
  | none => policy.maxDelay

end RetryPolicy

end TeacherDirectory
