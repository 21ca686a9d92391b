import TeacherDirectory.Retry.Policy

/-!
# The longest wait

The wait after an attempt is computed in floating point, and any product is possible there: it may
overflow, be negative or be no number. A product that is read as a span is cut to the longest wait,
and any other one stands for the longest wait; so no wait is longer, and where the longest wait is
none there is none at all.
-/

namespace TeacherDirectory

set_option autoImplicit false

namespace Span

def total : List Span → Nat
  | [] => 0
  | span :: later => span.nanoseconds + total later

@[simp] theorem total_append (earlier later : List Span) :
    total (earlier ++ later) = total earlier + total later := by
  induction earlier with
  | nil => exact (Nat.zero_add _).symm
  | cons span earlier induction =>
      simp only [List.cons_append, total]
      rw [induction, Nat.add_assoc]

theorem total_at_most {spans : List Span} {longest : Nat}
    (each : ∀ span ∈ spans, span.nanoseconds ≤ longest) :
    total spans ≤ spans.length * longest := by
  induction spans with
  | nil => exact Nat.zero_le _
  | cons span later induction =>
      rcases List.forall_mem_cons.mp each with ⟨first, others⟩
      calc
        total (span :: later) ≤ longest + later.length * longest :=
          Nat.add_le_add first (induction others)
        _ = (span :: later).length * longest := by rw [List.length_cons, Nat.succ_mul, Nat.add_comm]

/-- Whatever number of seconds is read, its whole seconds fit into a word of 64 bits. -/
theorem of_bits_seconds {bits : UInt64} {span : Span} (read : ofBits? bits = some span) :
    span.seconds < UInt64.size := by
  have fits {rounded : Nat}
      (kept : (if rounded < Nat.pow 2 64 * perSecond then some ⟨rounded⟩ else none) = some span) :
      span.seconds < UInt64.size := by
    by_cases below : rounded < Nat.pow 2 64 * perSecond
    · rw [if_pos below] at kept
      cases kept
      exact (Nat.div_lt_iff_lt_mul (by decide)).mpr below
    · rw [if_neg below] at kept
      cases kept
  unfold ofBits? at read
  extract_lets word negative exponent fraction significand scale rounded at read
  by_cases below : negative
  · rw [if_pos below] at read
    split at read
    · cases read
      decide
    · cases read
  · rw [if_neg below] at read
    split at read
    · cases read
    · exact fits read

theorem of_float_seconds {number : Float} {span : Span} (read : ofFloat? number = some span) :
    span.seconds < UInt64.size :=
  of_bits_seconds read

end Span

namespace RetryPolicy

/-- The longest wait is that, whatever the initial one, the factor and the attempt. -/
theorem delay_at_most (policy : RetryPolicy) (attempt : UInt32) :
    (policy.delayAfter attempt).nanoseconds ≤ policy.maxDelay.nanoseconds := by
  simp only [delayAfter]
  split
  · exact Nat.min_le_right _ _
  · exact Nat.le_refl _

theorem delay_none {policy : RetryPolicy} (none : policy.maxDelay = .zero) (attempt : UInt32) :
    policy.delayAfter attempt = .zero := by
  have longest : (policy.delayAfter attempt).nanoseconds ≤ policy.maxDelay.nanoseconds :=
    policy.delay_at_most attempt
  rw [none] at longest
  exact congrArg Span.mk (Nat.le_zero.mp longest)

end RetryPolicy

end TeacherDirectory
