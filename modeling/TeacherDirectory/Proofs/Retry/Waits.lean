import TeacherDirectory.Proofs.Retry.Delays
import TeacherDirectory.Proofs.Retry.FirstSuccess

/-!
# The waits of a retry

A retry waits after failed attempts only, and not after the last one. How long it waits follows from
the number of the attempt alone, so the waits of a retry that fails are known from its policy.
-/

namespace TeacherDirectory.RetryPolicy

set_option autoImplicit false

open Program

variable {Result : Type} {policy : RetryPolicy} {operation : String}

/-- The waits after the first attempts if so many of them fail. A policy may have none for some. -/
def pauses (policy : RetryPolicy) (failures : Nat) : List Span :=
  ((List.range failures).map fun number => policy.delayAfter (.ofNat number)).filter (· ≠ .zero)

theorem waited_waits (number : Nat) :
    waits (policy.waited number) =
      [policy.delayAfter (.ofNat number)].filter (· ≠ .zero) := by
  unfold waited
  by_cases none : policy.delayAfter (.ofNat number) = .zero
  · rw [none]
    rfl
  · rw [if_neg none, List.filter_cons_of_pos (by simpa using none)]
    rfl

theorem noted_waits (number : Nat) (outcome : Except ServiceError Result) :
    waits (noted operation number outcome) = [] := by
  cases outcome <;> rfl

theorem given_up_waits (outcome : Except ServiceError Result) :
    waits (givenUp operation outcome) = [] := by
  cases outcome <;> rfl

theorem transcript_waits {trials : Nat → Trial Result} {last : Nat}
    (quiet : ∀ number ≤ last, waits (trials number).steps = []) :
    waits (policy.transcript operation trials 0 last) = policy.pauses last := by
  have each : ∀ number ∈ List.range last,
      waits ((trials number).steps ++ noted operation number (trials number).outcome ++
          policy.waited number) = [policy.delayAfter (.ofNat number)].filter (· ≠ .zero) := by
    intro number member
    have before : number ≤ last := Nat.le_of_lt (List.mem_range.mp member)
    rw [waits_append, waits_append, quiet number before, noted_waits, waited_waits]
    rfl
  -- What is left of the attempts before the last one is the filtered delay of each.
  unfold transcript pauses
  rw [waits_append, waits_append, waits_append, quiet last (Nat.le_refl last), noted_waits,
    given_up_waits, Nat.sub_zero, ← List.range_eq_range']
  simp only [List.append_nil]
  rw [List.map_eq_flatMap, List.filter_flatMap, ← List.flatMap_congr each]
  exact List.filterMap_flatMap

/-- A retry of attempts that do not wait themselves waits after those that failed, and if all of
them fail, after all but the last one. -/
theorem retry_waits {once : Nat → Attempt Result}
    (quiet : ∀ number own outcome, (once number).run.Takes own outcome → waits own = [])
    {steps : List Step} {outcome : Except ServiceError Result}
    (taken : (policy.retry operation once).run.Takes steps outcome) :
    ∃ failures ≤ policy.maxRetries.toNat, waits steps = policy.pauses failures ∧
      ∀ failure, outcome = .error failure → failures = policy.maxRetries.toNat := by
  have bounded : (0 : UInt32).toNat + policy.maxRetries.toNat < UInt32.size := by
    simpa using policy.maxRetries.toNat_lt
  obtain ⟨trials, last, search⟩ := (retry_from_takes bounded).mp taken
  refine ⟨last, by simpa using search.allowed, ?_, fun failure failed => ?_⟩
  · rw [search.steps]
    exact transcript_waits fun number within =>
      quiet number _ _ (search.made number number.zero_le within)
  · rcases search.final with ⟨value, succeeded⟩ | spent
    · cases failed.symm.trans (search.outcome.trans succeeded)
    · simpa using spent

theorem pauses_total (policy : RetryPolicy) (failures : Nat) :
    Span.total (policy.pauses failures) ≤ failures * policy.maxDelay.nanoseconds := by
  have each : ∀ span ∈ policy.pauses failures,
      span.nanoseconds ≤ policy.maxDelay.nanoseconds := by
    intro span member
    rcases List.mem_map.mp (List.mem_of_mem_filter member) with ⟨number, -, rfl⟩
    exact policy.delay_at_most _
  have few : (policy.pauses failures).length ≤ failures := by
    have kept := List.length_filter_le (· ≠ Span.zero)
      ((List.range failures).map fun number => policy.delayAfter (.ofNat number))
    rwa [List.length_map, List.length_range] at kept
  exact Nat.le_trans (Span.total_at_most each) (Nat.mul_le_mul_right _ few)

theorem pauses_none (none : policy.maxDelay = .zero) (failures : Nat) :
    policy.pauses failures = [] := by
  apply List.filter_eq_nil_iff.mpr
  intro span member
  rcases List.mem_map.mp member with ⟨number, -, rfl⟩
  simp [delay_none none]

/-- The waits of a retry are within its budget, whatever its attempts come to. -/
theorem retry_waits_within {once : Nat → Attempt Result}
    (quiet : ∀ number own outcome, (once number).run.Takes own outcome → waits own = [])
    {steps : List Step} {outcome : Except ServiceError Result}
    (taken : (policy.retry operation once).run.Takes steps outcome) :
    Span.total (waits steps) ≤ policy.maxRetries.toNat * policy.maxDelay.nanoseconds := by
  obtain ⟨failures, few, same, -⟩ := retry_waits quiet taken
  rw [same]
  exact Nat.le_trans (policy.pauses_total failures) (Nat.mul_le_mul_right _ few)

end TeacherDirectory.RetryPolicy
