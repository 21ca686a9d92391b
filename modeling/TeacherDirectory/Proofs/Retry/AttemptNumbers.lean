import TeacherDirectory.Proofs.Retry.FirstSuccess

/-!
# The numbers of attempts

The number of an attempt is a word, as the greatest number of retries is. The next attempt is counted
only while the budget is not spent, so its number fits. A failed attempt is logged before that, with
its number counted from one; this sum leaves the word if the greatest possible budget is spent to the
end, and the last failure is then logged as the attempt with number zero.
-/

namespace TeacherDirectory.RetryPolicy

set_option autoImplicit false

open Program

variable {Result : Type} {policy : RetryPolicy} {operation : String} {once : Nat → Attempt Result}
  {trials : Nat → Trial Result} {last : Nat} {steps : List Step}
  {outcome : Except ServiceError Result}

def announced (operation : String) (number : Nat) : Except ServiceError Result → List LogEvent
  | .ok _ => []
  | .error failure => [⟨.warn, s!"Attempt {number} failed",
      [("operation", operation), ("error", failure.message), ("kind", failure.kind)]⟩]

/-- The number that an attempt is shown with, counted from one; past the greatest word it is zero. -/
def shownNumber (number : Nat) : Nat := if number + 1 = UInt32.size then 0 else number + 1

section Logs

theorem shown_number_word {number : Nat} (word : number < UInt32.size) :
    (UInt32.ofNat number + 1).toNat = shownNumber number := by
  have sum : (UInt32.ofNat number + 1).toNat = (number % UInt32.size + 1) % UInt32.size := by
    rw [UInt32.toNat_add, UInt32.toNat_ofNat']
    rfl
  rw [sum, Nat.mod_eq_of_lt word, shownNumber]
  split
  · rename_i past
    rw [past, Nat.mod_self]
  · exact Nat.mod_eq_of_lt (by omega)

theorem noted_logs {number : Nat} (word : number < UInt32.size) :
    logs (noted operation number outcome) = announced operation (shownNumber number) outcome := by
  cases outcome with
  | ok value => rfl
  | error failure =>
      rw [announced, ← shown_number_word word]
      rfl

theorem waited_logs (number : Nat) : logs (policy.waited number) = [] := by
  unfold waited
  dsimp only
  split <;> rfl

theorem given_up_logs : logs (givenUp operation outcome) = [] := by
  cases outcome <;> rfl

theorem transcript_logs (word : last < UInt32.size) :
    logs (policy.transcript operation trials 0 last) =
      (List.range (last + 1)).flatMap fun number =>
        logs (trials number).steps ++
          announced operation (shownNumber number) (trials number).outcome := by
  have each : ∀ number ∈ List.range last,
      logs ((trials number).steps ++ noted operation number (trials number).outcome ++
          policy.waited number) =
        logs (trials number).steps ++
          announced operation (shownNumber number) (trials number).outcome := by
    intro number member
    have before := List.mem_range.mp member
    rw [logs_append, logs_append, waited_logs, noted_logs (by omega), List.append_nil]
  rw [transcript, logs_append, logs_append, logs_append, noted_logs word, given_up_logs, Nat.sub_zero,
    ← List.range_eq_range', List.range_succ, List.flatMap_append, List.flatMap_singleton,
    ← List.flatMap_congr each, List.append_nil]
  exact congrArg (· ++ _) List.filterMap_flatMap

end Logs

structure Numbered (policy : RetryPolicy) (operation : String) (once : Nat → Attempt Result)
    (trials : Nat → Trial Result) (last : Nat) (steps : List Step)
    (outcome : Except ServiceError Result) : Prop where
  ends : EndsAt policy.maxRetries.toNat (fun number => (trials number).outcome) last
  made : ∀ number ≤ last, (once number).run.Takes (trials number).steps (trials number).outcome
  outcome : outcome = (trials last).outcome
  /-- The number of an attempt that is followed by another one can be increased. -/
  counted : ∀ number < last, number + 1 < UInt32.size
  /-- The number of an attempt counted from one is a word, with one exception. -/
  fits : ∀ number ≤ last, number + 1 < UInt32.size ∨
    number = last ∧ policy.maxRetries.toNat + 1 = UInt32.size
  logged : logs steps = (List.range (last + 1)).flatMap fun number =>
    logs (trials number).steps ++ announced operation (shownNumber number) (trials number).outcome

theorem max_retries_word (policy : RetryPolicy) :
    (0 : UInt32).toNat + policy.maxRetries.toNat < UInt32.size := by
  simpa using policy.maxRetries.toNat_lt

theorem retry_numbered (taken : (policy.retry operation once).run.Takes steps outcome) :
    ∃ trials last, Numbered policy operation once trials last steps outcome := by
  have word := policy.max_retries_word
  obtain ⟨trials, last, search⟩ := (retry_from_takes word).mp taken
  have allowed : last ≤ policy.maxRetries.toNat := by simpa using search.allowed
  have bounded : policy.maxRetries.toNat < UInt32.size := by simpa using word
  refine ⟨trials, last, ⟨allowed, fun number => search.failed number number.zero_le, ?_⟩,
    fun number => search.made number number.zero_le, search.outcome, fun number before => by omega,
    fun number within => by omega, ?_⟩
  · simpa using search.final
  · rw [search.steps]
    exact transcript_logs (by omega)

theorem exhausted_retry_takes
    (made : ∀ number, (once number).run.Takes (trials number).steps (trials number).outcome)
    (failed : ∀ number, ∃ failure, (trials number).outcome = .error failure) :
    (policy.retry operation once).run.Takes
      (policy.transcript operation trials 0 policy.maxRetries.toNat)
      (trials policy.maxRetries.toNat).outcome := by
  refine (retry_from_takes policy.max_retries_word).mpr ⟨trials, policy.maxRetries.toNat, ?_⟩
  exact ⟨Nat.zero_le _, by simp, fun number _ _ => failed number, .inr (by simp),
    fun number _ _ => made number, rfl, rfl⟩

/-- Every attempt has a word for its number, and every failed attempt is logged with its number counted
from one, except for the last attempt of a retry with the greatest possible budget. If that one fails,
it is logged with the number zero. -/
theorem attempts_numbered_up_to_greatest_word (policy : RetryPolicy) (operation : String)
    (once : Nat → Attempt Result) :
    (∀ steps outcome, (policy.retry operation once).run.Takes steps outcome →
      ∃ trials last, Numbered policy operation once trials last steps outcome) ∧
    (policy.maxRetries.toNat + 1 = UInt32.size → ∀ trials : Nat → Trial Result,
      (∀ number, (once number).run.Takes (trials number).steps (trials number).outcome) →
      (∀ number, ∃ failure, (trials number).outcome = .error failure) →
      let last := policy.maxRetries.toNat
      ∃ steps, (policy.retry operation once).run.Takes steps (trials last).outcome ∧
        logs steps =
          ((List.range last).flatMap fun number => logs (trials number).steps ++
            announced operation (number + 1) (trials number).outcome) ++
          (logs (trials last).steps ++ announced operation 0 (trials last).outcome)) := by
  refine ⟨fun steps outcome => retry_numbered, fun greatest trials made failed => ?_⟩
  refine ⟨_, exhausted_retry_takes made failed, ?_⟩
  have before : ∀ number ∈ List.range policy.maxRetries.toNat, shownNumber number = number + 1 := by
    intro number member
    have less := List.mem_range.mp member
    exact if_neg (by omega)
  have final : shownNumber policy.maxRetries.toNat = 0 := if_pos greatest
  rw [transcript_logs (by omega), List.range_succ, List.flatMap_append, List.flatMap_singleton, final]
  refine congrArg (· ++ _) (List.flatMap_congr fun number member => ?_)
  rw [before number member]

/-- The greatest budget that settings may name, spent on an operation that always fails: of all its
failures the last one is logged as the attempt with number zero. -/
theorem last_failure_logged_as_zeroth :
    ∃ steps before,
      ((immediate 4294967295).retry "oracle" fun _ =>
        (throw (.groupNotFound "a") : Attempt Unit)).run.Takes steps (.error (.groupNotFound "a")) ∧
      logs steps = before ++ [⟨.warn, "Attempt 0 failed",
        [("operation", "oracle"), ("error", "LDAP: Group a not found"),
          ("kind", "group_not_found")]⟩] ∧
      before.length = 4294967295 := by
  let trial : Trial Unit := ⟨[], .error (.groupNotFound "a")⟩
  have greatest : (immediate 4294967295).maxRetries.toNat + 1 = UInt32.size := rfl
  obtain ⟨steps, taken, logged⟩ :=
    (attempts_numbered_up_to_greatest_word (immediate 4294967295) "oracle" fun _ =>
      (throw (.groupNotFound "a") : Attempt Unit)).2 greatest (fun _ => trial)
      (fun _ => ⟨rfl, rfl⟩) (fun _ => ⟨_, rfl⟩)
  -- One line for each attempt but the last one.
  have lines (count : Nat) : ((List.range count).flatMap fun number =>
      logs trial.steps ++ announced "oracle" (number + 1) trial.outcome).length = count := by
    induction count with
    | zero => rfl
    | succ count induction =>
        rw [List.range_succ, List.flatMap_append, List.length_append, induction]
        rfl
  exact ⟨steps, _, taken, logged, lines _⟩

end TeacherDirectory.RetryPolicy
