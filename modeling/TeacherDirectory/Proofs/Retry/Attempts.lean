import TeacherDirectory.Proofs.Retry.FirstSuccess

/-!
# The attempts of a retry

The trace of a retry is made of the traces of its attempts: some that failed, and a last one that
decides the result. Calls and events are those of the attempts, one after the other, and every attempt
adds its own mark to what is counted.
-/

namespace TeacherDirectory.RetryPolicy

set_option autoImplicit false

open Program

variable {Result : Type}

def closing (operation : String) : Except ServiceError Result → List Counter
  | .ok _ => [.finished operation true]
  | .error _ => [.failedAttempt operation, .finished operation false]

/-- A trace of a retry, with the traces of the attempts that failed and of the last one. -/
structure Tried (retries : Nat) (operation : String) (once : Attempt Result)
    (steps : List Step) (outcome : Except ServiceError Result) (failed : List (List Step))
    (last : List Step) : Prop where
  failures : ∀ own ∈ failed, ∃ failure, once.run.Takes own (.error failure)
  final : once.run.Takes last outcome
  few : failed.length ≤ retries
  exhausted : ∀ failure, outcome = .error failure → failed.length = retries
  calls : exchanges steps = failed.flatMap exchanges ++ exchanges last
  heard : events steps = failed.flatMap events ++ events last
  counted : counters steps =
    (failed.flatMap fun own => counters own ++ [.failedAttempt operation]) ++
      (counters last ++ closing operation outcome)

variable {policy : RetryPolicy} {operation : String} {once : Attempt Result}

section Marks

theorem noted_marks (operation : String) (number : Nat) (outcome : Except ServiceError Result) :
    exchanges (noted operation number outcome ++ givenUp operation outcome) = [] ∧
      events (noted operation number outcome ++ givenUp operation outcome) = [] ∧
      counters (noted operation number outcome ++ givenUp operation outcome) =
        closing operation outcome := by
  cases outcome <;> exact ⟨rfl, rfl, rfl⟩

theorem failure_marks (Result : Type) (policy : RetryPolicy) (operation : String) (number : Nat)
    (failure : ServiceError) :
    let marks := noted operation number (.error failure : Except ServiceError Result) ++
      policy.waited number
    exchanges marks = [] ∧ events marks = [] ∧ counters marks = [.failedAttempt operation] := by
  unfold waited
  dsimp only
  split <;> exact ⟨rfl, rfl, rfl⟩

end Marks

theorem Tried.last {retries number : Nat} {own : List Step} {outcome : Except ServiceError Result}
    (taken : once.run.Takes own outcome) (none : ∀ failure, outcome = .error failure → 0 = retries) :
    Tried retries operation once
      (own ++ (noted operation number outcome ++ givenUp operation outcome)) outcome [] own := by
  obtain ⟨silent, unheard, marked⟩ := noted_marks operation number outcome
  refine ⟨List.forall_mem_nil _, taken, Nat.zero_le _, none, ?calls, ?heard, ?counted⟩
  case calls => rw [exchanges_append, silent, List.append_nil, List.flatMap_nil, List.nil_append]
  case heard => rw [events_append, unheard, List.append_nil, List.flatMap_nil, List.nil_append]
  case counted => rw [counters_append, marked, List.flatMap_nil, List.nil_append]

theorem Tried.cons {retries number : Nat} {own steps last : List Step} {failed : List (List Step)}
    {failure : ServiceError} {outcome : Except ServiceError Result}
    (taken : once.run.Takes own (.error failure))
    (tried : Tried retries operation once steps outcome failed last) :
    Tried (retries + 1) operation once
      (own ++ (noted operation number (.error failure : Except ServiceError Result) ++
        policy.waited number) ++ steps) outcome (own :: failed) last := by
  obtain ⟨silent, unheard, marked⟩ := failure_marks Result policy operation number failure
  refine ⟨List.forall_mem_cons.mpr ⟨⟨failure, taken⟩, tried.failures⟩, tried.final,
    Nat.succ_le_succ tried.few, fun failure same => congrArg (· + 1) (tried.exhausted failure same),
    ?calls, ?heard, ?counted⟩
  case calls =>
    rw [exchanges_append, exchanges_append, silent, List.append_nil, tried.calls,
      List.flatMap_cons, List.append_assoc]
  case heard =>
    rw [events_append, events_append, unheard, List.append_nil, tried.heard, List.flatMap_cons,
      List.append_assoc]
  case counted =>
    rw [counters_append, counters_append, marked, tried.counted, List.flatMap_cons,
      List.append_assoc, List.append_assoc, List.append_assoc]

/-- Every trace of a retry comes apart in this way. The induction is on the retries left. -/
theorem retry_tried {steps : List Step} {outcome : Except ServiceError Result}
    (taken : (policy.retry operation fun _ => once).run.Takes steps outcome) :
    ∃ failed last, Tried policy.maxRetries.toNat operation once steps outcome failed last := by
  change (policy.retryFrom operation (fun _ => once) 0 policy.maxRetries.toNat).Takes steps outcome
    at taken
  generalize (0 : UInt32) = attempt at taken
  generalize policy.maxRetries.toNat = left at taken ⊢
  induction left generalizing attempt steps with
  | zero =>
      obtain ⟨own, tried, rfl⟩ := retry_last_takes.mp taken
      rw [List.append_assoc]
      exact ⟨[], own, .last tried fun _ _ => rfl⟩
  | succ left induction =>
      obtain ⟨own, tried, ⟨value, rfl⟩, rfl⟩ | ⟨own, failure, rest, tried, again, rfl⟩ :=
        retry_more_takes.mp taken
      · rw [List.append_assoc]
        exact ⟨[], own, .last tried nofun⟩
      · obtain ⟨failed, last, others⟩ := induction (attempt + 1) again
        rw [List.append_assoc own]
        exact ⟨own :: failed, last, .cons tried others⟩

end TeacherDirectory.RetryPolicy
