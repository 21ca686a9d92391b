import Mathlib.Data.List.Basic
import TeacherDirectory.Proofs.Metrics
import TeacherDirectory.Proofs.Program.Trace
import TeacherDirectory.Retry.Run

/-!
# Retrying as a bounded search for the first success

An operation gives any sequence of attempts, each with the steps that it took and its outcome. Retrying
makes the attempts up to the first that succeeds, or as many as the policy allows if none of them does,
and ends as the last of them. Between the steps of the attempts stand only those that count and log an
outcome and the waits, so the whole trace of a retry is written down here in terms of its attempts.
-/

namespace TeacherDirectory.RetryPolicy

set_option autoImplicit false

open Program

structure Trial (Result : Type) where
  steps : List Step
  outcome : Except ServiceError Result

/-- Of a sequence of outcomes this is the last one that counts: all before it are failures, and it is a
success or as far as the search may go. -/
structure EndsAt {Result : Type} (limit : Nat) (outcomes : Nat → Except ServiceError Result)
    (last : Nat) : Prop where
  allowed : last ≤ limit
  failed : ∀ number < last, ∃ failure, outcomes number = .error failure
  final : (∃ value, outcomes last = .ok value) ∨ last = limit

section Transcript

variable {Result : Type} (policy : RetryPolicy) (operation : String)

/-- The event of a failed attempt. Attempts are counted from zero and logged from one. -/
def failureEvent (number : Nat) (failure : ServiceError) : LogEvent :=
  ⟨.warn, s!"Attempt {(UInt32.ofNat number + 1).toNat} failed",
    [("operation", operation), ("error", failure.message), ("kind", failure.kind)]⟩

def noted (number : Nat) : Except ServiceError Result → List Step
  | .ok _ => [⟨.count (.finished operation true), ()⟩]
  | .error failure =>
      [⟨.count (.failedAttempt operation), ()⟩, ⟨.log (failureEvent operation number failure), ()⟩]

def waited (number : Nat) : List Step :=
  let delay := policy.delayAfter (.ofNat number)
  if delay = .zero then [] else [⟨.wait delay, ()⟩]

def givenUp : Except ServiceError Result → List Step
  | .ok _ => []
  | .error _ => [⟨.count (.finished operation false), ()⟩]

/-- All steps from one attempt to the last one. A wait follows each of them but the last. -/
def transcript (trials : Nat → Trial Result) (first last : Nat) : List Step :=
  ((List.range' first (last - first)).flatMap fun number =>
    (trials number).steps ++ noted operation number (trials number).outcome ++
      policy.waited number) ++
    ((trials last).steps ++ noted operation last (trials last).outcome ++
      givenUp operation (trials last).outcome)

def ownSteps (trials : Nat → Trial Result) (last : Nat) : List Step :=
  (List.range' 0 (last + 1)).flatMap fun number => (trials number).steps

end Transcript

variable {Result : Type} {policy : RetryPolicy} {operation : String}

theorem ends_at_unique {limit last other : Nat} {outcomes : Nat → Except ServiceError Result}
    (ends : EndsAt limit outcomes last) (otherEnds : EndsAt limit outcomes other) : last = other := by
  -- The earlier one of two ends would be a failure, and not as far as the search may go.
  have notBefore {early late : Nat} (earlyEnds : EndsAt limit outcomes early)
      (lateEnds : EndsAt limit outcomes late) : ¬early < late := by
    intro before
    rcases earlyEnds.final with ⟨value, succeeded⟩ | same
    · obtain ⟨failure, failed⟩ := lateEnds.failed early before
      rw [succeeded] at failed
      cases failed
    · exact Nat.lt_irrefl limit (Nat.lt_of_lt_of_le (same ▸ before) lateEnds.allowed)
  exact Nat.le_antisymm (Nat.not_lt.mp (notBefore otherEnds ends))
    (Nat.not_lt.mp (notBefore ends otherEnds))

theorem exists_end (limit : Nat) (outcomes : Nat → Except ServiceError Result) :
    ∃ last, EndsAt limit outcomes last := by
  induction limit generalizing outcomes with
  | zero => exact ⟨0, Nat.le_refl 0, nofun, .inr rfl⟩
  | succ limit induction =>
      cases first : outcomes 0 with
      | ok value => exact ⟨0, Nat.zero_le _, nofun, .inl ⟨value, first⟩⟩
      | error failure =>
          obtain ⟨last, ends⟩ := induction fun number => outcomes (number + 1)
          refine ⟨last + 1, Nat.succ_le_succ ends.allowed, fun number before => ?_,
            ends.final.imp_right (congrArg (· + 1))⟩
          cases number with
          | zero => exact ⟨failure, first⟩
          | succ number => exact ends.failed number (Nat.lt_of_succ_lt_succ before)

section Steps

variable {trials others : Nat → Trial Result} {first last : Nat}

theorem transcript_single (trials : Nat → Trial Result) :
    policy.transcript operation trials last last =
      (trials last).steps ++ noted operation last (trials last).outcome ++
        givenUp operation (trials last).outcome := by
  simp [transcript]

theorem transcript_first (before : first < last) : policy.transcript operation trials first last =
    (trials first).steps ++ noted operation first (trials first).outcome ++ policy.waited first ++
      policy.transcript operation trials (first + 1) last := by
  have length : last - first = last - (first + 1) + 1 := by omega
  unfold transcript
  rw [length, List.range'_succ, List.flatMap_cons]
  simp only [List.append_assoc]

theorem transcript_congr (before : first ≤ last)
    (same : ∀ number, first ≤ number → number ≤ last → trials number = others number) :
    policy.transcript operation trials first last =
      policy.transcript operation others first last := by
  unfold transcript
  rw [same last before (Nat.le_refl last)]
  refine congrArg (· ++ _) (List.flatMap_congr fun number member => ?_)
  obtain ⟨_, _⟩ := List.mem_range'_1.mp member
  rw [same number (by omega) (by omega)]

theorem attempt_once_takes {once : Attempt Result} {attempt : UInt32} {steps : List Step}
    {outcome : Except ServiceError Result} :
    (attemptOnce operation once attempt).Takes steps outcome ↔
      ∃ own, once.run.Takes own outcome ∧ steps = own ++ noted operation attempt.toNat outcome := by
  unfold attemptOnce
  rw [takes_bind]
  constructor
  · intro given
    rcases given with ⟨own, later, result, rfl, taken, ended⟩
    cases result with
    | ok value =>
        rcases ended with ⟨_, _, rfl, rfl, rfl⟩
        exact ⟨own, taken, rfl⟩
    | error failure =>
        rcases ended with ⟨_, _, rfl, _, _, rfl, rfl, rfl⟩
        refine ⟨own, taken, ?_⟩
        simp [noted, failureEvent]
  · intro given
    rcases given with ⟨own, taken, rfl⟩
    refine ⟨own, _, outcome, rfl, taken, ?_⟩
    cases outcome with
    | ok value => exact ⟨(), [], rfl, rfl, rfl⟩
    | error failure => exact ⟨(), _, rfl, (), [], by simp [failureEvent], rfl, rfl⟩

theorem pause_takes {attempt : UInt32} {steps : List Step} {answer : Unit} :
    (policy.pause attempt).Takes steps answer ↔ steps = policy.waited attempt.toNat := by
  unfold waited
  rw [UInt32.ofNat_toNat]
  simp only [pause]
  split
  · exact (takes_pure () steps answer).trans (and_iff_left rfl)
  · exact takes_ask (.wait (policy.delayAfter attempt)) steps answer

end Steps

structure Searches (policy : RetryPolicy) (operation : String) (once : Nat → Attempt Result)
    (first limit : Nat) (trials : Nat → Trial Result) (last : Nat) (steps : List Step)
    (outcome : Except ServiceError Result) : Prop where
  started : first ≤ last
  allowed : last ≤ limit
  failed : ∀ number, first ≤ number → number < last →
    ∃ failure, (trials number).outcome = .error failure
  final : (∃ value, (trials last).outcome = .ok value) ∨ last = limit
  made : ∀ number, first ≤ number → number ≤ last →
    (once number).run.Takes (trials number).steps (trials number).outcome
  steps : steps = policy.transcript operation trials first last
  outcome : outcome = (trials last).outcome

namespace Searches

variable {once : Nat → Attempt Result} {trials : Nat → Trial Result}
  {first limit last : Nat} {steps : List Step} {outcome : Except ServiceError Result}

theorem single {own : List Step} (within : first ≤ limit)
    (taken : (once first).run.Takes own outcome)
    (final : (∃ value, outcome = .ok value) ∨ first = limit) :
    Searches policy operation once first limit (fun _ => ⟨own, outcome⟩) first
      (own ++ noted operation first outcome ++ givenUp operation outcome) outcome where
  started := Nat.le_refl first
  allowed := within
  failed := fun _ after before => absurd before (Nat.not_lt.mpr after)
  final := final
  made := fun _ after before => Nat.le_antisymm before after ▸ taken
  steps := (transcript_single fun _ => ⟨own, outcome⟩).symm
  outcome := rfl

theorem cons {own rest : List Step} {failure : ServiceError}
    (taken : (once first).run.Takes own (.error failure))
    (search : Searches policy operation once (first + 1) limit trials last rest outcome) :
    Searches policy operation once first limit
      (fun number => if number = first then ⟨own, .error failure⟩ else trials number) last
      (own ++ noted operation first (.error failure : Except ServiceError Result) ++
        policy.waited first ++ rest) outcome := by
  have later (number : Nat) (after : first + 1 ≤ number) :
      (if number = first then ⟨own, .error failure⟩ else trials number) = trials number :=
    if_neg (Nat.ne_of_gt after)
  refine ⟨Nat.le_of_succ_le search.started, search.allowed, fun number after before => ?failed, ?final,
    fun number after before => ?made, ?steps, ?outcome⟩
  case failed =>
    rcases Nat.eq_or_lt_of_le after with rfl | beyond
    · exact ⟨failure, by rw [if_pos rfl]⟩
    · rw [later number beyond]
      exact search.failed number beyond before
  case final =>
    rw [later last search.started]
    exact search.final
  case made =>
    rcases Nat.eq_or_lt_of_le after with rfl | beyond
    · rw [if_pos rfl]
      exact taken
    · rw [later number beyond]
      exact search.made number beyond before
  case steps =>
    rw [transcript_first search.started, if_pos rfl, search.steps]
    refine congrArg (_ ++ ·) (transcript_congr search.started fun number after _ => ?_)
    exact (later number after).symm
  case outcome =>
    rw [later last search.started]
    exact search.outcome

theorem cases_first (search : Searches policy operation once first limit trials last steps outcome) :
    (∃ own, (once first).run.Takes own outcome ∧
      ((∃ value, outcome = .ok value) ∨ first = limit) ∧
      steps = own ++ noted operation first outcome ++ givenUp operation outcome) ∨
    ∃ own failure rest, (once first).run.Takes own (.error failure) ∧
      Searches policy operation once (first + 1) limit trials last rest outcome ∧
      steps = own ++ noted operation first (.error failure : Except ServiceError Result) ++
        policy.waited first ++ rest := by
  rcases search with ⟨started, allowed, failed, final, made, rfl, rfl⟩
  rcases Nat.eq_or_lt_of_le started with rfl | before
  · exact .inl ⟨_, made first started started, final, transcript_single trials⟩
  · obtain ⟨failure, first_failed⟩ := failed first (Nat.le_refl first) before
    refine .inr ⟨(trials first).steps, failure, _, ?_, ⟨before, allowed, ?_, final, ?_, rfl, rfl⟩, ?_⟩
    · exact first_failed ▸ made first (Nat.le_refl first) started
    · exact fun number after => failed number (Nat.le_of_succ_le after)
    · exact fun number after => made number (Nat.le_of_succ_le after)
    · rw [transcript_first before, first_failed]

end Searches

section Loop

variable {once : Nat → Attempt Result} {attempt : UInt32} {left : Nat} {steps : List Step}
  {outcome : Except ServiceError Result}

theorem retry_last_takes :
    (policy.retryFrom operation once attempt 0).Takes steps outcome ↔
      ∃ own, (once attempt.toNat).run.Takes own outcome ∧
        steps = own ++ noted operation attempt.toNat outcome ++ givenUp operation outcome := by
  unfold retryFrom
  rw [takes_bind]
  constructor
  · intro given
    rcases given with ⟨tried, later, result, rfl, attempted, ended⟩
    obtain ⟨own, taken, rfl⟩ := attempt_once_takes.mp attempted
    cases result with
    | ok value =>
        rcases ended with ⟨rfl, rfl⟩
        exact ⟨own, taken, rfl⟩
    | error failure =>
        rcases ended with ⟨_, _, rfl, rfl, rfl⟩
        exact ⟨own, taken, rfl⟩
  · intro given
    rcases given with ⟨own, taken, rfl⟩
    refine ⟨_, _, outcome, rfl, attempt_once_takes.mpr ⟨own, taken, rfl⟩, ?_⟩
    cases outcome with
    | ok value => exact ⟨rfl, rfl⟩
    | error failure => exact ⟨(), [], rfl, rfl, rfl⟩

theorem retry_more_takes :
    (policy.retryFrom operation once attempt (left + 1)).Takes steps outcome ↔
      (∃ own, (once attempt.toNat).run.Takes own outcome ∧ (∃ value, outcome = .ok value) ∧
        steps = own ++ noted operation attempt.toNat outcome ++ givenUp operation outcome) ∨
      ∃ own failure rest, (once attempt.toNat).run.Takes own (.error failure) ∧
        (policy.retryFrom operation once (attempt + 1) left).Takes rest outcome ∧
        steps = own ++ noted operation attempt.toNat (.error failure : Except ServiceError Result) ++
          policy.waited attempt.toNat ++ rest := by
  rw [retryFrom, takes_bind]
  constructor
  · intro given
    rcases given with ⟨tried, later, result, rfl, attempted, ended⟩
    obtain ⟨own, taken, rfl⟩ := attempt_once_takes.mp attempted
    cases result with
    | ok value =>
        rcases ended with ⟨rfl, rfl⟩
        exact .inl ⟨own, taken, ⟨value, rfl⟩, rfl⟩
    | error failure =>
        obtain ⟨wait, rest, _, rfl, paused, again⟩ := (takes_bind _ _ _ _).mp ended
        obtain rfl := pause_takes.mp paused
        exact .inr ⟨own, failure, rest, taken, again, (List.append_assoc _ _ rest).symm⟩
  · intro given
    rcases given with ⟨own, taken, ⟨value, rfl⟩, rfl⟩ | ⟨own, failure, rest, taken, again, rfl⟩
    · exact ⟨_, _, _, rfl, attempt_once_takes.mpr ⟨own, taken, rfl⟩, rfl, rfl⟩
    · rw [List.append_assoc _ _ rest]
      refine ⟨_, _, _, rfl, attempt_once_takes.mpr ⟨own, taken, rfl⟩, ?_⟩
      exact (takes_bind _ _ _ _).mpr ⟨_, rest, (), rfl, pause_takes.mpr rfl, again⟩

/-- Whatever the attempts do, the traces of a retry are those of searches. The induction is on the
retries left; the number of an attempt never leaves its 32 bits, since the budget does not either. -/
theorem retry_from_takes (bounded : attempt.toNat + left < UInt32.size) :
    (policy.retryFrom operation once attempt left).Takes steps outcome ↔
      ∃ trials last, Searches policy operation once attempt.toNat (attempt.toNat + left) trials last
        steps outcome := by
  induction left generalizing attempt steps with
  | zero =>
      rw [retry_last_takes]
      constructor
      · intro given
        rcases given with ⟨own, taken, rfl⟩
        exact ⟨_, _, .single (Nat.le_refl _) taken (.inr rfl)⟩
      · intro given
        rcases given with ⟨trials, last, search⟩
        obtain ⟨own, taken, -, same⟩ | ⟨_, _, _, _, others, -⟩ := search.cases_first
        · exact ⟨own, taken, same⟩
        · have impossible := Nat.le_trans others.started others.allowed
          omega
  | succ left induction =>
      have next : (attempt + 1).toNat = attempt.toNat + 1 := by
        have fits : attempt.toNat + 1 < UInt32.size := by omega
        rw [UInt32.toNat_add]
        exact Nat.mod_eq_of_lt fits
      have limit : (attempt + 1).toNat + left = attempt.toNat + (left + 1) := by omega
      have fits : (attempt + 1).toNat + left < UInt32.size := by omega
      have onward (rest : List Step) :
          (policy.retryFrom operation once (attempt + 1) left).Takes rest outcome ↔
            ∃ trials last, Searches policy operation once (attempt.toNat + 1)
              (attempt.toNat + (left + 1)) trials last rest outcome := by
        rw [← limit, ← next]
        exact induction fits
      rw [retry_more_takes]
      constructor
      · intro given
        rcases given with ⟨own, taken, succeeded, rfl⟩ | ⟨own, failure, rest, taken, again, rfl⟩
        · exact ⟨_, _, .single (Nat.le_add_right _ _) taken (.inl succeeded)⟩
        · obtain ⟨trials, last, search⟩ := (onward rest).mp again
          exact ⟨_, last, .cons taken search⟩
      · intro given
        rcases given with ⟨trials, last, search⟩
        obtain ⟨own, taken, final, same⟩ | ⟨own, failure, rest, taken, others, same⟩ :=
          search.cases_first
        · exact .inl ⟨own, taken, final.resolve_right (by omega), same⟩
        · exact .inr ⟨own, failure, rest, taken, (onward rest).mpr ⟨trials, last, others⟩, same⟩

end Loop

section Counting

variable {trials : Nat → Trial Result} {last : Nat} {series : Series}

theorem noted_countings (number : Nat) (outcome : Except ServiceError Result) :
    countings series (noted operation number outcome) =
      if outcome.isOk then countings series [⟨.count (.finished operation true), ()⟩]
      else countings series [⟨.count (.failedAttempt operation), ()⟩] := by
  cases outcome <;> rfl

theorem waited_countings (number : Nat) : countings series (policy.waited number) = 0 := by
  unfold waited
  dsimp only
  split <;> rfl

/-- Besides the attempts themselves, every attempt before the last one counts as failed, and the last
one as its outcome says. -/
theorem transcript_countings
    (failed : ∀ number < last, ∃ failure, (trials number).outcome = .error failure) :
    countings series (policy.transcript operation trials 0 last) =
      countings series (ownSteps trials last) +
        last * countings series [⟨.count (.failedAttempt operation), ()⟩] +
        countings series (noted operation last (trials last).outcome) +
        countings series (givenUp operation (trials last).outcome) := by
  have each (numbers : List Nat) (known : ∀ number ∈ numbers, number < last) :
      countings series (numbers.flatMap fun number => (trials number).steps ++
          noted operation number (trials number).outcome ++ policy.waited number) =
        countings series (numbers.flatMap fun number => (trials number).steps) +
          numbers.length * countings series [⟨.count (.failedAttempt operation), ()⟩] := by
    induction numbers with
    | nil => simp
    | cons number rest induction =>
        obtain ⟨failure, outcome⟩ := failed number (known number List.mem_cons_self)
        have remaining := induction fun later member => known later (List.mem_cons_of_mem _ member)
        simp only [List.flatMap_cons, countings_append, noted_countings, waited_countings, remaining,
          outcome, List.length_cons, Nat.succ_mul]
        simp only [Except.isOk, Except.toBool, Bool.false_eq_true, if_false]
        omega
  unfold transcript ownSteps
  rw [Nat.sub_zero, List.range'_concat, List.flatMap_append, countings_append, countings_append,
    countings_append, countings_append, each _ fun number member => ?known]
  case known =>
    obtain ⟨-, before⟩ := List.mem_range'_1.mp member
    omega
  simp only [Nat.one_mul, Nat.zero_add, List.flatMap_cons, List.flatMap_nil, List.append_nil,
    List.length_range']
  omega

end Counting

structure Counts {Result : Type} (operation : String) (trials : Nat → Trial Result) (last : Nat)
    (before after : Recorder) : Prop where
  failed : after.total (Counter.failedAttempt operation).series =
    (before.observe (ownSteps trials last)).total (Counter.failedAttempt operation).series +
      if (trials last).outcome.isOk then last else last + 1
  finished : ∀ succeeded, after.total (Counter.finished operation succeeded).series =
    (before.observe (ownSteps trials last)).total (Counter.finished operation succeeded).series +
      if (trials last).outcome.isOk = succeeded then 1 else 0

theorem counts_transcript {trials : Nat → Trial Result} {last : Nat}
    (failed : ∀ number < last, ∃ failure, (trials number).outcome = .error failure)
    (recorder : Recorder) :
    Counts operation trials last recorder
      (recorder.observe (policy.transcript operation trials 0 last)) := by
  refine ⟨?_, fun succeeded => ?_⟩
  · simp only [Recorder.total_observe, transcript_countings failed, noted_countings,
      countings_counter, Counter.finished_not_failed]
    cases (trials last).outcome <;>
      simp [givenUp, countings_counter, Counter.finished_not_failed, Except.isOk, Except.toBool,
        Nat.add_assoc]
  · simp only [Recorder.total_observe, transcript_countings failed, noted_countings,
      countings_counter, Counter.finished_series, Counter.failed_not_finished]
    cases (trials last).outcome <;>
      simp [givenUp, countings_counter, Counter.finished_series, Except.isOk, Except.toBool,
        Nat.add_assoc]

/-- Retrying is a search for the first success, as far as the policy allows. Every sequence of outcomes
has exactly one end. The traces of a retry are the transcripts of the attempts up to that end, which
gives the result. The counters of the operation grow by the failed attempts and by the one outcome. -/
theorem retry_searches_first_success (policy : RetryPolicy) (operation : String)
    (once : Nat → Attempt Result) :
    (∀ outcomes : Nat → Except ServiceError Result,
      ∃! last, EndsAt policy.maxRetries.toNat outcomes last) ∧
    (∀ steps outcome, (policy.retry operation once).run.Takes steps outcome ↔
      ∃ (trials : Nat → Trial Result) (last : Nat),
        EndsAt policy.maxRetries.toNat (fun number => (trials number).outcome) last ∧
        (∀ number ≤ last, (once number).run.Takes (trials number).steps (trials number).outcome) ∧
        steps = policy.transcript operation trials 0 last ∧ outcome = (trials last).outcome) ∧
    ∀ (trials : Nat → Trial Result) (last : Nat),
      EndsAt policy.maxRetries.toNat (fun number => (trials number).outcome) last →
        ∀ recorder, Counts operation trials last recorder
          (recorder.observe (policy.transcript operation trials 0 last)) := by
  refine ⟨fun outcomes => ?_, fun steps outcome => ?_, fun trials last ends recorder => ?_⟩
  · obtain ⟨last, ends⟩ := exists_end policy.maxRetries.toNat outcomes
    exact ⟨last, ends, fun other otherEnds => ends_at_unique otherEnds ends⟩
  · have bounded : (0 : UInt32).toNat + policy.maxRetries.toNat < UInt32.size := by
      simpa using policy.maxRetries.toNat_lt
    refine (retry_from_takes bounded).trans ⟨fun given => ?_, fun given => ?_⟩
    · rcases given with ⟨trials, last, search⟩
      refine ⟨trials, last, ⟨by simpa using search.allowed, ?_, by simpa using search.final⟩, ?_,
        search.steps, search.outcome⟩
      · exact fun number before => search.failed number (Nat.zero_le number) before
      · exact fun number within => search.made number (Nat.zero_le number) within
    · rcases given with ⟨trials, last, ends, made, rfl, rfl⟩
      refine ⟨trials, last, Nat.zero_le last, by simpa using ends.allowed, ?_,
        by simpa using ends.final, ?_, rfl, rfl⟩
      · exact fun number _ before => ends.failed number before
      · exact fun number _ within => made number within
  · exact counts_transcript ends.failed recorder

end TeacherDirectory.RetryPolicy
