import TeacherDirectory.Proofs.Program.Trace
import TeacherDirectory.Proofs.Retry.Delays
import TeacherDirectory.Retry.Run

/-!
# The last attempt of a retry

A retry that succeeds does so with its last attempt. Whatever came before, another success of that
attempt would have ended the retry in the same way.
-/

namespace TeacherDirectory.RetryPolicy

set_option autoImplicit false

open Program

variable {Result : Type} {policy : RetryPolicy} {operation : String} {history : List Exchange}

theorem attempt_once_yields {once : Attempt Result} {attempt : UInt32}
    {outcome : Except ServiceError Result} :
    (attemptOnce operation once attempt).Yields history outcome ↔
      once.run.Yields history outcome := by
  unfold attemptOnce
  rw [yields_bind]
  constructor
  · intro given
    rcases given with ⟨own, later, result, rfl, taken, ended⟩
    cases result with
    | ok value =>
        dsimp only at ended
        rw [yields_count_bind, yields_pure] at ended
        rcases ended with ⟨rfl, rfl⟩
        rwa [List.append_nil]
    | error failure =>
        dsimp only at ended
        rw [yields_count_bind, yields_log_bind, yields_pure] at ended
        rcases ended with ⟨rfl, rfl⟩
        rwa [List.append_nil]
  · intro taken
    refine ⟨history, [], outcome, (List.append_nil history).symm, taken, ?_⟩
    cases outcome with
    | ok value =>
        dsimp only
        rw [yields_count_bind, yields_pure]
        exact ⟨rfl, rfl⟩
    | error failure =>
        dsimp only
        rw [yields_count_bind, yields_log_bind, yields_pure]
        exact ⟨rfl, rfl⟩

theorem pause_yields {attempt : UInt32} {answer : Unit} :
    (policy.pause attempt).Yields history answer ↔ history = [] := by
  simp only [pause]
  split
  · exact yields_pure.trans (and_iff_left rfl)
  · exact yields_ask.trans eq_comm

theorem pause_immediate (retries attempt : UInt32) :
    (immediate retries).pause attempt = pure () := by
  unfold pause
  rw [delay_none rfl]
  rfl

/-- A retry that succeeds ends with an attempt that succeeds, and with any other success of that
attempt it would have succeeded as well. The induction is on the retries left. -/
theorem retry_yields_success {once : Nat → Attempt Result} {value : Result}
    (yielded : (policy.retry operation once).run.Yields history (.ok value)) :
    ∃ earlier last number, history = earlier ++ last ∧
      (once number).run.Yields last (.ok value) ∧
      ∀ others other, (once number).run.Yields others (.ok other) →
        (policy.retry operation once).run.Yields (earlier ++ others) (.ok other) := by
  have ends (attempt : UInt32) (left : Nat) {others : List Exchange} {other : Result}
      (succeeds : (once attempt.toNat).run.Yields others (.ok other)) :
      (policy.retryFrom operation once attempt left).Yields others (.ok other) := by
    have closes : (pure (.ok other) : Program (Except ServiceError Result)).Yields [] (.ok other) :=
      yields_pure.mpr ⟨rfl, rfl⟩
    cases left <;>
      exact yields_bind.mpr ⟨others, [], .ok other, (List.append_nil others).symm,
        attempt_once_yields.mpr succeeds, closes⟩
  unfold retry at yielded ⊢
  rw [ExceptT.run_mk] at yielded ⊢
  generalize (0 : UInt32) = attempt at yielded ⊢
  generalize policy.maxRetries.toNat = left at yielded ⊢
  induction left generalizing attempt history with
  | zero =>
      unfold retryFrom at yielded
      obtain ⟨own, later, outcome, rfl, attempted, ended⟩ := yields_bind.mp yielded
      cases outcome with
      | ok _ =>
          obtain ⟨rfl, same⟩ := yields_pure.mp ended
          cases same
          exact ⟨[], own, attempt.toNat, by simp, attempt_once_yields.mp attempted,
            fun others other succeeds => ends attempt 0 succeeds⟩
      | error failure =>
          dsimp only at ended
          rw [yields_count_bind, yields_pure] at ended
          rcases ended with ⟨-, impossible⟩
          cases impossible
  | succ left induction =>
      unfold retryFrom at yielded
      obtain ⟨own, later, outcome, rfl, attempted, ended⟩ := yields_bind.mp yielded
      cases outcome with
      | ok _ =>
          obtain ⟨rfl, same⟩ := yields_pure.mp ended
          cases same
          exact ⟨[], own, attempt.toNat, by simp, attempt_once_yields.mp attempted,
            fun others other succeeds => ends attempt (left + 1) succeeds⟩
      | error failure =>
          obtain ⟨_, retried, _, rfl, paused, again⟩ := yields_bind.mp ended
          obtain rfl := pause_yields.mp paused
          obtain ⟨earlier, last, number, rfl, succeeded, replaced⟩ := induction (attempt + 1) again
          refine ⟨own ++ earlier, last, number, by simp, succeeded, fun others other succeeds => ?_⟩
          unfold retryFrom
          exact yields_bind.mpr ⟨own, earlier ++ others, .error failure,
            List.append_assoc own earlier others, attempted,
            yields_bind.mpr ⟨[], earlier ++ others, (), rfl, pause_yields.mpr rfl,
              replaced others other succeeds⟩⟩

end TeacherDirectory.RetryPolicy
