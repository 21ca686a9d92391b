import TeacherDirectory.Proofs.Program.Rule

/-!
# Invariants of retrying

What every failed attempt keeps holds before each attempt, so an attempt that starts from it decides
what is ensured of the whole operation. An invariant may also count the attempts that are left, which
bounds how often something happens, and tells when the last attempt comes.
-/

namespace TeacherDirectory.RetryPolicy

set_option autoImplicit false

variable {Result State : Type} {rule : CallRule State}

theorem ensures_attempt_once {operation : String} {once : Attempt Result} {attempt : UInt32}
    {post : Except ServiceError Result → State → Prop} {before : State}
    (ensured : once.run.Ensures rule post before) :
    (attemptOnce operation once attempt).Ensures rule post before := by
  unfold attemptOnce
  rw [Program.ensures_bind]
  refine ensured.weaken fun outcome after holds => ?_
  cases outcome with
  | ok value =>
      simp only [Program.ensures_bind, Program.ensures_count, Program.ensures_pure]
      exact holds
  | error failure =>
      simp only [Program.ensures_bind, Program.ensures_count, Program.ensures_log,
        Program.ensures_pure]
      exact holds

theorem ensures_pause {policy : RetryPolicy} {attempt : UInt32} {post : Unit → State → Prop}
    {before : State} (holds : post () before) :
    (policy.pause attempt).Ensures rule post before := by
  simp only [pause]
  split
  · exact Program.ensures_pure.mpr holds
  · exact Program.ensures_wait.mpr holds

/-- The counting rule of retrying. The invariant tells how many attempts are left, so it bounds what
all of them together can do, and a last attempt that cannot fail needs no error. The induction is on
the retries left; `each` is used once for every attempt. -/
theorem ensures_retry_counted {policy : RetryPolicy} {operation : String}
    {once : Nat → Attempt Result} {good : Result → State → Prop} {bad : ServiceError → State → Prop}
    {before : State} (invariant : Nat → State → Prop)
    (start : invariant (policy.maxRetries.toNat + 1) before)
    (each : ∀ number left state, invariant (left + 1) state →
      (once number).Ensures rule good
        (fun failure after => invariant left after ∧ (left = 0 → bad failure after)) state) :
    (policy.retry operation once).Ensures rule good bad before := by
  unfold retry
  rw [Attempt.ensures_mk]
  generalize (0 : UInt32) = attempt
  generalize policy.maxRetries.toNat = left at start ⊢
  induction left generalizing attempt before with
  | zero =>
      unfold retryFrom
      rw [Program.ensures_bind]
      refine ensures_attempt_once (Program.Ensures.weaken (each _ 0 before start) ?_)
      intro outcome after holds
      cases outcome with
      | ok value => exact Program.ensures_pure.mpr holds
      | error failure =>
          simp only [Program.ensures_bind, Program.ensures_count, Program.ensures_pure]
          exact holds.2 rfl
  | succ left induction =>
      unfold retryFrom
      rw [Program.ensures_bind]
      refine ensures_attempt_once (Program.Ensures.weaken (each _ (left + 1) before start) ?_)
      intro outcome after holds
      cases outcome with
      | ok value => exact Program.ensures_pure.mpr holds
      | error failure =>
          simp only [Program.ensures_bind]
          exact ensures_pause (induction _ holds.1)

theorem ensures_retry {policy : RetryPolicy} {operation : String} {once : Nat → Attempt Result}
    {good : Result → State → Prop} {bad : ServiceError → State → Prop} {before : State}
    (invariant : State → Prop) (start : invariant before)
    (each : ∀ number state, invariant state →
      (once number).Ensures rule good (fun failure after => invariant after ∧ bad failure after)
        state) :
    (policy.retry operation once).Ensures rule good bad before :=
  ensures_retry_counted (fun _ => invariant) start fun number _ state holds =>
    (each number state holds).weaken (fun _ _ ended => ended)
      fun _ _ ended => ⟨ended.1, fun _ => ended.2⟩

theorem ensures_retry_unmoved {policy : RetryPolicy} {operation : String}
    {once : Nat → Attempt Result} {good : Result → State → Prop} {bad : ServiceError → State → Prop}
    {before : State}
    (each : ∀ number, (once number).Ensures rule good
      (fun failure after => after = before ∧ bad failure after) before) :
    (policy.retry operation once).Ensures rule good
      (fun failure after => after = before ∧ bad failure after) before := by
  apply ensures_retry (· = before) rfl
  intro number _ same
  subst same
  exact (each number).weaken (fun _ _ holds => holds) fun _ _ failed => ⟨failed.1, failed⟩

theorem ensures_retry_certain {policy : RetryPolicy} {operation : String}
    {once : Nat → Attempt Result} {good : Result → State → Prop} {bad : ServiceError → State → Prop}
    {before : State}
    (certain : ∀ number, (once number).Ensures rule good (fun _ _ => False) before) :
    (policy.retry operation once).Ensures rule good bad before := by
  have unmoved : (policy.retry operation once).Ensures rule good
      (fun _ after => after = before ∧ False) before :=
    ensures_retry_unmoved fun number =>
      (certain number).weaken (fun _ _ holds => holds) fun _ _ failed => failed.elim
  exact unmoved.weaken (fun _ _ holds => holds) fun _ _ failed => failed.2.elim

/-- Where a second attempt cannot fail, one retry is enough. Failures of the first attempt that no
retry makes good are told apart; they stay as they are. -/
theorem ensures_second_chance {policy : RetryPolicy} {operation : String}
    {once : Nat → Attempt Result} {good : Result → State → Prop} {bad : ServiceError → State → Prop}
    {before : State} (pending stuck : State → Prop) (retries : 1 ≤ policy.maxRetries.toNat)
    (first : ∀ number,
      (once number).Ensures rule good (fun _ after => pending after ∨ stuck after) before)
    (second : ∀ number state, pending state →
      (once number).Ensures rule good (fun _ _ => False) state)
    (further : ∀ number state, stuck state →
      (once number).Ensures rule good (fun failure after => stuck after ∧ bad failure after) state) :
    (policy.retry operation once).Ensures rule good bad before := by
  -- With no attempt left, the operation has ended or is stuck.
  let invariant (left : Nat) (state : State) : Prop :=
    (state = before ∧ 2 ≤ left) ∨ (pending state ∧ 1 ≤ left) ∨ stuck state
  refine ensures_retry_counted invariant (.inl ⟨rfl, by omega⟩) fun number left state holds => ?_
  rcases holds with ⟨rfl, enough⟩ | ⟨ready, -⟩ | lost
  · refine (first number).weaken (fun _ _ ended => ended) fun failure after failed => ?_
    exact ⟨.inr (failed.imp_left fun ready => ⟨ready, by omega⟩), fun none => by omega⟩
  · exact (second number state ready).weaken (fun _ _ ended => ended) fun _ _ impossible =>
      impossible.elim
  · exact (further number state lost).weaken (fun _ _ ended => ended) fun _ _ failed =>
      ⟨.inr (.inr failed.1), fun _ => failed.2⟩

end TeacherDirectory.RetryPolicy
