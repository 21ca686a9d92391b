import TeacherDirectory.Proofs.Program.Trace

/-!
# Properties of programs in sequence

Some properties of a program follow from those of its parts, whatever stands between them: what
every trace has that is kept when traces are put together, or what effects can be performed. Such a
property is shown of each part alone. The same goes for relations between two programs that are made
of the same parts; a property is the case of a program beside itself.
-/

namespace TeacherDirectory

set_option autoImplicit false

structure Congruent (related : (Result : Type) → Program Result → Program Result → Prop) :
    Prop where
  done : ∀ {Result : Type} (value : Result), related Result (pure value) (pure value)
  sequence : ∀ {First Second : Type} {first other : Program First}
    {next following : First → Program Second}, related First first other →
      (∀ value, related Second (next value) (following value)) →
        related Second (first >>= next) (other >>= following)

structure Compositional (property : (Result : Type) → Program Result → Prop) : Prop where
  done : ∀ {Result : Type} (value : Result), property Result (pure value)
  sequence : ∀ {First Second : Type} {first : Program First} {next : First → Program Second},
    property First first → (∀ value, property Second (next value)) →
      property Second (first >>= next)

/-- A property of a program is a relation that it has to itself. -/
theorem Compositional.congruent {property : (Result : Type) → Program Result → Prop}
    (compositional : Compositional property) :
    Congruent fun Result program other => property Result program ∧ program = other where
  done value := ⟨compositional.done value, rfl⟩
  sequence earlier later :=
    ⟨compositional.sequence earlier.1 fun value => (later value).1,
      congr (congrArg _ earlier.2) (funext fun value => (later value).2)⟩

namespace Program

variable {Result : Type} {holds : List Step → Prop}

def Always (holds : List Step → Prop) (program : Program Result) : Prop :=
  ∀ steps result, program.Takes steps result → holds steps

theorem always_compositional (none : holds [])
    (append : ∀ earlier later, holds earlier → holds later → holds (earlier ++ later)) :
    Compositional fun _ program => program.Always holds where
  done _ _ _ taken := taken.1 ▸ none
  sequence {_ _ first next} earlier later steps result taken := by
    obtain ⟨before, after, value, rfl, firstTaken, nextTaken⟩ :=
      (takes_bind first next steps result).mp taken
    exact append _ _ (earlier before value firstTaken) (later value after result nextTaken)

theorem always_log {level : LogLevel} {message : String} {fields : List (String × String)}
    (holding : holds [⟨.log ⟨level, message, fields⟩, ()⟩]) :
    (log level message fields).Always holds :=
  fun steps result taken => (takes_log level message fields steps result).mp taken ▸ holding

end Program

namespace Congruent

variable {related : (Result : Type) → Program Result → Program Result → Prop}
  {First Second Result : Type}

theorem attempts (congruent : Congruent related) {first other : Attempt First}
    {next following : First → Attempt Second} (earlier : related _ first.run other.run)
    (later : ∀ value, related _ (next value).run (following value).run) :
    related _ (first >>= next).run (other >>= following).run := by
  rw [ExceptT.run_bind, ExceptT.run_bind]
  refine congruent.sequence earlier fun outcome => ?_
  cases outcome with
  | ok value => exact later value
  | error failure => exact congruent.done _

theorem lifted (congruent : Congruent related) {program other : Program Result}
    (holding : related _ program other) :
    related _ (liftM program : Attempt Result).run (liftM other : Attempt Result).run :=
  congruent.sequence holding fun value =>
    congruent.done (Except.ok value : Except ServiceError Result)

section Refusing

variable {message : String} {failure : ServiceError}

theorem refused (congruent : Congruent related)
    (logs : ∀ level message fields, related Unit (Program.log level message fields)
      (Program.log level message fields)) :
    related _ (Attempt.refuse message failure : Attempt Result).run
      (Attempt.refuse message failure : Attempt Result).run := by
  change related _ (Program.log .error message [] >>= fun _ =>
    pure (Except.error failure : Except ServiceError Result)) _
  exact congruent.sequence (logs _ _ _) fun _ => congruent.done _

theorem refused_before (congruent : Congruent related)
    (logs : ∀ level message fields, related Unit (Program.log level message fields)
      (Program.log level message fields))
    {next following : First → Attempt Second} :
    related _ (Attempt.refuse message failure >>= next).run
      (Attempt.refuse message failure >>= following).run := by
  change related _ (Program.log .error message [] >>= fun _ =>
    pure (Except.error failure : Except ServiceError Second)) _
  exact congruent.sequence (logs _ _ _) fun _ => congruent.done _

end Refusing

end Congruent

namespace RetryPolicy

variable {related : (Result : Type) → Program Result → Program Result → Prop} {Result : Type}

/-- A relation that goes over to sequences goes over to retries, if what a retry adds is related to
itself. The induction is on the retries left. -/
theorem related_retry (congruent : Congruent related)
    (counts : ∀ counter, related Unit (Program.count counter) (Program.count counter))
    (logs : ∀ level message fields, related Unit (Program.log level message fields)
      (Program.log level message fields))
    (waits : ∀ span, related Unit (Program.wait span) (Program.wait span))
    (policy : RetryPolicy) (operation : String) {once other : Nat → Attempt Result}
    (each : ∀ number, related _ (once number).run (other number).run) :
    related _ (policy.retry operation once).run (policy.retry operation other).run := by
  have attempted (attempt : UInt32) :
      related _ (attemptOnce operation (once attempt.toNat) attempt)
        (attemptOnce operation (other attempt.toNat) attempt) := by
    apply congruent.sequence (each _)
    intro outcome
    cases outcome with
    | ok value => exact congruent.sequence (counts _) fun _ => congruent.done _
    | error failure =>
        apply congruent.sequence (counts _)
        intro _
        exact congruent.sequence (logs _ _ _) fun _ => congruent.done _
  have paused (attempt : UInt32) :
      related _ (policy.pause attempt) (policy.pause attempt) := by
    simp only [pause]
    split
    · exact congruent.done ()
    · exact waits _
  change related _ (policy.retryFrom operation once 0 policy.maxRetries.toNat)
    (policy.retryFrom operation other 0 policy.maxRetries.toNat)
  generalize (0 : UInt32) = attempt
  generalize policy.maxRetries.toNat = left
  induction left generalizing attempt with
  | zero =>
      apply congruent.sequence (attempted attempt)
      intro outcome
      cases outcome with
      | ok value => exact congruent.done _
      | error failure => exact congruent.sequence (counts _) fun _ => congruent.done _
  | succ left induction =>
      apply congruent.sequence (attempted attempt)
      intro outcome
      cases outcome with
      | ok value => exact congruent.done _
      | error failure => exact congruent.sequence (paused attempt) fun _ => induction _

end RetryPolicy

end TeacherDirectory
