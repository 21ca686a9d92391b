import TeacherDirectory.Proofs.Retry.Attempts

/-!
# How attempts fail

With which errors an attempt can end is read off its parts, whatever they are answered. Retrying adds
no error of its own, since its result is that of the last attempt.
-/

namespace TeacherDirectory

set_option autoImplicit false

namespace Program

variable {First Second Result : Type} {good : Result → Prop}

/-- Whatever the answers, the result is one of these. -/
def Gives (good : Result → Prop) (program : Program Result) : Prop :=
  ∀ ⦃steps : List Step⦄ ⦃result : Result⦄, program.Takes steps result → good result

theorem gives_pure {value : Result} (given : good value) : (pure value : Program Result).Gives good :=
  fun _ _ taken => taken.2 ▸ given

theorem gives_bind {between : First → Prop} {good : Second → Prop} {first : Program First}
    {next : First → Program Second} (earlier : first.Gives between)
    (later : ∀ value, between value → (next value).Gives good) : (first >>= next).Gives good := by
  intro steps result taken
  obtain ⟨before, after, value, rfl, firstTaken, nextTaken⟩ :=
    (takes_bind first next steps result).mp taken
  exact later value (earlier firstTaken) nextTaken

theorem gives_logged {level : LogLevel} {message : String} {fields : List (String × String)}
    {program : Program Result} (gives : program.Gives good) :
    (do log level message fields; program).Gives good :=
  gives_bind (fun _ _ _ => trivial : (log level message fields).Gives fun _ => True) fun _ _ => gives

end Program

namespace Attempt

variable {First Second Result : Type} {kinds : ServiceError → Prop}

/-- Whatever the answers, the attempt succeeds or fails with one of these errors. -/
def FailsAs (kinds : ServiceError → Prop) (attempt : Attempt Result) : Prop :=
  attempt.run.Gives fun outcome => ∀ failure, outcome = .error failure → kinds failure

theorem FailsAs.weaken {attempt : Attempt Result} {more : ServiceError → Prop}
    (fails : attempt.FailsAs kinds) (implies : ∀ failure, kinds failure → more failure) :
    attempt.FailsAs more :=
  fun _ _ taken failure same => implies failure (fails taken failure same)

theorem fails_pure {value : Result} : (pure value : Attempt Result).FailsAs kinds :=
  Program.gives_pure nofun

theorem fails_lift {program : Program Result} :
    (liftM program : Attempt Result).FailsAs kinds := by
  intro steps outcome taken failure same
  obtain ⟨value, -, rfl⟩ := (takes_lift program steps outcome).mp taken
  cases same

theorem fails_refuse {message : String} {failure : ServiceError} (kind : kinds failure) :
    (refuse message failure : Attempt Result).FailsAs kinds := by
  intro steps outcome taken other same
  obtain ⟨-, rfl⟩ := (takes_refuse message failure steps outcome).mp taken
  exact Except.error.inj same ▸ kind

theorem fails_refuse_bind {message : String} {failure : ServiceError}
    {next : First → Attempt Second} (kind : kinds failure) :
    (refuse message failure >>= next).FailsAs kinds :=
  (fails_refuse kind : (refuse message failure : Attempt Second).FailsAs kinds)

theorem fails_bind {first : Attempt First} {next : First → Attempt Second}
    (earlier : first.FailsAs kinds) (later : ∀ value, (next value).FailsAs kinds) :
    (first >>= next).FailsAs kinds := by
  intro steps outcome taken failure same
  rcases (takes_bind first next steps outcome).mp taken with
    ⟨reason, failed, rfl⟩ | ⟨_, _, value, rfl, -, continued⟩
  · cases same
    exact earlier failed failure rfl
  · exact later value continued failure same

theorem fails_call {request : Call} {refused : DirectoryError → Program ServiceError}
    (each : ∀ failure, (refused failure).Gives kinds) :
    @FailsAs request.Reply kinds (call request refused) := by
  intro steps outcome taken failure same
  obtain ⟨_, _, answer, rfl, -, answered⟩ := (Program.takes_bind _ _ steps outcome).mp taken
  cases answer with
  | ok reply =>
      rcases answered with ⟨-, rfl⟩
      cases same
  | error reason =>
      obtain ⟨_, _, becomes, rfl, refusedTaken, -, rfl⟩ :=
        (Program.takes_bind _ _ _ outcome).mp answered
      exact Except.error.inj same ▸ each reason refusedTaken

theorem fails_retry {policy : RetryPolicy} {operation : String} {once : Attempt Result}
    (each : once.FailsAs kinds) : (policy.retry operation fun _ => once).FailsAs kinds := by
  intro steps outcome taken failure same
  obtain ⟨failed, last, tried⟩ := RetryPolicy.retry_tried taken
  exact each tried.final failure same

end Attempt

end TeacherDirectory
