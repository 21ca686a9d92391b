import TeacherDirectory.Proofs.Program.Composition
import TeacherDirectory.Proofs.Program.Rule

/-!
# Effects that a program can perform

What a program can ask of the world is read off its tree. A program that only calls the directory,
logs, counts and waits learns nothing but the answers to its calls, so these determine its trace.
Two rules that agree on the calls of a program cannot be told apart by it.
-/

namespace TeacherDirectory

set_option autoImplicit false

/-- A directory call of some kind, or an effect that always gets the same answer. -/
def Effect.Only (calls : Call → Prop) : Effect → Prop
  | call request => calls request
  | publish _ => False
  | draw => False
  | _ => True

theorem Effect.Only.weaken {calls more : Call → Prop}
    (implies : ∀ request, calls request → more request)
    {effect : Effect} (only : effect.Only calls) : effect.Only more := by
  cases effect with
  | call request => exact implies request only
  | _ => exact only

/-- A directory call of some kind, or any effect that is no call. -/
def Effect.Calling (calls : Call → Prop) : Effect → Prop
  | call request => calls request
  | _ => True

theorem Effect.Only.calling {calls : Call → Prop} {effect : Effect} (only : effect.Only calls) :
    effect.Calling calls := by
  cases effect with
  | call request => exact only
  | _ => trivial

theorem Effect.Calling.weaken {calls more : Call → Prop}
    (implies : ∀ request, calls request → more request)
    {effect : Effect} (calling : effect.Calling calls) : effect.Calling more := by
  cases effect with
  | call request => exact implies request calling
  | _ => trivial

namespace Program

variable {First Second Result : Type} {allowed : Effect → Prop} {calls : Call → Prop}

/-- Every effect that the program can perform is allowed, whatever the answers before it. -/
def Performs (allowed : Effect → Prop) : Program Result → Prop
  | done _ => True
  | perform effect next => allowed effect ∧ ∀ answer, (next answer).Performs allowed

theorem performs_ask {effect : Effect} (permitted : allowed effect) :
    (ask effect).Performs allowed :=
  ⟨permitted, fun _ => trivial⟩

theorem performs_bind {first : Program First} {next : First → Program Second}
    (earlier : first.Performs allowed) (later : ∀ value, (next value).Performs allowed) :
    (first >>= next).Performs allowed := by
  change (first.bind next).Performs allowed
  induction first with
  | done value => exact later value
  | perform effect rest induction =>
      exact ⟨earlier.1, fun answer => induction answer (earlier.2 answer)⟩

theorem performs_compositional : Compositional fun _ program => program.Performs allowed where
  done _ := trivial
  sequence := performs_bind

theorem Performs.weaken {program : Program Result} {more : Effect → Prop}
    (performs : program.Performs allowed) (implies : ∀ effect, allowed effect → more effect) :
    program.Performs more := by
  induction program with
  | done value => trivial
  | perform effect next induction =>
      exact ⟨implies effect performs.1, fun answer => induction answer (performs.2 answer)⟩

theorem Performs.exchanges {program : Program Result} (plain : program.Performs (Effect.Only calls))
    {steps : List Step} {result : Result} (taken : program.Takes steps result) :
    ∀ exchange ∈ TeacherDirectory.exchanges steps, calls exchange.request := by
  induction program generalizing steps with
  | done value =>
      rcases taken with ⟨rfl, -⟩
      exact List.forall_mem_nil _
  | perform effect next induction =>
      rcases taken with ⟨answer, rest, rfl, continued⟩
      rw [exchanges_cons]
      refine List.forall_mem_append.mpr ⟨?_, induction answer (plain.2 answer) continued⟩
      cases effect with
      | call request => exact List.forall_mem_singleton.mpr plain.1
      | _ => exact List.forall_mem_nil _

theorem Performs.no_events {program : Program Result} (plain : program.Performs (Effect.Only calls))
    {steps : List Step} {result : Result} (taken : program.Takes steps result) :
    events steps = [] := by
  induction program generalizing steps with
  | done value =>
      rcases taken with ⟨rfl, -⟩
      rfl
  | perform effect next induction =>
      rcases taken with ⟨answer, rest, rfl, continued⟩
      rw [events_cons, induction answer (plain.2 answer) continued]
      cases effect with
      | publish event => exact plain.1.elim
      | _ => rfl

/-- The answers to the calls fix the trace of a program that learns nothing else. -/
theorem takes_determined {program : Program Result} (plain : program.Performs (Effect.Only calls))
    {steps others : List Step} {result other : Result} (taken : program.Takes steps result)
    (taken' : program.Takes others other) (same : exchanges steps = exchanges others) :
    result = other := by
  induction program generalizing steps others with
  | done value =>
      rcases taken with ⟨-, rfl⟩
      rcases taken' with ⟨-, rfl⟩
      rfl
  | perform effect next induction =>
      rcases taken with ⟨answer, rest, rfl, continued⟩
      rcases taken' with ⟨answer', rest', rfl, continued'⟩
      simp only [exchanges_cons] at same
      cases effect with
      | call request =>
          have heads := List.cons.inj same
          obtain rfl : answer = answer' := by
            have exchangeSame := heads.1
            cases exchangeSame
            rfl
          exact induction answer (plain.2 answer) continued continued' heads.2
      | log event => exact induction () (plain.2 ()) continued continued' same
      | count counter => exact induction () (plain.2 ()) continued continued' same
      | wait span => exact induction () (plain.2 ()) continued continued' same
      | publish event => exact plain.1.elim
      | draw => exact plain.1.elim

theorem Performs.keeps {State : Type} {program : Program Result}
    (performs : program.Performs (Effect.Calling calls)) {rule : CallRule State}
    {invariant : State → Prop} {before : State}
    (each : ∀ state request answer after, calls request → invariant state →
      rule state request answer after → invariant after)
    (start : invariant before) : program.Ensures rule (fun _ => invariant) before := by
  intro steps result after taken follows
  induction program generalizing steps before with
  | done value =>
      rcases taken with ⟨rfl, -⟩
      exact (follows : after = before) ▸ start
  | perform effect next induction =>
      rcases taken with ⟨answer, rest, rfl, continued⟩
      rcases follows with ⟨between, permitted, later⟩
      refine induction answer (performs.2 answer) ?_ rest continued later
      cases effect with
      | call request => exact each before request answer between performs.1 start permitted
      | _ => exact (permitted : between = before) ▸ start

section Narrowing

variable {State : Type} {rule wider : CallRule State} {invariant : State → Prop} {before : State}

/-- A trace of calls on which a rule is no wider than another follows the other rule too. -/
theorem Performs.follows {program : Program Result} (plain : program.Performs (Effect.Only calls))
    (included : ∀ state request answer after, calls request → invariant state →
      rule state request answer after → wider state request answer after ∧ invariant after)
    {steps : List Step} {result : Result} {after : State} (taken : program.Takes steps result)
    (start : invariant before) (follows : rule.Follows before steps after) :
    wider.Follows before steps after ∧ invariant after := by
  induction program generalizing steps before with
  | done value =>
      rcases taken with ⟨rfl, -⟩
      obtain rfl : after = before := follows
      exact ⟨rfl, start⟩
  | perform effect next induction =>
      rcases taken with ⟨answer, rest, rfl, continued⟩
      rcases follows with ⟨between, permitted, later⟩
      have step : wider.Permits before ⟨effect, answer⟩ between ∧ invariant between := by
        cases effect with
        | call request => exact included before request answer between plain.1 start permitted
        | _ =>
            obtain rfl : between = before := permitted
            exact ⟨rfl, start⟩
      obtain ⟨followed, kept⟩ := induction answer (plain.2 answer) continued step.2 later
      exact ⟨⟨between, step.1, followed⟩, kept⟩

theorem Ensures.narrow {program : Program Result} {post : Result → State → Prop}
    (ensured : program.Ensures wider post before) (plain : program.Performs (Effect.Only calls))
    (included : ∀ state request answer after, calls request → invariant state →
      rule state request answer after → wider state request answer after ∧ invariant after)
    (start : invariant before) :
    program.Ensures rule (fun result after => post result after ∧ invariant after) before := by
  intro steps result after taken follows
  obtain ⟨followed, kept⟩ := plain.follows included taken start follows
  exact ⟨ensured steps result after taken followed, kept⟩

end Narrowing

end Program

namespace Attempt

variable {First Second Result : Type} {allowed : Effect → Prop}

def Performs (allowed : Effect → Prop) (attempt : Attempt Result) : Prop :=
  Program.Performs allowed attempt.run

theorem performs_lift {program : Program Result} (performs : program.Performs allowed) :
    (liftM program : Attempt Result).Performs allowed :=
  Program.performs_bind performs fun _ => trivial

theorem performs_bind {first : Attempt First} {next : First → Attempt Second}
    (earlier : first.Performs allowed) (later : ∀ value, (next value).Performs allowed) :
    (first >>= next).Performs allowed := by
  apply Program.performs_bind earlier
  intro outcome
  cases outcome with
  | ok value => exact later value
  | error failure => trivial

theorem performs_call {request : Call} {refused : DirectoryError → Program ServiceError}
    (permitted : allowed (.call request))
    (refusing : ∀ failure, (refused failure).Performs allowed) :
    (call request refused).Performs allowed := by
  apply Program.performs_bind (Program.performs_ask permitted)
  intro answer
  cases answer with
  | ok reply => trivial
  | error failure => exact Program.performs_bind (refusing failure) fun _ => trivial

theorem performs_log {calls : Call → Prop} (level : LogLevel) (message : String)
    (fields : List (String × String)) :
    (liftM (Program.log level message fields) : Attempt Unit).Performs (Effect.Only calls) :=
  performs_lift (Program.performs_ask trivial)

theorem Ensures.narrow {State : Type} {rule wider : CallRule State} {invariant : State → Prop}
    {before : State} {calls : Call → Prop} {attempt : Attempt Result} {good : Result → State → Prop}
    {bad : ServiceError → State → Prop} (ensured : attempt.Ensures wider good bad before)
    (plain : attempt.Performs (Effect.Only calls))
    (included : ∀ state request answer after, calls request → invariant state →
      rule state request answer after → wider state request answer after ∧ invariant after)
    (start : invariant before) :
    attempt.Ensures rule (fun value after => good value after ∧ invariant after)
      (fun failure after => bad failure after ∧ invariant after) before :=
  (Program.Ensures.narrow ensured plain included start).weaken fun outcome _ holds =>
    match outcome with
    | .ok _ => holds
    | .error _ => holds

theorem Performs.keeps {State : Type} {calls : Call → Prop} {attempt : Attempt Result}
    (performs : attempt.Performs (Effect.Calling calls)) {rule : CallRule State}
    {invariant : State → Prop} {before : State}
    (each : ∀ state request answer after, calls request → invariant state →
      rule state request answer after → invariant after)
    (start : invariant before) :
    attempt.EndsIn rule invariant before :=
  (Program.Performs.keeps performs each start).weaken fun outcome _ holds =>
    match outcome with
    | .ok _ => holds
    | .error _ => holds

theorem performs_refuse {calls : Call → Prop} (message : String) (failure : ServiceError) :
    (refuse message failure : Attempt Result).Performs (Effect.Only calls) :=
  performs_bind (performs_log _ _ _) fun _ => trivial

end Attempt

namespace RetryPolicy

variable {Result : Type} {calls : Call → Prop}

theorem performs_retrying {allowed : Effect → Prop} {policy : RetryPolicy} {operation : String}
    {once : Nat → Attempt Result} (logs : ∀ event, allowed (.log event))
    (counts : ∀ counter, allowed (.count counter)) (waits : ∀ span, allowed (.wait span))
    (each : ∀ number, (once number).Performs allowed) :
    (policy.retry operation once).Performs allowed := by
  have related := related_retry Program.performs_compositional.congruent
    (fun counter => ⟨Program.performs_ask (counts counter), rfl⟩)
    (fun level message fields => ⟨Program.performs_ask (logs ⟨level, message, fields⟩), rfl⟩)
    (fun span => ⟨Program.performs_ask (waits span), rfl⟩) policy operation
    fun number => ⟨each number, rfl⟩
  exact related.1

theorem performs_retry {policy : RetryPolicy} {operation : String} {once : Nat → Attempt Result}
    (plain : ∀ number, (once number).Performs (Effect.Only calls)) :
    (policy.retry operation once).Performs (Effect.Only calls) :=
  performs_retrying (fun _ => trivial) (fun _ => trivial) (fun _ => trivial) plain

theorem performs_retry_calling {policy : RetryPolicy} {operation : String}
    {once : Nat → Attempt Result}
    (calling : ∀ number, (once number).Performs (Effect.Calling calls)) :
    (policy.retry operation once).Performs (Effect.Calling calls) :=
  performs_retrying (fun _ => trivial) (fun _ => trivial) (fun _ => trivial) calling

end RetryPolicy

end TeacherDirectory
