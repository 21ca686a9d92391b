import TeacherDirectory.Proofs.Service.Grounds
import TeacherDirectory.Script

/-!
# How long a task waits

A task waits in the retries of its jobs and nowhere else, and each of these has a budget: as many of
the longest waits as there are retries. A new teacher and a change of names have two jobs, the other
tasks have one at most. So the waits of a task are bounded by its policy, whatever the directory
does; what the directory takes for its answers is not counted.
-/

namespace TeacherDirectory.Service

set_option autoImplicit false

open Program

/-- A trace in which a task takes up some jobs, each with its retries, and waits at no other time. -/
inductive JobsTaken (service : Service) (task : Task) : Nat → List Step → Prop
  | still {steps : List Step} (unwaited : waits steps = []) : JobsTaken service task 0 steps
  | job {Result : Type} {job : Job Result} {steps : List Step}
      {outcome : Except ServiceError Result} (runs : task.Runs service job)
      (taken : (job.perform service).run.Takes steps outcome) : JobsTaken service task 1 steps
  | append {first second : Nat} {earlier later : List Step}
      (before : JobsTaken service task first earlier) (after : JobsTaken service task second later) :
      JobsTaken service task (first + second) (earlier ++ later)

def Task.mostJobs : Task → Nat
  | createTeacher .. => 2
  | modifyAttributes .. => 2
  | checkConnection => 0
  | renameInGroups .. => 0
  | _ => 1

def budget (service : Service) : Nat :=
  service.policy.maxRetries.toNat * service.policy.maxDelay.nanoseconds

variable {service : Service} {task : Task} {jobs : Nat} {steps : List Step}

theorem JobsTaken.total_wait (jobsTaken : service.JobsTaken task jobs steps) :
    Span.total (waits steps) ≤ jobs * service.budget := by
  induction jobsTaken with
  | still unwaited =>
      rw [unwaited]
      exact Nat.zero_le _
  | job _ taken =>
      rcases job_waits taken with ⟨failures, few, same, -⟩
      have within := service.policy.pauses_total failures
      rw [same, Nat.one_mul]
      exact within.trans (Nat.mul_le_mul_right _ few)
  | append _ _ first second =>
      rw [waits_append, Span.total_append, Nat.add_mul]
      exact Nat.add_le_add first second

theorem JobsTaken.unwaited (none : service.policy.maxDelay = .zero)
    (jobsTaken : service.JobsTaken task jobs steps) : waits steps = [] := by
  induction jobsTaken with
  | still unwaited => exact unwaited
  | job _ taken =>
      rcases job_waits taken with ⟨failures, -, same, -⟩
      rw [same, RetryPolicy.pauses_none none]
  | append _ _ first second => rw [waits_append, first, second, List.append_nil]

/-- Whatever it is answered, the program takes up no more jobs than these and waits for no other
reason. -/
def TakesUp {Result : Type} (service : Service) (task : Task) (jobs : Nat)
    (program : Program Result) : Prop :=
  program.Always fun steps => ∃ taken ≤ jobs, service.JobsTaken task taken steps

def Still {Result : Type} (program : Program Result) : Prop :=
  program.Always fun steps => waits steps = []

section Rules

variable {First Second Result : Type} {first second : Nat} {message : String}
  {failure : ServiceError}

theorem still_compositional : Compositional fun _ program => Still program := by
  refine always_compositional (show waits [] = [] from rfl) ?_
  intro earlier later before after
  rw [waits_append, before, after, List.append_nil]

theorem still_log (level : LogLevel) (message : String) (fields : List (String × String)) :
    Still (Program.log level message fields) :=
  always_log rfl

theorem still_publish (event : PersonEvent) : Still (publish event) := by
  apply still_compositional.sequence
  · intro steps answer taken
    rw [(takes_ask _ _ _).mp taken]
    rfl
  · intro answer
    cases answer with
    | ok _ => exact still_compositional.done ()
    | error failure => exact still_log _ _ _

theorem takes_up_still {program : Program Result} (still : Still program) :
    service.TakesUp task jobs program :=
  fun steps result taken => ⟨0, jobs.zero_le, .still (still steps result taken)⟩

theorem takes_up_done (value : Result) : service.TakesUp task jobs (pure value : Program Result) :=
  takes_up_still (still_compositional.done value)

theorem takes_up_job {job : Job Result} (runs : task.Runs service job) :
    service.TakesUp task 1 (job.perform service).run :=
  fun _ _ taken => ⟨1, Nat.le_refl 1, .job runs taken⟩

theorem takes_up_sequence {program : Program First} {next : First → Program Second}
    (earlier : service.TakesUp task first program)
    (later : ∀ value, service.TakesUp task second (next value)) :
    service.TakesUp task (first + second) (program >>= next) := by
  intro steps result taken
  rcases (takes_bind _ _ _ _).mp taken with ⟨before, after, value, rfl, firstTaken, nextTaken⟩
  rcases earlier before value firstTaken with ⟨some, within, jobsTaken⟩
  rcases later value after result nextTaken with ⟨more, withinLater, jobsLater⟩
  exact ⟨some + more, Nat.add_le_add within withinLater, jobsTaken.append jobsLater⟩

theorem takes_up_attempts {attempt : Attempt First} {next : First → Attempt Second}
    (earlier : service.TakesUp task first attempt.run)
    (later : ∀ value, service.TakesUp task second (next value).run) :
    service.TakesUp task (first + second) (attempt >>= next).run := by
  rw [ExceptT.run_bind]
  apply takes_up_sequence earlier
  intro outcome
  cases outcome with
  | ok value => exact later value
  | error failure => exact takes_up_done _

theorem takes_up_after {program : Program First} {next : First → Attempt Second}
    (still : Still program) (later : ∀ value, service.TakesUp task jobs (next value).run) :
    service.TakesUp task jobs ((liftM program : Attempt First) >>= next).run := by
  have lifted : service.TakesUp task 0 (liftM program : Attempt First).run := by
    apply takes_up_still
    exact still_compositional.sequence still fun value => still_compositional.done _
  rw [← Nat.zero_add jobs]
  exact takes_up_attempts lifted later

theorem takes_up_refused {next : First → Attempt Second} :
    service.TakesUp task jobs (Attempt.refuse message failure >>= next).run := by
  have refused : Still (Attempt.refuse message failure >>= next).run ∧
      (Attempt.refuse message failure >>= next).run =
        (Attempt.refuse message failure >>= next).run :=
    still_compositional.congruent.refused_before fun _ _ _ => ⟨still_log _ _ _, rfl⟩
  exact takes_up_still refused.1

theorem takes_up_realm {domain : String} {next : Realm → Attempt Result}
    (rest : ∀ realm, service.settings.realm? domain = some realm →
      service.TakesUp task jobs (next realm).run) :
    service.TakesUp task jobs (service.realm domain >>= next).run := by
  unfold realm
  cases found : service.settings.realm? domain with
  | some realm => exact rest realm found
  | none => exact takes_up_refused

theorem takes_up_referrer {person : Person} {next : String → Attempt Result}
    (rest : ∀ username, person.referrer = some username →
      service.TakesUp task jobs (next username).run) :
    service.TakesUp task jobs (referrer person >>= next).run := by
  unfold referrer
  cases named : person.referrer with
  | some username => exact rest username named
  | none => exact takes_up_refused

end Rules

theorem joining_takes_up {username schoolCode name : String}
    (runs : task.Runs service (.joinGroup username schoolCode name)) :
    service.TakesUp task 1 (service.joinNewTeacher username schoolCode name).run := by
  change service.TakesUp task (1 + 0) _
  apply takes_up_sequence (takes_up_job runs)
  intro outcome
  cases outcome with
  | ok changed => exact takes_up_done _
  | error failure =>
      apply takes_up_still
      apply still_compositional.sequence (still_log _ _ _)
      intro _
      cases failure <;> exact still_compositional.done _

theorem following_takes_up {referrer username oldName : String}
    (runs : task.Runs service (.followRename referrer username oldName)) :
    service.TakesUp task 1 (service.followRename referrer username oldName).run := by
  change service.TakesUp task (1 + 0) _
  apply takes_up_sequence (takes_up_job runs)
  intro outcome
  cases outcome with
  | ok told => exact takes_up_done _
  | error failure =>
      apply takes_up_still
      exact still_compositional.sequence (still_log _ _ _) fun _ => still_compositional.done _

/-- No task takes up more jobs than it has. -/
theorem task_takes_up (service : Service) (task : Task) :
    service.TakesUp task task.mostJobs (task.perform service).run := by
  cases task with
  | teacherExists referrer domain =>
      exact takes_up_realm fun realm found => takes_up_job (.teacherExists found)
  | createTeacher person domain schoolCode entryUuid =>
      apply takes_up_realm
      intro realm found
      apply takes_up_referrer
      intro username named
      change service.TakesUp _ (1 + (1 + 0)) _
      apply takes_up_attempts (takes_up_job (.createEntry found named))
      intro created
      cases created with
      | none => exact takes_up_done _
      | some created =>
          apply takes_up_attempts (joining_takes_up (.joinNew found named))
          intro _
          dsimp only
          split
          · exact takes_up_after (still_log _ _ _) fun _ => takes_up_done _
          · exact takes_up_done _
  | deleteTeacher person schoolCode domain =>
      apply takes_up_realm
      intro realm found
      apply takes_up_referrer
      intro username named
      exact takes_up_job (.deleteEntry found named)
  | deleteByReferrer referrer => exact takes_up_job .deleteByReferrer
  | modifyAttributes referrer givenName surname newUsername =>
      change service.TakesUp _ (1 + (1 + 0)) _
      apply takes_up_attempts (takes_up_job .changeNames)
      intro oldName
      cases oldName with
      | none => exact takes_up_done _
      | some oldName =>
          cases newUsername with
          | none => exact takes_up_done _
          | some username =>
              exact takes_up_attempts (following_takes_up .followRename) fun _ => takes_up_done _
  | attributes personId referrer domain => exact takes_up_job .attributes
  | changeAddress personId referrer address =>
      change service.TakesUp _ 1 (service.changeAddress personId referrer address).run
      unfold changeAddress
      cases parsed : addressDomain? address with
      | none => exact takes_up_after (still_log _ _ _) fun _ => takes_up_done _
      | some domain =>
          apply takes_up_realm
          intro realm found
          change service.TakesUp _ (1 + 0) _
          apply takes_up_attempts (takes_up_job (.changeAddress parsed found))
          intro alternative
          exact takes_up_after (still_publish _) fun _ => takes_up_done _
  | changePassword personId referrer =>
      change service.TakesUp _ (1 + 0) _
      apply takes_up_attempts (takes_up_job .changePassword)
      intro password
      exact takes_up_after (still_publish _) fun _ => takes_up_done _
  | checkConnection =>
      apply takes_up_still
      intro steps outcome taken
      have opened : service.bind.KeepsTo .unconditional _ _ _ := bind_keeps fun _ _ _ => trivial
      exact opened.unwaited taken
  | joinGroup referrer schoolCode personName => exact takes_up_job .joinGroup
  | leaveGroup username schoolCode personName => exact takes_up_job .leaveGroup
  | leaveGroupByUsername username schoolCode domain =>
      exact takes_up_realm fun realm found => takes_up_job (.leaveByUsername found)
  | groups personId referrer => exact takes_up_job .groups
  | renameInGroups oldReferrer newReferrer oldName =>
      apply takes_up_still
      intro steps outcome taken
      have works : service.Works (.ofOldName oldName)
          (service.renameInGroups oldReferrer newReferrer oldName) [] := rename_in_groups_works rfl
      exact works.unwaited taken

/-- No wait is longer than the longest one, whatever the numbers of a policy are, and a product that
is read as a span fits one. So a retry of attempts that do not wait waits no longer than its budget,
and a task no longer than the budgets of the jobs that it takes up: two for a new teacher and for a
change of names, at most one else. Without waits in the policy there are none. -/
theorem waiting_is_bounded :
    (∀ (policy : RetryPolicy) (attempt : UInt32),
        (policy.delayAfter attempt).nanoseconds ≤ policy.maxDelay.nanoseconds) ∧
      (∀ (seconds : Float) (span : Span), Span.ofFloat? seconds = some span →
        span.seconds < UInt64.size) ∧
      (∀ {State Result : Type} (world : World State) (state : State) (policy : RetryPolicy)
        (operation : String) (once : Nat → Attempt Result),
        (∀ number, Still (once number).run) →
          let run := (policy.retry operation once).run.run world state
          Span.total (waits run.steps) ≤
              policy.maxRetries.toNat * policy.maxDelay.nanoseconds ∧
            (∀ retries, policy = .immediate retries → waits run.steps = [])) ∧
      ∀ {State : Type} (world : World State) (state : State) (service : Service) (task : Task),
        let run := (task.perform service).run.run world state
        (∃ jobs ≤ task.mostJobs, service.JobsTaken task jobs run.steps ∧
            Span.total (waits run.steps) ≤
              jobs * (service.policy.maxRetries.toNat * service.policy.maxDelay.nanoseconds)) ∧
          ∀ retries, service.policy = .immediate retries → waits run.steps = [] := by
  constructor
  · exact RetryPolicy.delay_at_most
  constructor
  · intro seconds span read
    exact Span.of_float_seconds read
  constructor
  · intro State Result world state policy operation once still run
    have taken := run_takes world (policy.retry operation once).run state
    constructor
    · exact RetryPolicy.retry_waits_within still taken
    · rintro retries rfl
      rcases RetryPolicy.retry_waits still taken with ⟨failures, -, same, -⟩
      exact same.trans (RetryPolicy.pauses_none rfl failures)
  · intro State world state service task run
    rcases task_takes_up service task _ _ (run_takes world (task.perform service).run state) with
      ⟨jobs, few, jobsTaken⟩
    constructor
    · exact ⟨jobs, few, jobsTaken, jobsTaken.total_wait⟩
    · intro retries same
      exact jobsTaken.unwaited (by rw [same]; rfl)

/-- A factor that is no number, and attempts that all fail. -/
theorem broken_factor_waits_within :
    let policy : RetryPolicy := ⟨3, .ofSeconds 1, 0.0 / 0.0, .ofMilliseconds 500⟩
    let once : Nat → Attempt Unit := fun _ => throw .teacherNotFound
    let run := (policy.retry "delete_lehrer" once).run.run Stage.world ⟨Script.empty, 0, false, 0⟩
    (∀ number, Still (once number).run) ∧
      (policy.delayAfter 4294967295).nanoseconds ≤ 500000000 ∧
      Span.total (waits run.steps) ≤ 1500000000 := by
  intro policy once run
  have still : ∀ number, Still (once number).run := fun _ => still_compositional.done _
  rcases waiting_is_bounded with ⟨delay, -, retry, -⟩
  have budget : policy.maxRetries.toNat * policy.maxDelay.nanoseconds = 1500000000 := by
    simp only [policy, Span.ofMilliseconds, Span.perMillisecond]
    decide
  exact ⟨still, delay policy 4294967295,
    (retry Stage.world _ policy _ once still).1.trans (Nat.le_of_eq budget)⟩

end TeacherDirectory.Service
