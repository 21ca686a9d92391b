import TeacherDirectory.Proofs.Service.Grounds

/-!
# Accounts of a session

Every attempt opens one connection and leaves one mark: its operation is counted as successful, or the
attempt is counted as failed. So the counters tell how many connections were opened. An operation that
fails has used up all its attempts, and one that succeeds had at most as many failed ones as there are
retries. Refused arguments leave no mark.
-/

namespace TeacherDirectory

set_option autoImplicit false

def Call.isConnect : Call → Bool
  | .connect => true
  | _ => false

def connections (steps : List Step) : Nat :=
  (exchanges steps).countP fun exchange => exchange.request.isConnect

/-- What is counted accounts for the connections, apart from some checks, and for each operation the
failed attempts lie between those of its failures and those that its successes can have besides. -/
structure Balanced (retries checks connections : Nat) (counted : List Counter) : Prop where
  marked : connections = checks + counted.countP Counter.succeeds + counted.countP Counter.fails
  spent : ∀ operation, counted.count (.finished operation false) * (retries + 1) ≤
    counted.count (.failedAttempt operation)
  spared : ∀ operation, counted.count (.failedAttempt operation) ≤
    counted.count (.finished operation false) * (retries + 1) +
      counted.count (.finished operation true) * retries

section Balance

variable {retries checks more opened others : Nat} {counted later : List Counter}

theorem balanced_nil : Balanced retries checks checks [] :=
  ⟨rfl, fun _ => (Nat.zero_mul _).le, fun _ => Nat.zero_le _⟩

theorem Balanced.append (first : Balanced retries checks opened counted)
    (second : Balanced retries more others later) :
    Balanced retries (checks + more) (opened + others) (counted ++ later) := by
  refine ⟨?_, fun operation => ?_, fun operation => ?_⟩
  · rw [first.marked, second.marked, List.countP_append, List.countP_append]
    omega
  · rw [List.count_append, List.count_append, Nat.add_mul]
    exact Nat.add_le_add (first.spent operation) (second.spent operation)
  · simp only [List.count_append, Nat.add_mul]
    have spared := first.spared operation
    have sparedLater := second.spared operation
    omega

end Balance

section Jobs

variable {Result : Type} {operation : String} {retries failures : Nat}

theorem failure_marks_flat {failed : List (List Step)}
    (uncounted : ∀ own ∈ failed, counters own = []) :
    (failed.flatMap fun own => counters own ++ [.failedAttempt operation]) =
      List.replicate failed.length (.failedAttempt operation) := by
  induction failed with
  | nil => rfl
  | cons own rest induction =>
      obtain ⟨first, others⟩ := List.forall_mem_cons.mp uncounted
      rw [List.flatMap_cons, first, induction others]
      rfl

theorem marks_balanced {outcome : Except ServiceError Result} (few : failures ≤ retries)
    (exhausted : ∀ failure, outcome = .error failure → failures = retries) :
    Balanced retries 0 (failures + 1)
      (List.replicate failures (.failedAttempt operation) ++
        RetryPolicy.closing operation outcome) := by
  cases outcome with
  | ok value =>
      refine ⟨?_, fun other => ?_, fun other => ?_⟩
      · simp [RetryPolicy.closing, Counter.succeeds, Counter.fails, List.countP_replicate,
          Nat.add_comm]
      · simp [RetryPolicy.closing, List.count_replicate]
      · by_cases same : operation = other
        · subst same
          simpa [RetryPolicy.closing, List.count_replicate] using few
        · simp [RetryPolicy.closing, List.count_replicate, same]
  | error failure =>
      obtain rfl : failures = retries := exhausted failure rfl
      refine ⟨?_, fun other => ?_, fun other => ?_⟩
      · simp [RetryPolicy.closing, Counter.succeeds, Counter.fails, List.countP_cons,
          List.countP_replicate]
      all_goals
        by_cases same : operation = other
        · subst same
          simp [RetryPolicy.closing, List.count_replicate]
        · simp [RetryPolicy.closing, List.count_replicate, same]

end Jobs

namespace Service

variable {service : Service} {task : Task} {steps : List Step}

theorem request_not_connect {request : Call} (isRequest : request.IsRequest) :
    request.isConnect = false := by
  cases request with
  | connect => exact absurd trivial isRequest
  | _ => rfl

theorem OnConnection.once {settings : DirectorySettings} {history : List Exchange}
    (connection : OnConnection settings history) :
    (history.countP fun exchange => exchange.request.isConnect) = 1 := by
  cases connection with
  | unopened failure => rfl
  | unbound failure => rfl
  | bound plain =>
      rw [List.countP_cons, List.countP_cons, List.countP_eq_zero.mpr]
      · rfl
      · exact fun exchange member => by rw [request_not_connect (plain exchange member)]; nofun

theorem job_balanced {Result : Type} {job : Job Result} {outcome : Except ServiceError Result}
    (taken : (job.perform service).run.Takes steps outcome) :
    Balanced service.policy.maxRetries.toNat 0 (connections steps) (counters steps) := by
  obtain ⟨failed, last, tried, attempted, final⟩ := job_attempted taken
  have opened : connections steps = failed.length + 1 := by
    have each : failed.map ((List.countP fun exchange => exchange.request.isConnect) ∘ exchanges) =
        List.replicate failed.length 1 :=
      List.map_eq_replicate_iff.mpr fun own member => (attempted own member).connection.once
    rw [connections, tried.calls, List.countP_append, List.countP_flatMap,
      final.connection.once, each, List.sum_replicate_nat, Nat.mul_one]
  rw [opened, tried.counted, failure_marks_flat fun own member => (attempted own member).uncounted,
    final.uncounted, List.nil_append]
  exact marks_balanced tried.few tried.exhausted

def Task.isCheck : Task → Bool
  | checkConnection => true
  | _ => false

theorem other_balanced {outcome : Except ServiceError task.Value} (other : task.isCheck = false)
    (taken : (task.perform service).run.Takes steps outcome) :
    Balanced service.policy.maxRetries.toNat 0 (connections steps) (counters steps) := by
  let balanced (steps : List Step) : Prop :=
    Balanced service.policy.maxRetries.toNat 0 (connections steps) (counters steps)
  have unmarked {steps : List Step} (silent : exchanges steps = []) (uncounted : counters steps = []) :
      balanced steps := by
    change Balanced _ 0 (connections steps) (counters steps)
    rw [uncounted, connections, silent]
    exact balanced_nil
  have compositional : Compositional fun _ program => program.Always balanced := by
    refine Program.always_compositional (unmarked rfl rfl) fun first second before after => ?_
    change Balanced _ 0 (connections (first ++ second)) (counters (first ++ second))
    rw [counters_append, connections, exchanges_append, List.countP_append]
    exact before.append after
  refine perform_composed compositional ?logs ?jobs ?announcing ?checking ?following steps _ taken
  case logs => exact fun level message fields => Program.always_log (unmarked rfl rfl)
  case jobs => exact fun job _ steps outcome taken => job_balanced taken
  case announcing =>
    intro _ event steps result taken
    obtain ⟨silent, uncounted, -⟩ := publish_traced taken
    exact unmarked silent uncounted
  case checking =>
    rintro rfl
    cases other
  case following =>
    -- The connection was open before, so there is none to account for.
    rintro oldReferrer newReferrer oldName rfl steps outcome taken
    obtain ⟨admitted, uncounted, -⟩ := rename_traced taken
    have unopened : connections steps = 0 := List.countP_eq_zero.mpr fun exchange member => by
      rw [request_not_connect (admitted.each (fun _ _ => And.left) exchange member)]
      nofun
    change Balanced _ 0 (connections steps) (counters steps)
    rw [unopened, uncounted]
    exact balanced_nil

theorem task_balanced {outcome : Except ServiceError task.Value}
    (taken : (task.perform service).run.Takes steps outcome) :
    Balanced service.policy.maxRetries.toNat (if task.isCheck then 1 else 0) (connections steps)
      (counters steps) := by
  cases task with
  | checkConnection =>
      have attempted : service.Attempted .nothing steps := bind_attempted taken
      rw [attempted.uncounted, show connections steps = 1 from attempted.connection.once]
      exact balanced_nil
  | _ => exact other_balanced rfl taken

theorem session_balanced {tasks : List Task} {performed : List Performed}
    (taken : (service.performAll tasks).Takes steps performed) :
    Balanced service.policy.maxRetries.toNat (tasks.countP Task.isCheck) (connections steps)
      (counters steps) := by
  obtain ⟨parts, rfl, each⟩ := perform_all_takes taken
  clear taken
  induction each with
  | nil => exact balanced_nil
  | @cons task part rest others first later induction =>
      obtain ⟨outcome, taken⟩ := first
      rw [List.flatten_cons, counters_append, connections, exchanges_append, List.countP_append,
        List.countP_cons, Nat.add_comm (rest.countP _)]
      exact (task_balanced taken).append induction

/-- Refused arguments count nothing, as no job is taken up. -/
theorem invalid_uncounted {outcome : Except ServiceError task.Value}
    (invalid : task.Invalid service.settings)
    (taken : (task.perform service).run.Takes steps outcome) : counters steps = [] := by
  let uncounted (steps : List Step) : Prop := counters steps = []
  have compositional : Compositional fun _ program => program.Always uncounted := by
    refine Program.always_compositional rfl fun first second before after => ?_
    change counters (first ++ second) = []
    rw [counters_append, show counters first = [] from before, show counters second = [] from after]
    rfl
  refine perform_composed compositional ?logs ?jobs ?announcing ?checking ?following steps _ taken
  case logs => exact fun level message fields => Program.always_log rfl
  case jobs => exact fun job runs => absurd invalid runs.valid
  case announcing => exact fun _ event steps result taken => (publish_traced taken).2.1
  case checking =>
    rintro rfl
    exact invalid.elim
  case following =>
    rintro _ _ _ rfl
    exact invalid.elim

/-- A recorder that was empty at first accounts for a whole session. The connections that were asked for
are those of the checks, those of the successful operations and those of the failed attempts. Of each
operation, a failure stands for one failed attempt more than there are retries, and a success for no more
than there are retries. Refused arguments leave all counters as they are. -/
theorem recorder_accounts_for_session {State : Type} (world : World State) (state : State)
    (service : Service) (tasks : List Task) :
    let steps := ((service.performAll tasks).run world state).steps
    let recorder := Recorder.empty.observe steps
    let retries := service.policy.maxRetries.toNat
    let finished (operation status : String) := recorder.total
      ⟨"ldap_operations_total", [("operation", operation), ("status", status)]⟩
    let failedAttempts (operation : String) := recorder.total
      ⟨"ldap_operation_failed_attempts_total", [("operation", operation)]⟩
    connections steps = tasks.countP Task.isCheck +
        recorder.sum "ldap_operations_total" [("status", "success")] +
        recorder.sum "ldap_operation_failed_attempts_total" [] ∧
      (∀ operation, finished operation "failure" * (retries + 1) ≤ failedAttempts operation ∧
        failedAttempts operation ≤ finished operation "failure" * (retries + 1) +
          finished operation "success" * retries) ∧
      ∀ (task : Task) (before : Recorder) (between : State), task.Invalid service.settings →
        before.observe ((task.perform service).run.run world between).steps = before := by
  intro steps recorder retries finished failedAttempts
  have balanced := session_balanced (Program.run_takes world (service.performAll tasks) state)
  have shown (counter : Counter) : recorder.total counter.series = (counters steps).count counter :=
    Recorder.total_counted steps counter
  refine ⟨?connects, fun operation => ?attempts, fun task before between invalid => ?refused⟩
  case connects =>
    simp only [recorder, Recorder.sum_observe, Recorder.sum_empty, Counter.bears_success,
      Counter.bears_failed_attempt, Nat.zero_add]
    exact balanced.marked
  case attempts =>
    have failures : finished operation "failure" = _ := shown (.finished operation false)
    have successes : finished operation "success" = _ := shown (.finished operation true)
    have attempts : failedAttempts operation = _ := shown (.failedAttempt operation)
    rw [failures, successes, attempts]
    exact ⟨balanced.spent operation, balanced.spared operation⟩
  case refused =>
    exact before.observe_uncounted (invalid_uncounted invalid (Program.run_takes world _ between))

end Service

end TeacherDirectory
