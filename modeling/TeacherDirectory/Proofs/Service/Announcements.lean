import TeacherDirectory.Proofs.Program.Publisher
import TeacherDirectory.Proofs.Service.Grounds
import TeacherDirectory.Proofs.Service.SingleWrites

/-!
# Events and the writes they tell of

Every change of an address or a password that succeeds hands over one event, and nothing else does. Each
attempt reads the entry again and draws another password, but the one that succeeds is the last one and
the only one that wrote. So event and result tell what was written, however many attempts failed before.
Whether the event is taken makes no difference to what is asked of the directory or to any result.
-/

namespace TeacherDirectory.Service

set_option autoImplicit false

variable {service : Service} {personId referrer address : String} {steps : List Step}

def NoneWritten (history : List Exchange) : Prop := ∀ exchange ∈ history, exchange.wrote = false

def ChangedOnce (service : Service) (referrer : String) (names : List String) (entry : Entry)
    (changes : List Change) (history : List Exchange) : Prop :=
  ∃ others, history = service.opening ++
    [⟨userSearch service.base referrer names, .ok (entry :: others)⟩,
      ⟨.modify entry.name changes, .ok ()⟩]

/-- The entry of a username was found and changed on the last connection, and nothing was written on
those before. -/
def ChangedLast (service : Service) (referrer : String) (names : List String) (entry : Entry)
    (changes : List Change) (history : List Exchange) : Prop :=
  ∃ earlier final, history = earlier ++ final ∧ NoneWritten earlier ∧
    service.ChangedOnce referrer names entry changes final

def alternativeAddress (entry : Entry) (address : String) : String :=
  (entry.first? "mailPrimaryAddress").getD address

def addressChanges (entry : Entry) (address : String) : List Change :=
  [.replace "mailPrimaryAddress" [address],
    .replace "mailAlternativeAddress" [alternativeAddress entry address]]

section Attempts

theorem NoneWritten.snoc {history : List Exchange} {exchange : Exchange}
    (none : NoneWritten history) (unwritten : exchange.wrote = false) :
    NoneWritten (history ++ [exchange]) :=
  List.forall_mem_append.mpr ⟨none, List.forall_mem_singleton.mpr unwritten⟩

theorem opening_unwritten : NoneWritten service.opening := by
  simp [NoneWritten, opening, Exchange.wrote, Call.isWrite]

theorem keeps_person_changed {Result : Type} {names : List String} {absence : String}
    {next : Entry → Attempt Result} {good : Result → List Exchange → Prop}
    (rest : ∀ entry others, (next entry).KeepsTo Conduct.unconditional good (fun _ => NoneWritten)
      (service.opening ++ [⟨userSearch service.base referrer names, .ok (entry :: others)⟩])) :
    (do
      service.bind
      next (← service.requirePerson referrer names absence) : Attempt Result).KeepsTo Conduct.unconditional
        good (fun _ => NoneWritten) [] := by
  have searched (answer : (userSearch service.base referrer names).Answer) :
      NoneWritten (service.opening ++ [⟨userSearch service.base referrer names, answer⟩]) :=
    opening_unwritten.snoc (Exchange.read_not_wrote rfl)
  refine Attempt.keeps_bind.mpr ((bind_keeps fun _ _ _ => trivial).weaken ?_)
  intro outcome after ended
  cases outcome with
  | error failure =>
      exact fun exchange member => Exchange.read_not_wrote (ended.2 exchange member).unwritten
  | ok _ =>
      obtain rfl : after = service.opening := ended
      exact Attempt.keeps_bind.mpr ((keeps_require_person trivial).mpr
        ⟨rest, searched _, fun _ => searched _⟩)

theorem keeps_address_changed :
    ((Job.changeAddress personId referrer address).once service).KeepsTo Conduct.unconditional
      (fun alternative after => ∃ entry, alternative = alternativeAddress entry address ∧
        service.ChangedOnce referrer ["mailPrimaryAddress"] entry (addressChanges entry address) after)
      (fun _ => NoneWritten) [] := by
  refine keeps_person_changed fun entry others => ?_
  refine Attempt.keeps_bind.mpr (Attempt.keeps_call.mpr ⟨trivial, fun _ => ?_, fun failure => ?_⟩)
  · refine Attempt.keeps_bind.mpr (Attempt.keeps_log.mpr ?_)
    exact ⟨entry, rfl, others, List.append_assoc _ _ _⟩
  · refine Program.keeps_logged.mpr ?_
    exact (opening_unwritten.snoc (Exchange.read_not_wrote rfl)).snoc (Bool.and_false _)

/-- The password is drawn by the attempt that writes it. -/
theorem keeps_password_changed :
    ((Job.changePassword personId referrer).once service).KeepsTo Conduct.unconditional
      (fun password after => ∃ entry,
        service.ChangedOnce referrer [] entry [.replace "userPassword" [password]] after)
      (fun _ => NoneWritten) [] := by
  refine keeps_person_changed fun entry others => ?_
  refine Attempt.keeps_bind.mpr (Attempt.keeps_lift.mpr (Program.keeps_draw.mpr fun draws => ?_))
  refine Attempt.keeps_bind.mpr (Attempt.keeps_call.mpr ⟨trivial, fun _ => ?_, fun failure => ?_⟩)
  · refine Attempt.keeps_bind.mpr (Attempt.keeps_log.mpr ?_)
    exact ⟨entry, others, List.append_assoc _ _ _⟩
  · refine Program.keeps_logged.mpr ?_
    exact (opening_unwritten.snoc (Exchange.read_not_wrote rfl)).snoc (Bool.and_false _)

end Attempts

theorem job_last {Result : Type} {job : Job Result} {good : Result → List Exchange → Prop}
    {value : Result}
    (keeps : (job.once service).KeepsTo Conduct.unconditional good (fun _ => NoneWritten) [])
    (taken : (job.perform service).run.Takes steps (.ok value)) :
    ∃ earlier final, exchanges steps = earlier ++ final ∧ NoneWritten earlier ∧ good value final := by
  obtain ⟨failed, last, tried⟩ := RetryPolicy.retry_tried taken
  refine ⟨failed.flatMap exchanges, exchanges last, tried.calls, ?_, (keeps.traced tried.final).2.2.2⟩
  intro exchange member
  obtain ⟨own, inFailed, inOwn⟩ := List.mem_flatMap.mp member
  obtain ⟨failure, ownTaken⟩ := tried.failures own inFailed
  exact (keeps.traced ownTaken).2.2.2 exchange inOwn

theorem job_unheard {Result : Type} {job : Job Result} {outcome : Except ServiceError Result}
    (taken : (job.perform service).run.Takes steps outcome) : events steps = [] := by
  obtain ⟨failed, last, tried, attempted, final⟩ := job_attempted taken
  rw [tried.heard, final.unheard, List.append_nil, List.flatMap_eq_nil_iff]
  exact fun own member => (attempted own member).unheard

/-- What a task has handed over, and the writes that this tells of. -/
def Performed.Announced (service : Service) : Performed → List Step → Prop
  | ⟨.changeAddress personId referrer address, .ok value⟩, steps =>
      value = personId ∧ ∃ entry,
        service.ChangedLast referrer ["mailPrimaryAddress"] entry (addressChanges entry address)
          (exchanges steps) ∧
        events steps = [⟨personId, some address, some (alternativeAddress entry address), false⟩]
  | ⟨.changePassword personId referrer, .ok password⟩, steps => ∃ entry,
      service.ChangedLast referrer [] entry [.replace "userPassword" [password]] (exchanges steps) ∧
        events steps = [⟨personId, none, none, true⟩]
  | _, steps => events steps = []

section Tasks

theorem address_announced {outcome : Except ServiceError String}
    (taken : (service.changeAddress personId referrer address).run.Takes steps outcome) :
    Performed.Announced service ⟨.changeAddress personId referrer address, outcome⟩ steps := by
  unfold changeAddress at taken
  cases parsed : addressDomain? address with
  | none =>
      rw [parsed] at taken
      obtain ⟨rfl, rfl⟩ := (Attempt.takes_refuse _ _ _ _).mp taken
      rfl
  | some domain =>
      rw [parsed] at taken
      rcases (Attempt.takes_bind _ _ _ _).mp taken with
        ⟨failure, failed, rfl⟩ | ⟨_, rest, realm, rfl, found, continued⟩
      · have quiet : (service.realm domain).Performs (Effect.Only fun _ => False) := performs_realm
        exact quiet.no_events failed
      obtain ⟨-, rfl⟩ := realm_takes found
      rw [List.nil_append]
      have announced : (do
          let alternative ← (Job.changeAddress personId referrer address).perform service
          publish (.addressesChanged personId address alternative)
          return personId : Attempt String).run.Takes rest outcome := continued
      rcases announced_takes announced with
        ⟨failure, rfl, failed⟩ | ⟨alternative, trying, publishing, rfl, rfl, tried, published⟩
      · exact job_unheard failed
      · obtain ⟨earlier, final, split, none, entry, rfl, changed⟩ :=
          job_last keeps_address_changed tried
        refine ⟨rfl, entry, ⟨earlier, final, ?_, none, changed⟩, ?_⟩
        · rw [exchanges_append, (publish_traced published).1, List.append_nil, split]
        · rw [events_append, job_unheard tried, publish_takes published]
          rfl

theorem password_announced {outcome : Except ServiceError String}
    (taken : (service.changePassword personId referrer).run.Takes steps outcome) :
    Performed.Announced service ⟨.changePassword personId referrer, outcome⟩ steps := by
  have announced : (do
      let password ← (Job.changePassword personId referrer).perform service
      publish (.passwordReset personId)
      return password : Attempt String).run.Takes steps outcome := taken
  rcases announced_takes announced with
    ⟨failure, rfl, failed⟩ | ⟨password, trying, publishing, rfl, rfl, tried, published⟩
  · exact job_unheard failed
  · obtain ⟨earlier, final, split, none, entry, changed⟩ := job_last keeps_password_changed tried
    refine ⟨entry, ⟨earlier, final, ?_, none, changed⟩, ?_⟩
    · rw [exchanges_append, (publish_traced published).1, List.append_nil, split]
    · rw [events_append, job_unheard tried, publish_takes published]
      rfl

theorem other_unheard {task : Task} {outcome : Except ServiceError task.Value}
    (other : task.announces = false) (taken : (task.perform service).run.Takes steps outcome) :
    events steps = [] := by
  let unheard (steps : List Step) : Prop := events steps = []
  have compositional : Compositional fun _ program => program.Always unheard := by
    refine Program.always_compositional rfl fun first second before after => ?_
    change events (first ++ second) = []
    rw [events_append, show events first = [] from before, show events second = [] from after]
    rfl
  refine perform_composed compositional ?logs ?jobs ?announcing ?checking ?following steps _ taken
  case logs => exact fun level message fields => Program.always_log rfl
  case jobs => exact fun job _ steps outcome taken => job_unheard taken
  case announcing => exact fun announces => absurd (other.symm.trans announces) nofun
  case checking =>
    intro _ steps outcome taken
    have attempted : service.Attempted .nothing steps := bind_attempted taken
    exact attempted.unheard
  case following => exact fun _ _ _ _ steps outcome taken => (rename_traced taken).2.2

theorem task_announced {done : Performed}
    (taken : (done.task.perform service).run.Takes steps done.outcome) :
    done.Announced service steps := by
  rcases done with ⟨task, outcome⟩
  cases task with
  | changeAddress personId referrer address => exact address_announced taken
  | changePassword personId referrer => exact password_announced taken
  | _ => exact other_unheard rfl taken

end Tasks

section Publishers

variable {State : Type} {world : World State}

theorem publish_agrees (event : PersonEvent) : (publish event).Agrees world := by
  intro Held Other publisher replaced state held other
  have plain {Mine : Type} (taking : Publisher Mine) (mine : Mine) :
      let run := (publish event).run (world.announcing taking) (state, mine)
      exchanges run.steps = [] ∧ events run.steps = [event] ∧ run.state.1 = state := by
    intro run
    have taken := Program.run_takes (world.announcing taking) (publish event) (state, mine)
    refine ⟨(publish_traced taken).1, publish_takes taken, ?_⟩
    unfold run publish
    rw [Program.run_bind]
    dsimp only [Program.publish, Program.ask, Program.run, World.announcing]
    cases (taking.answer event mine).1 <;> rfl
  obtain ⟨silent, announced, unchanged⟩ := plain publisher held
  obtain ⟨silent', announced', unchanged'⟩ := plain replaced other
  exact ⟨rfl, silent.trans silent'.symm, announced.trans announced'.symm,
    unchanged.trans unchanged'.symm⟩

theorem plain_unannounced {calls : Call → Prop} {effect : Effect} (plain : effect.Plain calls) :
    effect.Unannounced := by
  cases effect with
  | publish event => exact plain.elim
  | _ => trivial

theorem job_agrees {Result : Type} {job : Job Result} : (job.perform service).run.Agrees world := by
  have first : service.WorksFirst job.about (job.once service) := job_works job
  obtain ⟨rest, same, works⟩ := first
  have bound : service.bind.Performs Effect.Unannounced := by
    have opens : service.bind.KeepsTo Conduct.unconditional _ _ _ := bind_keeps fun _ _ _ => trivial
    exact Program.KeepsTo.performs opens fun _ _ => plain_unannounced
  have once : (job.once service).Performs Effect.Unannounced := by
    rw [same]
    exact Attempt.performs_bind bound fun _ =>
      Program.KeepsTo.performs works fun _ _ => plain_unannounced
  have performs : (job.perform service).Performs Effect.Unannounced :=
    RetryPolicy.performs_retrying (fun _ => trivial) (fun _ => trivial) (fun _ => trivial) fun _ => once
  exact Program.Performs.agrees performs

theorem task_agrees {task : Task} : (task.perform service).run.Agrees world := by
  refine perform_composed Program.agrees_compositional ?logs ?jobs ?announcing ?checking ?following
  case logs =>
    intro level message fields
    exact Program.unannounced_agrees (show (Effect.log _).Unannounced from trivial)
  case jobs => exact fun job _ => job_agrees
  case announcing => exact fun _ event => publish_agrees event
  case checking =>
    intro _
    have opens : service.bind.KeepsTo Conduct.unconditional _ _ _ := bind_keeps fun _ _ _ => trivial
    exact (Program.KeepsTo.performs opens fun _ _ => plain_unannounced).agrees
  case following =>
    intro oldReferrer newReferrer oldName _
    have works : service.Works (.ofOldName oldName)
        (service.renameInGroups oldReferrer newReferrer oldName) [] := rename_in_groups_works rfl
    exact (Program.KeepsTo.performs works fun _ _ => plain_unannounced).agrees

theorem session_agrees {tasks : List Task} : (service.performAll tasks).Agrees world := by
  induction tasks with
  | nil => exact Program.agrees_compositional.done []
  | cons task rest induction =>
      refine Program.agrees_compositional.sequence task_agrees fun outcome => ?_
      exact Program.agrees_compositional.sequence induction fun performed =>
        Program.agrees_compositional.done _

end Publishers

/-- The events of a session are those of its tasks, one after the other: one of each change of an address
or a password that succeeded, and none of any other task. It tells of the last connection of that task,
where the entry was read and changed; the task wrote nothing before. With another publisher, whatever it
refuses, results, calls and events are the same, and so is the directory afterwards. -/
theorem events_tell_of_changes {State : Type} (world : World State) (state : State)
    (service : Service) (tasks : List Task) :
    let run := (service.performAll tasks).run world state
    (run.result.map Performed.task = tasks ∧
      ∃ parts : List (List Step), run.steps = parts.flatten ∧
        List.Forall₂ (Performed.Announced service) run.result parts) ∧
      ∀ (Held Other : Type) (publisher : Publisher Held) (replaced : Publisher Other) (held : Held)
        (other : Other),
        Program.Alike ((service.performAll tasks).run (world.announcing publisher) (state, held))
          ((service.performAll tasks).run (world.announcing replaced) (state, other)) := by
  intro run
  obtain ⟨same, parts, split, each⟩ :=
    performed_takes (Program.run_takes world (service.performAll tasks) state)
  refine ⟨⟨same, parts, split, each.imp fun done part taken => task_announced taken⟩, ?_⟩
  exact fun _ _ publisher replaced held other => session_agrees publisher replaced state held other

end TeacherDirectory.Service
