import TeacherDirectory.Proofs.Program.Parallel
import TeacherDirectory.Proofs.Service.Jobs

/-!
# Sessions side by side

Two sessions perform the same tasks, with the same policy and settings but for the password to bind
with. If they are answered alike they go on alike, task by task: every reader of an entry sees the
same values, so the calls that follow, the log lines, the counters and the waits are the same, and
so are the results. A drawn password is the one thing that stays apart, in the change that sets it
and in the result of its task.
-/

namespace TeacherDirectory.Service

set_option autoImplicit false

def passwordChange (name : String) (draws : Draws) : Call :=
  .modify name [.replace "userPassword" [passwordOf draws]]

/-- The calls in which passwords stand count as alike, with a password to bind with in place of
the service's own. -/
structure Covers (likeness : Likeness) (service : Service) (password : Option String) : Prop where
  binding : likeness.calls (.bind service.settings.bindName service.settings.bindPassword)
    (.bind service.settings.bindName (service.rekeyed password).settings.bindPassword)
  setting : ∀ (name : String) {draws other : Draws}, likeness.draws draws other →
    likeness.calls (passwordChange name draws) (passwordChange name other)

/-- Passwords made of draws that count as alike. -/
def DrawnAlike (likeness : Likeness) (password other : String) : Prop :=
  ∃ draws draws', likeness.draws draws draws' ∧ password = passwordOf draws ∧
    other = passwordOf draws'

section Parts

variable {likeness : Likeness} {service : Service} {password : Option String}
  {First Second Result : Type}

open Program (parallel_congruent)

theorem parallel_search {base : String} {scope : SearchScope} {filter : Filter String}
    {names : List String} {refused : DirectoryError → Program ServiceError}
    (failed : ∀ failure, (refused failure).Parallel likeness Eq (refused failure)) :
    @Attempt.Parallel (List Entry) (List Entry) likeness (List.Forall₂ Entry.Alike)
      (Attempt.call (.search base scope filter names) refused)
      (Attempt.call (.search base scope filter names) refused) :=
  Attempt.parallel_call (.same _) (fun _ _ answered => likeness.readable answered) failed

theorem parallel_request {request other : Call} {good : First → Second → Prop}
    {refused : DirectoryError → Program ServiceError} {rest : Attempt First}
    {following : Attempt Second} (beside : likeness.Beside (.call request) (.call other))
    (failed : ∀ failure, (refused failure).Parallel likeness Eq (refused failure))
    (later : rest.Parallel likeness good following) :
    (Attempt.call request refused >>= fun _ => rest).Parallel likeness good
      (Attempt.call other refused >>= fun _ => following) :=
  Attempt.parallel_bind
    (Attempt.parallel_call beside (fun _ _ _ => trivial) failed : @Attempt.Parallel request.Reply
      other.Reply likeness (fun _ _ => True) _ _)
    fun _ _ _ => later

theorem parallel_logged {level : LogLevel} {message : String} {fields : List (String × String)}
    {program : Program Result} (parallel : program.Parallel likeness Eq program) :
    (do Program.log level message fields; program).Parallel likeness Eq
      (do Program.log level message fields; program) :=
  Program.parallel_bind Program.parallel_log fun _ _ _ => parallel

theorem parallel_reported {level : LogLevel} {message : String} {fields : List (String × String)}
    {value : Result} :
    (do Program.log level message fields; return value : Attempt Result).Parallel likeness Eq
      (do Program.log level message fields; return value) :=
  Attempt.parallel_bind Attempt.parallel_log fun _ _ _ => .ok rfl

theorem parallel_bound (covers : Covers likeness service password) :
    service.bind.Parallel likeness Eq (service.rekeyed password).bind := by
  have unable (failure : DirectoryError) :
      (unbound failure).Parallel likeness Eq (unbound failure) := parallel_logged rfl
  refine parallel_request (.same _) unable ?_
  exact parallel_request (.call covers.binding) unable Attempt.parallel_log

theorem parallel_find_users {base referrer : String} {names : List String} :
    (findUsers base referrer names).Parallel likeness (List.Forall₂ Entry.Alike)
      (findUsers base referrer names) :=
  parallel_search fun _ => rfl

theorem parallel_require_person {referrer absence : String} {names : List String} :
    (service.requirePerson referrer names absence).Parallel likeness Entry.Alike
      (service.requirePerson referrer names absence) := by
  refine Attempt.parallel_bind parallel_find_users fun entries others alike => ?_
  cases alike with
  | nil => exact Attempt.parallel_refuse
  | cons first rest => exact Attempt.parallel_pure first

theorem parallel_fetch {base referrer : String} :
    (fetchEntryUuid base referrer).Parallel likeness Eq (fetchEntryUuid base referrer) := by
  refine Program.parallel_call (.same _) (fun entries others answered => ?_)
    fun _ => parallel_logged rfl
  cases (likeness.readable answered : List.Forall₂ Entry.Alike entries others) with
  | nil => exact rfl
  | cons first rest => exact first.first "entryUUID"

theorem parallel_publish {event : PersonEvent} :
    (publish event).Parallel likeness Eq (publish event) := by
  have asked : (Program.publish event).Parallel likeness Eq (Program.publish event) :=
    Program.parallel_ask fun _ _ answered => answered
  refine (parallel_congruent likeness).sequence asked fun answer => ?_
  cases answer with
  | ok _ => exact rfl
  | error failure => exact Program.parallel_log

theorem parallel_realm {domain : String} :
    (service.realm domain).Parallel likeness Eq (service.realm domain) := by
  unfold realm
  split
  · exact .ok rfl
  · exact Attempt.parallel_refuse

theorem parallel_opened (covers : Covers likeness service password) {good : First → Second → Prop}
    {rest : Attempt First} {other : Attempt Second} (parallel : rest.Parallel likeness good other) :
    (do service.bind; rest).Parallel likeness good (do (service.rekeyed password).bind; other) :=
  Attempt.parallel_bind (parallel_bound covers) fun _ _ _ => parallel

theorem parallel_teacher_exists (covers : Covers likeness service password)
    {base referrer : String} :
    (service.teacherExistsOnce base referrer).Parallel likeness Eq
      ((service.rekeyed password).teacherExistsOnce base referrer) := by
  refine parallel_opened covers ?_
  refine Attempt.parallel_bind parallel_find_users fun entries others alike => ?_
  cases alike with
  | nil => exact .ok rfl
  | cons first rest => exact .ok rfl

theorem parallel_create_entry (covers : Covers likeness service password) {person : Person}
    {referrer base name entryUuid : String} :
    (service.createTeacherOnce person referrer base name entryUuid).Parallel likeness Eq
      ((service.rekeyed password).createTeacherOnce person referrer base name entryUuid) := by
  refine parallel_opened covers ?_
  refine Attempt.parallel_bind parallel_find_users fun entries others alike => ?_
  cases alike with
  | nil =>
      refine parallel_request (.same _) (fun _ => parallel_logged rfl) ?_
      refine Attempt.parallel_bind Attempt.parallel_log fun _ _ _ => ?_
      refine Attempt.parallel_bind (Attempt.parallel_lift parallel_fetch) fun found _ same => ?_
      exact same ▸ .ok rfl
  | cons first rest => exact parallel_reported

theorem parallel_undeleted {name : String} {failure : DirectoryError} :
    (undeleted name failure).Parallel likeness Eq (undeleted name failure) :=
  parallel_logged rfl

theorem parallel_delete_entry (covers : Covers likeness service password) {person : Person}
    {referrer base schoolCode : String} :
    (service.deleteTeacherOnce person referrer base schoolCode).Parallel likeness Eq
      ((service.rekeyed password).deleteTeacherOnce person referrer base schoolCode) := by
  refine parallel_opened covers ?_
  refine Attempt.parallel_bind parallel_find_users fun entries others alike => ?_
  cases alike with
  | nil => exact parallel_reported
  | cons first rest =>
      dsimp only
      rw [← first.name]
      exact parallel_request (.same _) (fun _ => parallel_undeleted) parallel_reported

theorem parallel_delete_by_referrer (covers : Covers likeness service password)
    {referrer : String} :
    (service.deleteByReferrerOnce referrer).Parallel likeness Eq
      ((service.rekeyed password).deleteByReferrerOnce referrer) := by
  refine parallel_opened covers ?_
  refine Attempt.parallel_bind parallel_require_person fun entry other alike => ?_
  rw [← alike.name]
  exact parallel_request (.same _) (fun _ => parallel_undeleted) parallel_reported

theorem parallel_change_names (covers : Covers likeness service password) {referrer : String}
    {givenName surname newUsername : Option String} :
    (service.modifyAttributesOnce referrer givenName surname newUsername).Parallel likeness Eq
      ((service.rekeyed password).modifyAttributesOnce referrer givenName surname
        newUsername) := by
  refine parallel_opened covers ?_
  refine Attempt.parallel_bind parallel_require_person fun entry other alike => ?_
  dsimp only
  rw [← alike.name]
  split
  · exact parallel_reported
  · refine parallel_request (.same _) (fun _ => rfl) ?_
    refine Attempt.parallel_bind Attempt.parallel_log fun _ _ _ => ?_
    cases newUsername with
    | none => exact .ok rfl
    | some username =>
        exact parallel_request (.same _) (fun _ => rfl) parallel_reported

theorem parallel_update_groups {oldName newName : String} {groups others : List Entry}
    (alike : List.Forall₂ Entry.Alike groups others) :
    (updateGroups oldName newName groups).Parallel likeness Eq
      (updateGroups oldName newName others) := by
  have congruent := parallel_congruent likeness
  induction alike with
  | nil => exact rfl
  | cons first rest induction =>
      unfold updateGroups
      dsimp only
      rw [← first.name, ← first.values]
      refine Program.parallel_call (.same _) (fun _ _ _ => ?_) fun failure => ?_
      all_goals
        refine congruent.sequence Program.parallel_log fun _ => ?_
        refine congruent.sequence (congruent.done _) fun failures => ?_
        exact congruent.sequence induction fun more => congruent.done _

theorem parallel_rename_in_groups {oldReferrer newReferrer oldName : String} :
    (service.renameInGroups oldReferrer newReferrer oldName).Parallel likeness Eq
      (service.renameInGroups oldReferrer newReferrer oldName) := by
  refine Attempt.parallel_bind (parallel_search fun _ => parallel_logged rfl)
    fun groups others alike => ?_
  cases alike with
  | nil => exact parallel_reported
  | cons first rest =>
      rename_i entry other entries others
      have sameNumber : (entry :: entries).length = (other :: others).length :=
        (List.Forall₂.cons first rest).length_eq
      dsimp only
      rw [← sameNumber]
      refine Attempt.parallel_bind (Attempt.parallel_lift
        (parallel_update_groups (.cons first rest))) fun failures _ same => ?_
      subst same
      split
      · exact Attempt.parallel_bind Attempt.parallel_log fun _ _ _ => parallel_reported
      · exact parallel_reported

theorem parallel_follow_rename (covers : Covers likeness service password)
    {referrer username oldName : String} :
    (service.renameInGroupsOnce referrer username oldName).Parallel likeness Eq
      ((service.rekeyed password).renameInGroupsOnce referrer username oldName) :=
  parallel_opened covers parallel_rename_in_groups

theorem attributes_of_alike {entry other : Entry} (alike : entry.Alike other) :
    attributesOf entry = attributesOf other := by
  simp only [attributesOf, alike.name, alike.first]

theorem parallel_report_missing {personId referrer : String} {missing : List String} :
    (reportMissing personId referrer missing).Parallel likeness Eq
      (reportMissing personId referrer missing) := by
  induction missing with
  | nil => exact rfl
  | cons name rest induction => exact parallel_logged induction

theorem parallel_placeholder {referrer domain : String} :
    (service.createPlaceholder referrer domain).Parallel likeness Eq
      (service.createPlaceholder referrer domain) := by
  refine Attempt.parallel_bind parallel_realm fun realm _ same => ?_
  subst same
  refine parallel_request (.same _) (fun _ => parallel_logged rfl) ?_
  refine Attempt.parallel_bind Attempt.parallel_log fun _ _ _ => ?_
  refine Attempt.parallel_bind (Attempt.parallel_lift parallel_fetch) fun found _ same => ?_
  exact same ▸ .ok rfl

theorem parallel_attributes (covers : Covers likeness service password)
    {personId referrer domain : String} :
    (service.attributesOnce personId referrer domain).Parallel likeness Eq
      ((service.rekeyed password).attributesOnce personId referrer domain) := by
  refine parallel_opened covers ?_
  refine Attempt.parallel_bind parallel_find_users fun entries others alike => ?_
  cases alike with
  | nil => exact Attempt.parallel_bind Attempt.parallel_log fun _ _ _ => parallel_placeholder
  | cons first rest =>
      dsimp only
      rw [attributes_of_alike first]
      exact Attempt.parallel_bind (Attempt.parallel_lift parallel_report_missing) fun _ _ _ =>
        .ok rfl

theorem parallel_change_address (covers : Covers likeness service password)
    {personId referrer address : String} :
    (service.changeAddressOnce personId referrer address).Parallel likeness Eq
      ((service.rekeyed password).changeAddressOnce personId referrer address) := by
  refine parallel_opened covers ?_
  refine Attempt.parallel_bind parallel_require_person fun entry other alike => ?_
  rw [← alike.name, ← alike.first]
  exact parallel_request (.same _) (fun _ => parallel_logged rfl) parallel_reported

theorem parallel_change_password (covers : Covers likeness service password)
    {personId referrer : String} :
    (service.changePasswordOnce personId referrer).Parallel likeness (DrawnAlike likeness)
      ((service.rekeyed password).changePasswordOnce personId referrer) := by
  refine parallel_opened covers ?_
  refine Attempt.parallel_bind parallel_require_person fun entry other alike => ?_
  rw [← alike.name]
  have draws : Program.draw.Parallel likeness likeness.draws Program.draw :=
    Program.parallel_ask fun _ _ answered => answered
  refine Attempt.parallel_bind (Attempt.parallel_lift draws) fun drawn drawn' given => ?_
  refine parallel_request (.call (covers.setting entry.name given))
    (fun _ => parallel_logged rfl) ?_
  exact Attempt.parallel_bind Attempt.parallel_log fun _ _ _ => .ok ⟨drawn, drawn', given, rfl, rfl⟩

theorem parallel_ensure_school {schoolCode : String}
    {refused : DirectoryError → Program ServiceError}
    (failed : ∀ failure, (refused failure).Parallel likeness Eq (refused failure)) :
    (service.ensureSchool schoolCode refused).Parallel likeness Eq
      (service.ensureSchool schoolCode refused) := by
  -- A missing role is reported whether the unit was found or created.
  have reported {roles others : List Entry} {message : String}
      (alike : List.Forall₂ Entry.Alike roles others) :
      (if roles.isEmpty then Program.log .warn message [] else pure () : Attempt Unit).Parallel
        likeness Eq (if others.isEmpty then Program.log .warn message [] else pure ()) := by
    cases alike with
    | nil => exact Attempt.parallel_log
    | cons first rest => exact .ok rfl
  refine Attempt.parallel_bind (parallel_search failed) fun units others alike => ?_
  cases alike with
  | nil =>
      refine parallel_request (.same _) (fun failure => parallel_logged (failed failure)) ?_
      refine Attempt.parallel_bind Attempt.parallel_log fun _ _ _ => ?_
      exact Attempt.parallel_bind (parallel_search failed) fun _ _ => reported
  | cons first rest => exact Attempt.parallel_bind (parallel_search failed) fun _ _ => reported

theorem parallel_find_group {groupId : String} {refused : DirectoryError → Program ServiceError}
    (failed : ∀ failure, (refused failure).Parallel likeness Eq (refused failure)) :
    (service.findGroup groupId refused).Parallel likeness (Option.Rel Entry.Alike)
      (service.findGroup groupId refused) := by
  refine Attempt.parallel_bind (parallel_search failed) fun groups others alike => ?_
  cases alike with
  | nil => exact .ok .none
  | cons first rest => exact .ok (.some first)

theorem parallel_join_group (covers : Covers likeness service password)
    {referrer schoolCode personName : String} :
    (service.joinGroupOnce referrer schoolCode personName).Parallel likeness Eq
      ((service.rekeyed password).joinGroupOnce referrer schoolCode personName) := by
  refine parallel_opened covers ?_
  refine Attempt.parallel_bind (parallel_ensure_school fun _ => rfl) fun _ _ _ => ?_
  refine Attempt.parallel_bind (parallel_find_group fun _ => rfl) fun found found' alike => ?_
  cases alike with
  | none =>
      exact parallel_request (.same _) (fun _ => parallel_logged rfl) parallel_reported
  | some alike =>
      dsimp only
      rw [← alike.values, ← alike.name]
      split
      · exact parallel_reported
      · exact parallel_request (.same _) (fun _ => parallel_logged rfl) parallel_reported

theorem parallel_leave_group (covers : Covers likeness service password)
    {username schoolCode personName : String} :
    (service.leaveGroupOnce username schoolCode personName).Parallel likeness Eq
      ((service.rekeyed password).leaveGroupOnce username schoolCode personName) := by
  refine parallel_opened covers ?_
  refine Attempt.parallel_bind (parallel_find_group fun _ => parallel_logged rfl)
    fun found found' alike => ?_
  cases alike with
  | none => exact Attempt.parallel_refuse
  | some alike =>
      dsimp only
      rw [← alike.values, ← alike.name]
      split
      · exact Attempt.parallel_refuse
      · split
        all_goals
          exact parallel_request (.same _) (fun _ => parallel_logged rfl) parallel_reported

theorem parallel_groups (covers : Covers likeness service password) {personId referrer : String} :
    (service.groupsOnce personId referrer).Parallel likeness Eq
      ((service.rekeyed password).groupsOnce personId referrer) := by
  refine parallel_opened covers ?_
  refine Attempt.parallel_bind parallel_require_person fun person person' same => ?_
  rw [← same.name]
  refine Attempt.parallel_bind (parallel_search fun _ => parallel_logged rfl)
    fun groups others alike => ?_
  rw [← map_alike (fun _ _ first => first.name) alike]
  cases alike with
  | nil => exact parallel_reported
  | cons first rest => exact .ok rfl

end Parts

def Job.Alike (likeness : Likeness) {Result : Type} : Job Result → Result → Result → Prop
  | changePassword .. => DrawnAlike likeness
  | _ => Eq

/-- Values of a task in two runs: the same one, but for drawn passwords. -/
def Task.Alike (likeness : Likeness) : (task : Task) → task.Value → task.Value → Prop
  | changePassword .. => DrawnAlike likeness
  | teacherExists .. | createTeacher .. | deleteTeacher .. | deleteByReferrer .. => Eq
  | modifyAttributes .. | attributes .. | changeAddress .. | checkConnection => Eq
  | joinGroup .. | leaveGroup .. | leaveGroupByUsername .. | groups .. | renameInGroups .. => Eq

inductive Performed.Alike (likeness : Likeness) : Performed → Performed → Prop
  | both {task : Task} {outcome other : Except ServiceError task.Value}
      (ended : Attempt.EndAlike (task.Alike likeness) outcome other) :
      Alike likeness ⟨task, outcome⟩ ⟨task, other⟩

/-- Only resets of a password that both succeeded can have outcomes that differ. -/
theorem Performed.Alike.same_or_drawn {likeness : Likeness} {performed other : Performed}
    (alike : performed.Alike likeness other) :
    performed = other ∨ ∃ personId referrer password password',
      performed = ⟨.changePassword personId referrer, .ok password⟩ ∧
        other = ⟨.changePassword personId referrer, .ok password'⟩ ∧
          DrawnAlike likeness password password' := by
  cases alike with
  | @both task outcome other ended =>
      cases ended with
      | error failure => exact .inl rfl
      | ok related =>
          cases task with
          | changePassword personId referrer => exact .inr ⟨_, _, _, _, rfl, rfl, related⟩
          | _ => exact .inl ((related : _ = _) ▸ rfl)

section Sessions

variable {likeness : Likeness} {service : Service} {password : Option String}

theorem parallel_job (covers : Covers likeness service password) {Result : Type}
    (job : Job Result) :
    (job.perform service).Parallel likeness (job.Alike likeness)
      (job.perform (service.rekeyed password)) := by
  refine RetryPolicy.parallel_retry fun _ => ?_
  cases job with
  | teacherExists referrer realm => exact parallel_teacher_exists covers
  | createEntry person referrer realm entryUuid => exact parallel_create_entry covers
  | deleteEntry person referrer realm schoolCode => exact parallel_delete_entry covers
  | deleteByReferrer referrer => exact parallel_delete_by_referrer covers
  | changeNames referrer givenName surname newUsername => exact parallel_change_names covers
  | followRename referrer username oldName => exact parallel_follow_rename covers
  | attributes personId referrer domain => exact parallel_attributes covers
  | changeAddress personId referrer address => exact parallel_change_address covers
  | changePassword personId referrer => exact parallel_change_password covers
  | joinGroup referrer schoolCode personName => exact parallel_join_group covers
  | leaveGroup username schoolCode personName => exact parallel_leave_group covers
  | groups personId referrer => exact parallel_groups covers

theorem parallel_task (covers : Covers likeness service password) (task : Task) :
    (task.perform service).Parallel likeness (task.Alike likeness)
      (task.perform (service.rekeyed password)) := by
  -- Only the task that draws gives two values; all others are made of parts with equal results.
  by_cases draws : ∃ personId referrer, task = .changePassword personId referrer
  · obtain ⟨personId, referrer, rfl⟩ := draws
    refine Attempt.parallel_bind (parallel_job covers (.changePassword personId referrer))
      fun password password' drawn => ?_
    exact Attempt.parallel_bind (Attempt.parallel_lift parallel_publish) fun _ _ _ => .ok drawn
  have undrawn : (task.perform service).run.Parallel likeness Eq
      (task.perform (service.rekeyed password)).run := by
    refine perform_related password (Program.parallel_congruent likeness)
      (fun _ _ _ => Program.parallel_log) (fun job runs => Attempt.parallel_eq.mp ?jobs)
      (fun _ _ => parallel_publish) (fun _ => Attempt.parallel_eq.mp (parallel_bound covers))
      fun _ _ _ _ => Attempt.parallel_eq.mp parallel_rename_in_groups
    have performed := parallel_job covers job
    cases runs with
    | changePassword => exact (draws ⟨_, _, rfl⟩).elim
    | _ => exact performed
  have ended := Attempt.parallel_eq.mpr undrawn
  cases task with
  | changePassword personId referrer => exact (draws ⟨_, _, rfl⟩).elim
  | _ => exact ended

theorem parallel_session (covers : Covers likeness service password) (tasks : List Task) :
    (service.performAll tasks).Parallel likeness (List.Forall₂ (Performed.Alike likeness))
      ((service.rekeyed password).performAll tasks) := by
  induction tasks with
  | nil => exact .nil
  | cons task rest induction =>
      refine Program.parallel_bind (parallel_task covers task) fun outcome other ended => ?_
      exact Program.parallel_bind induction fun _ _ later => .cons (.both ended) later

/-- Sessions that are answered alike have the same effects in the same order and the same outcomes,
up to what counts as alike. -/
theorem sessions_alike {State Other : Type} {world : World State} {replaced : World Other}
    {state : State} {other : Other} {tasks : List Task}
    (covers : Covers likeness service password)
    (answered : likeness.AnsweredAlike ((service.performAll tasks).run world state).steps
      (((service.rekeyed password).performAll tasks).run replaced other).steps) :
    List.Forall₂ likeness.Beside
        (((service.performAll tasks).run world state).steps.map Step.effect)
        ((((service.rekeyed password).performAll tasks).run replaced other).steps.map Step.effect) ∧
      List.Forall₂ (Performed.Alike likeness) ((service.performAll tasks).run world state).result
        (((service.rekeyed password).performAll tasks).run replaced other).result :=
  (parallel_session covers tasks).traced (Program.run_takes _ _ _) (Program.run_takes _ _ _)
    answered

end Sessions

end TeacherDirectory.Service
