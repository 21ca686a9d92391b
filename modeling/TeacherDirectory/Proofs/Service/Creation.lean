import TeacherDirectory.Proofs.Service.CreationCalls
import TeacherDirectory.Proofs.Service.JoiningCalls

/-!
# How far creating a teacher got

The steps of creating a teacher fall into those that create the entry, those that join the school's
group, and a report that makes no calls. The result tells which of them were reached and how they
ended. The group is joined exactly when an addition of the entry was reported as carried out, so a
teacher whose addition was reported as failed and who is found by the next attempt stays outside.
-/

namespace TeacherDirectory.Service

set_option autoImplicit false

def entering (service : Service) (person : Person) (referrer : String) (realm : Realm)
    (entryUuid : Option String) : Attempt (Option Person) :=
  service.attempt "create_lehrer"
    (service.createTeacherOnce person referrer (service.realmName realm)
      (service.teacherName referrer realm) (entryUuid.getD person.id))

def joinError (schoolCode : String) : ServiceError → ServiceError
  | .joinGroup group reason => .joinGroup group reason
  | failure => .joinGroup (groupId schoolCode) failure.message

/-- The result of creating a teacher whose entry was added, by the outcome of joining the group. -/
def joinedResult (schoolCode : String) (created : Person) :
    Except ServiceError Bool → Except ServiceError Person
  | .ok _ => .ok created
  | .error failure => .error (joinError schoolCode failure)

inductive CreationTrace (service : Service) (person : Person) (domain schoolCode : String)
    (entryUuid : Option String) : List Step → Except ServiceError Person → Prop
  | rejected {steps : List Step} {failure : ServiceError} (silent : exchanges steps = [])
      (argument : failure = .emailDomain domain ∨ failure = .missingReferrer person.id) :
      CreationTrace service person domain schoolCode entryUuid steps (.error failure)
  | failed {realm : Realm} {referrer : String} {steps : List Step} {failure : ServiceError}
      (realmFound : service.settings.realm? domain = some realm)
      (named : person.referrer = some referrer)
      (entered : (service.entering person referrer realm entryUuid).run.Takes steps
        (.error failure)) :
      CreationTrace service person domain schoolCode entryUuid steps (.error failure)
  | existing {realm : Realm} {referrer : String} {steps : List Step}
      (realmFound : service.settings.realm? domain = some realm)
      (named : person.referrer = some referrer)
      (entered : (service.entering person referrer realm entryUuid).run.Takes steps (.ok none)) :
      CreationTrace service person domain schoolCode entryUuid steps (.ok person)
  | added {realm : Realm} {referrer : String} {creating joining reporting : List Step}
      {created : Person} {outcome : Except ServiceError Bool}
      (realmFound : service.settings.realm? domain = some realm)
      (named : person.referrer = some referrer)
      (entered : (service.entering person referrer realm entryUuid).run.Takes creating
        (.ok (some created)))
      (joined : (service.joinGroup referrer schoolCode
        (service.teacherName referrer realm)).run.Takes joining outcome)
      (silent : exchanges reporting = []) :
      CreationTrace service person domain schoolCode entryUuid (creating ++ joining ++ reporting)
        (joinedResult schoolCode created outcome)

variable {service : Service} {person : Person} {domain schoolCode : String}
  {entryUuid : Option String} {steps : List Step}

theorem realm_takes {outcome : Except ServiceError Realm}
    (taken : (service.realm domain).run.Takes steps outcome) :
    match outcome with
    | .ok realm => service.settings.realm? domain = some realm ∧ steps = []
    | .error failure => exchanges steps = [] ∧ failure = .emailDomain domain := by
  unfold realm at taken
  cases found : service.settings.realm? domain with
  | some realm =>
      rw [found] at taken
      obtain ⟨rfl, rfl⟩ := (Attempt.takes_pure realm steps outcome).mp taken
      exact ⟨rfl, rfl⟩
  | none =>
      rw [found] at taken
      obtain ⟨rfl, rfl⟩ := (Attempt.takes_refuse _ _ steps outcome).mp taken
      exact ⟨rfl, rfl⟩

theorem referrer_takes {outcome : Except ServiceError String}
    (taken : (referrer person).run.Takes steps outcome) :
    match outcome with
    | .ok username => person.referrer = some username ∧ steps = []
    | .error failure => exchanges steps = [] ∧ failure = .missingReferrer person.id := by
  unfold referrer at taken
  cases found : person.referrer with
  | some username =>
      rw [found] at taken
      obtain ⟨rfl, rfl⟩ := (Attempt.takes_pure username steps outcome).mp taken
      exact ⟨rfl, rfl⟩
  | none =>
      rw [found] at taken
      obtain ⟨rfl, rfl⟩ := (Attempt.takes_refuse _ _ steps outcome).mp taken
      exact ⟨rfl, rfl⟩

theorem join_new_takes {username name : String} {outcome : Except ServiceError Unit}
    (taken : (service.joinNewTeacher username schoolCode name).run.Takes steps outcome) :
    ∃ joining reporting joined, steps = joining ++ reporting ∧ exchanges reporting = [] ∧
      (service.joinGroup username schoolCode name).run.Takes joining joined ∧
      ((∃ changed, joined = .ok changed ∧ outcome = .ok ()) ∨
        ∃ failure, joined = .error failure ∧ outcome = .error (joinError schoolCode failure)) := by
  obtain ⟨joining, reporting, joined, rfl, joinTaken, reported⟩ :=
    (Program.takes_bind _ _ steps outcome).mp taken
  cases joined with
  | ok changed =>
      rcases reported with ⟨rfl, rfl⟩
      exact ⟨joining, [], .ok changed, rfl, rfl, joinTaken, .inl ⟨changed, rfl, rfl⟩⟩
  | error failure =>
      obtain ⟨_, rest, _, rfl, logged, ended⟩ :=
        (Program.takes_bind _ _ reporting outcome).mp reported
      obtain rfl := (Program.takes_log _ _ _ _ _).mp logged
      have closed : rest = [] ∧ outcome = .error (joinError schoolCode failure) := by
        cases failure <;> exact ended
      rcases closed with ⟨rfl, rfl⟩
      exact ⟨joining, _, .error failure, rfl, rfl, joinTaken, .inr ⟨failure, rfl, rfl⟩⟩

theorem create_teacher_takes {result : Except ServiceError Person}
    (taken : (service.createTeacher person domain schoolCode entryUuid).run.Takes steps result) :
    CreationTrace service person domain schoolCode entryUuid steps result := by
  unfold createTeacher at taken
  rcases (Attempt.takes_bind _ _ _ _).mp taken with
    ⟨failure, refused, rfl⟩ | ⟨_, afterRealm, realm, rfl, realmTaken, realmRest⟩
  · obtain ⟨silent, rfl⟩ := realm_takes refused
    exact .rejected silent (.inl rfl)
  obtain ⟨realmFound, rfl⟩ := realm_takes realmTaken
  rcases (Attempt.takes_bind _ _ _ _).mp realmRest with
    ⟨failure, refused, rfl⟩ | ⟨_, afterReferrer, username, rfl, nameTaken, nameRest⟩
  · obtain ⟨silent, rfl⟩ := referrer_takes refused
    exact .rejected silent (.inr rfl)
  obtain ⟨named, rfl⟩ := referrer_takes nameTaken
  rcases (Attempt.takes_bind _ _ _ _).mp nameRest with
    ⟨failure, failed, rfl⟩ | ⟨creating, afterCreating, created, rfl, entered, joinRest⟩
  · exact .failed realmFound named failed
  cases created with
  | none =>
      rcases joinRest with ⟨rfl, rfl⟩
      rw [List.append_nil]
      exact .existing realmFound named entered
  | some created =>
      rcases (Attempt.takes_bind _ _ _ _).mp joinRest with
        ⟨failure, failed, rfl⟩ | ⟨beforeReport, reporting, _, rfl, joined, reported⟩
      · obtain ⟨joining, logged, outcome, rfl, silent, joinTaken, ended⟩ := join_new_takes failed
        rcases ended with ⟨_, _, impossible⟩ | ⟨failure, rfl, same⟩
        · cases impossible
        · cases same
          have trace := CreationTrace.added realmFound named entered joinTaken silent
          simpa only [joinedResult, List.append_assoc, List.nil_append] using trace
      · obtain ⟨joining, logged, outcome, rfl, silent, joinTaken, ended⟩ := join_new_takes joined
        rcases ended with ⟨changed, rfl, -⟩ | ⟨_, _, impossible⟩
        · have ending : exchanges reporting = [] ∧ result = .ok created := by
            dsimp only at reported
            split at reported
            · obtain ⟨_, rfl, rfl, rfl⟩ := (Attempt.takes_log_bind _ _ _ _ _ _).mp reported
              exact ⟨rfl, rfl⟩
            · rcases reported with ⟨rfl, rfl⟩
              exact ⟨rfl, rfl⟩
          rcases ending with ⟨quiet, rfl⟩
          have quietAll : exchanges (logged ++ reporting) = [] := by
            rw [exchanges_append, silent, quiet, List.append_nil]
          have trace := CreationTrace.added realmFound named entered joinTaken quietAll
          simpa only [joinedResult, List.append_assoc, List.nil_append] using trace
        · cases impossible

theorem join_new_yields {username name : String} {joining : List Exchange}
    {outcome : Except ServiceError Bool}
    (joined : (service.joinGroup username schoolCode name).run.Yields joining outcome) :
    (service.joinNewTeacher username schoolCode name).run.Yields joining
      (match outcome with
      | .ok _ => .ok ()
      | .error failure => .error (joinError schoolCode failure)) := by
  unfold joinNewTeacher
  rw [ExceptT.run_mk]
  refine Program.yields_bind.mpr ⟨joining, [], outcome, (List.append_nil joining).symm, joined, ?_⟩
  cases outcome with
  | ok changed => exact Program.yields_pure.mpr ⟨rfl, rfl⟩
  | error failure =>
      apply Program.yields_log_bind.mpr
      cases failure <;> exact Program.yields_pure.mpr ⟨rfl, rfl⟩

theorem create_teacher_yields {realm : Realm} {referrer : String} {creating joining : List Exchange}
    {created : Person} {outcome : Except ServiceError Bool}
    (realmFound : service.settings.realm? domain = some realm)
    (named : person.referrer = some referrer)
    (entered : (service.entering person referrer realm entryUuid).run.Yields creating
      (.ok (some created)))
    (joined : (service.joinGroup referrer schoolCode
      (service.teacherName referrer realm)).run.Yields joining outcome) :
    (service.createTeacher person domain schoolCode entryUuid).run.Yields (creating ++ joining)
      (joinedResult schoolCode created outcome) := by
  have resolved : service.realm domain = pure realm := by
    unfold Service.realm
    rw [realmFound]
  have resolvedName : Service.referrer person = pure referrer := by
    unfold Service.referrer
    rw [named]
  unfold createTeacher
  rw [resolved, resolvedName, ExceptT.run_bind]
  refine Program.yields_bind.mpr ⟨[], _, .ok realm, rfl, Program.yields_pure.mpr ⟨rfl, rfl⟩, ?_⟩
  refine Program.yields_bind.mpr ⟨[], _, .ok referrer, rfl, Program.yields_pure.mpr ⟨rfl, rfl⟩, ?_⟩
  refine Program.yields_bind.mpr ⟨creating, joining, .ok (some created), rfl, entered, ?_⟩
  refine Program.yields_bind.mpr
    ⟨joining, [], _, (List.append_nil joining).symm, join_new_yields joined, ?_⟩
  cases outcome with
  | error failure => exact Program.yields_pure.mpr ⟨rfl, rfl⟩
  | ok changed =>
      dsimp only
      split
      · exact Program.yields_log_bind.mpr (Program.yields_pure.mpr ⟨rfl, rfl⟩)
      · exact Program.yields_pure.mpr ⟨rfl, rfl⟩

theorem create_opens_first {calls : Call → Prop} {referrer base name uuid : String}
    (searches : ∀ names, calls (userSearch base referrer names))
    (adds : calls (.add name (teacherAttributes person referrer uuid))) :
    service.OpensFirst (Effect.Only calls)
      (service.createTeacherOnce person referrer base name uuid) := by
  refine ⟨_, rfl, Attempt.performs_bind (performs_find_users (searches _)) fun existing => ?_⟩
  split
  · exact Attempt.performs_bind (Attempt.performs_log _ _ _) fun _ => trivial
  · have refusing (failure : DirectoryError) : (do
        Program.log .error s!"LDAP: Creating lehrer FAILED, uid:{name}" [("error", failure.message)]
        return .createTeacher name failure : Program ServiceError).Performs (Effect.Only calls) :=
      Program.performs_bind (Program.performs_ask trivial) fun _ => trivial
    apply Attempt.performs_bind (Attempt.performs_call adds refusing)
    intro _
    apply Attempt.performs_bind (Attempt.performs_log _ _ _)
    intro _
    exact Attempt.performs_bind (Attempt.performs_lift (performs_fetch (searches _)))
      fun _ => trivial

theorem performs_create_once {referrer base name uuid : String} :
    (service.createTeacherOnce person referrer base name uuid).Performs
      (Effect.Only fun _ => True) :=
  (create_opens_first (fun _ => trivial) trivial).performs
    (performs_bound trivial fun _ _ => trivial)

/-- Creating a teacher learns nothing but the answers to its calls. -/
theorem performs_create_teacher :
    (service.createTeacher person domain schoolCode entryUuid).Performs
      (Effect.Only fun _ => True) := by
  have joining (username name : String) :
      (service.joinNewTeacher username schoolCode name).Performs (Effect.Only fun _ => True) := by
    refine Program.performs_bind
      (performs_join.weaken fun _ => Effect.Only.weaken fun _ _ => trivial) fun outcome => ?_
    cases outcome with
    | ok changed => trivial
    | error failure =>
        apply Program.performs_bind (Program.performs_ask trivial)
        intro _
        cases failure <;> trivial
  unfold createTeacher
  refine Attempt.performs_bind performs_realm fun realm => ?_
  refine Attempt.performs_bind performs_referrer fun username => ?_
  refine Attempt.performs_bind (RetryPolicy.performs_retry fun _ => performs_create_once)
    fun created => ?_
  cases created with
  | none => trivial
  | some created =>
      apply Attempt.performs_bind (joining _ _)
      intro _
      dsimp only
      split
      · exact Attempt.performs_bind (Attempt.performs_log _ _ _) fun _ => trivial
      · trivial

end TeacherDirectory.Service
