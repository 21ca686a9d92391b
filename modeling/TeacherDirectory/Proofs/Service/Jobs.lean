import TeacherDirectory.Proofs.Program.Composition
import TeacherDirectory.Proofs.Service.Connections

/-!
# Jobs of a task

What a task asks of a directory it asks in jobs, which are attempted again after a failure. Most tasks
have one job; a new teacher joins a group by a second one, and a new username is followed up by one in
all groups. A job is taken up only after the arguments were checked. Between the jobs a task logs, and
some tasks hand an event over in the end; so a property that goes over to sequences is one of the
jobs.
-/

namespace TeacherDirectory.Service

set_option autoImplicit false

inductive Job : Type → Type
  | teacherExists (referrer : String) (realm : Realm) : Job Bool
  | createEntry (person : Person) (referrer : String) (realm : Realm) (entryUuid : String) :
      Job (Option Person)
  | deleteEntry (person : Person) (referrer : String) (realm : Realm) (schoolCode : String) :
      Job Person
  | deleteByReferrer (referrer : String) : Job String
  | changeNames (referrer : String) (givenName surname newUsername : Option String) :
      Job (Option String)
  | followRename (referrer username oldName : String) : Job String
  | attributes (personId referrer domain : String) : Job PersonAttributes
  | changeAddress (personId referrer address : String) : Job String
  | changePassword (personId referrer : String) : Job String
  | joinGroup (referrer schoolCode personName : String) : Job Bool
  | leaveGroup (username schoolCode personName : String) : Job Bool
  | groups (personId referrer : String) : Job (List String)

namespace Job

variable {Result : Type}

def operation : Job Result → String
  | teacherExists .. => "is_lehrer_existing"
  | createEntry .. => "create_lehrer"
  | deleteEntry .. => "delete_lehrer"
  | deleteByReferrer _ => "delete_lehrer_by_referrer"
  | changeNames .. => "modify_person_attributes"
  | followRename .. => "update_member_dn_in_groups"
  | attributes .. => "get_person_attributes"
  | changeAddress .. => "change_email_address_by_person_id"
  | changePassword .. => "change_user_password_by_person_id"
  | joinGroup .. => "add_person_to_group"
  | leaveGroup .. => "remove_person_from_group"
  | groups .. => "get_groups_for_person"

def once (service : Service) : Job Result → Attempt Result
  | teacherExists referrer realm => service.teacherExistsOnce (service.realmName realm) referrer
  | createEntry person referrer realm entryUuid =>
      service.createTeacherOnce person referrer (service.realmName realm)
        (service.teacherName referrer realm) entryUuid
  | deleteEntry person referrer realm schoolCode =>
      service.deleteTeacherOnce person referrer (service.realmName realm) schoolCode
  | deleteByReferrer referrer => service.deleteByReferrerOnce referrer
  | changeNames referrer givenName surname newUsername =>
      service.modifyAttributesOnce referrer givenName surname newUsername
  | followRename referrer username oldName => service.renameInGroupsOnce referrer username oldName
  | attributes personId referrer domain => service.attributesOnce personId referrer domain
  | changeAddress personId referrer address =>
      service.changeAddressOnce personId referrer address
  | changePassword personId referrer => service.changePasswordOnce personId referrer
  | joinGroup referrer schoolCode personName =>
      service.joinGroupOnce referrer schoolCode personName
  | leaveGroup username schoolCode personName =>
      service.leaveGroupOnce username schoolCode personName
  | groups personId referrer => service.groupsOnce personId referrer

def perform (service : Service) (job : Job Result) : Attempt Result :=
  service.attempt job.operation (job.once service)

end Job

/-- The jobs of a task, whose arguments were found valid. -/
inductive Task.Runs (service : Service) : Task → {Result : Type} → Job Result → Prop
  | teacherExists {referrer domain : String} {realm : Realm}
      (found : service.settings.realm? domain = some realm) :
      Runs service (.teacherExists referrer domain) (.teacherExists referrer realm)
  | createEntry {person : Person} {domain schoolCode referrer : String}
      {entryUuid : Option String} {realm : Realm}
      (found : service.settings.realm? domain = some realm)
      (named : person.referrer = some referrer) :
      Runs service (.createTeacher person domain schoolCode entryUuid)
        (.createEntry person referrer realm (entryUuid.getD person.id))
  | joinNew {person : Person} {domain schoolCode referrer : String} {entryUuid : Option String}
      {realm : Realm} (found : service.settings.realm? domain = some realm)
      (named : person.referrer = some referrer) :
      Runs service (.createTeacher person domain schoolCode entryUuid)
        (.joinGroup referrer schoolCode (service.teacherName referrer realm))
  | deleteEntry {person : Person} {schoolCode domain referrer : String} {realm : Realm}
      (found : service.settings.realm? domain = some realm)
      (named : person.referrer = some referrer) :
      Runs service (.deleteTeacher person schoolCode domain)
        (.deleteEntry person referrer realm schoolCode)
  | deleteByReferrer {referrer : String} :
      Runs service (.deleteByReferrer referrer) (.deleteByReferrer referrer)
  | changeNames {referrer : String} {givenName surname newUsername : Option String} :
      Runs service (.modifyAttributes referrer givenName surname newUsername)
        (.changeNames referrer givenName surname newUsername)
  | followRename {referrer username oldName : String} {givenName surname : Option String} :
      Runs service (.modifyAttributes referrer givenName surname (some username))
        (.followRename referrer username oldName)
  | attributes {personId referrer domain : String} :
      Runs service (.attributes personId referrer domain) (.attributes personId referrer domain)
  | changeAddress {personId referrer address domain : String} {realm : Realm}
      (parsed : addressDomain? address = some domain)
      (found : service.settings.realm? domain = some realm) :
      Runs service (.changeAddress personId referrer address)
        (.changeAddress personId referrer address)
  | changePassword {personId referrer : String} :
      Runs service (.changePassword personId referrer) (.changePassword personId referrer)
  | joinGroup {referrer schoolCode personName : String} :
      Runs service (.joinGroup referrer schoolCode personName)
        (.joinGroup referrer schoolCode personName)
  | leaveGroup {username schoolCode personName : String} :
      Runs service (.leaveGroup username schoolCode personName)
        (.leaveGroup username schoolCode personName)
  | leaveByUsername {username schoolCode domain : String} {realm : Realm}
      (found : service.settings.realm? domain = some realm) :
      Runs service (.leaveGroupByUsername username schoolCode domain)
        (.leaveGroup username schoolCode (service.teacherName username realm))
  | groups {personId referrer : String} :
      Runs service (.groups personId referrer) (.groups personId referrer)

def Task.announces : Task → Bool
  | changeAddress .. => true
  | changePassword .. => true
  | _ => false

variable {service : Service} {task : Task}

theorem Task.Runs.valid {Result : Type} {job : Job Result} (runs : task.Runs service job) :
    ¬task.Invalid service.settings := by
  cases runs with
  | teacherExists found => simp [Task.Invalid, found]
  | createEntry found named => simp [Task.Invalid, found, named]
  | joinNew found named => simp [Task.Invalid, found, named]
  | deleteEntry found named => simp [Task.Invalid, found, named]
  | changeAddress parsed found => simp [Task.Invalid, parsed, found]
  | leaveByUsername found => simp [Task.Invalid, found]
  | _ => exact id

def rekeyed (service : Service) (password : Option String) : Service :=
  { service with settings := { service.settings with password := password } }

section Composing

variable {related : (Result : Type) → Program Result → Program Result → Prop} {Result : Type}
  {password : Option String}

theorem related_realm (congruent : Congruent related)
    (logs : ∀ level message fields, related Unit (Program.log level message fields)
      (Program.log level message fields))
    {domain : String} {next following : Realm → Attempt Result}
    (rest : ∀ realm, service.settings.realm? domain = some realm →
      related _ (next realm).run (following realm).run) :
    related _ (service.realm domain >>= next).run
      ((service.rekeyed password).realm domain >>= following).run := by
  change related _ _ (service.realm domain >>= following).run
  unfold realm
  cases found : service.settings.realm? domain with
  | some realm => exact rest realm found
  | none => exact congruent.refused_before logs

theorem related_referrer (congruent : Congruent related)
    (logs : ∀ level message fields, related Unit (Program.log level message fields)
      (Program.log level message fields))
    {person : Person} {next following : String → Attempt Result}
    (rest : ∀ username, person.referrer = some username →
      related _ (next username).run (following username).run) :
    related _ (referrer person >>= next).run (referrer person >>= following).run := by
  unfold referrer
  cases named : person.referrer with
  | some username => exact rest username named
  | none => exact congruent.refused_before logs

/-- What a task does is made of its jobs, log lines and the event in the end, whatever the password
is. The two tasks without a job of their own are told apart: a check opens a connection, and a
renaming in groups works on the one that is open. -/
theorem perform_related (password : Option String) (congruent : Congruent related)
    (logs : ∀ level message fields, related Unit (Program.log level message fields)
      (Program.log level message fields))
    (jobs : ∀ {Result : Type} (job : Job Result), task.Runs service job →
      related _ (job.perform service).run (job.perform (service.rekeyed password)).run)
    (announcing : task.announces = true → ∀ event, related Unit (publish event) (publish event))
    (checking : task = .checkConnection →
      related _ service.bind.run (service.rekeyed password).bind.run)
    (following : ∀ oldReferrer newReferrer oldName,
      task = .renameInGroups oldReferrer newReferrer oldName →
        related _ (service.renameInGroups oldReferrer newReferrer oldName).run
          (service.renameInGroups oldReferrer newReferrer oldName).run) :
    related _ (task.perform service).run (task.perform (service.rekeyed password)).run := by
  have ended {Value : Type} (value : Value) :
      related _ (pure value : Attempt Value).run (pure value : Attempt Value).run :=
    congruent.done (Except.ok value : Except ServiceError Value)
  cases task with
  | teacherExists referrer domain =>
      exact related_realm congruent logs fun realm found => jobs _ (.teacherExists found)
  | createTeacher person domain schoolCode entryUuid =>
      refine related_realm congruent logs fun realm found => ?_
      refine related_referrer congruent logs fun username named => ?_
      refine congruent.attempts (jobs _ (.createEntry found named)) fun created => ?_
      cases created with
      | none => exact ended person
      | some created =>
          refine congruent.attempts ?_ fun _ => ?_
          · refine congruent.sequence (jobs _ (.joinNew found named)) fun outcome => ?_
            cases outcome with
            | ok changed => exact congruent.done _
            | error failure =>
                refine congruent.sequence (logs _ _ _) fun _ => ?_
                cases failure <;> exact congruent.done _
          · dsimp only
            split
            · exact congruent.attempts (congruent.lifted (logs _ _ _)) fun _ => ended created
            · exact ended created
  | deleteTeacher person schoolCode domain =>
      refine related_realm congruent logs fun realm found => ?_
      exact related_referrer congruent logs fun username named => jobs _ (.deleteEntry found named)
  | deleteByReferrer referrer => exact jobs _ .deleteByReferrer
  | modifyAttributes referrer givenName surname newUsername =>
      refine congruent.attempts (jobs _ .changeNames) fun oldName => ?_
      cases oldName with
      | none => exact ended referrer
      | some oldName =>
          cases newUsername with
          | none => exact ended referrer
          | some username =>
              refine congruent.attempts ?_ fun _ => ended referrer
              refine congruent.sequence
                (jobs (.followRename referrer username oldName) .followRename) fun outcome => ?_
              cases outcome with
              | ok told => exact congruent.done _
              | error failure =>
                  exact congruent.sequence (logs _ _ _) fun _ => congruent.done _
  | attributes personId referrer domain => exact jobs _ .attributes
  | changeAddress personId referrer address =>
      change related _ (service.changeAddress personId referrer address).run
        ((service.rekeyed password).changeAddress personId referrer address).run
      unfold changeAddress
      cases parsed : addressDomain? address with
      | none => exact congruent.refused logs
      | some domain =>
          refine related_realm congruent logs fun realm found => ?_
          refine congruent.attempts (jobs _ (.changeAddress parsed found)) fun alternative => ?_
          exact congruent.attempts (congruent.lifted (announcing rfl _)) fun _ => ended personId
  | changePassword personId referrer =>
      refine congruent.attempts (jobs _ .changePassword) fun password => ?_
      exact congruent.attempts (congruent.lifted (announcing rfl _)) fun _ => ended password
  | checkConnection => exact checking rfl
  | joinGroup referrer schoolCode personName => exact jobs _ .joinGroup
  | leaveGroup username schoolCode personName => exact jobs _ .leaveGroup
  | leaveGroupByUsername username schoolCode domain =>
      exact related_realm congruent logs fun realm found => jobs _ (.leaveByUsername found)
  | groups personId referrer => exact jobs _ .groups
  | renameInGroups oldReferrer newReferrer oldName => exact following _ _ _ rfl

theorem perform_composed {property : (Result : Type) → Program Result → Prop}
    (compositional : Compositional property)
    (logs : ∀ level message fields, property Unit (Program.log level message fields))
    (jobs : ∀ {Result : Type} (job : Job Result), task.Runs service job →
      property _ (job.perform service).run)
    (announcing : task.announces = true → ∀ event, property Unit (publish event))
    (checking : task = .checkConnection → property _ service.bind.run)
    (following : ∀ oldReferrer newReferrer oldName,
      task = .renameInGroups oldReferrer newReferrer oldName →
        property _ (service.renameInGroups oldReferrer newReferrer oldName).run) :
    property _ (task.perform service).run :=
  -- With its own password the service is beside itself.
  (perform_related service.settings.password compositional.congruent
    (fun level message fields => ⟨logs level message fields, rfl⟩)
    (fun job runs => ⟨jobs job runs, rfl⟩)
    (fun announces event => ⟨announcing announces event, rfl⟩)
    (fun same => ⟨checking same, rfl⟩)
    fun oldReferrer newReferrer oldName same =>
      ⟨following oldReferrer newReferrer oldName same, rfl⟩).1

end Composing

end TeacherDirectory.Service
