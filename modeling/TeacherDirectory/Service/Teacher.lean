import TeacherDirectory.Service.Group

/-!
# Teacher entries

A teacher's entry lies in the subtree of a realm and belongs to the group of a school. Creating one
that exists and deleting one that does not are no failures. Group membership has a retry budget of
its own, so a failure to join the group never creates the entry again.
-/

namespace TeacherDirectory.Service

set_option autoImplicit false

def teacherExistsOnce (service : Service) (base referrer : String) : Attempt Bool := do
  service.bind
  let entries ← findUsers base referrer []
  return !entries.isEmpty

def teacherExists (service : Service) (referrer domain : String) : Attempt Bool := do
  let realm ← service.realm domain
  service.attempt "is_lehrer_existing"
    (service.teacherExistsOnce (service.realmName realm) referrer)

def teacherAttributes (person : Person) (referrer entryUuid : String) : Attributes :=
  [("objectclass", ["inetOrgPerson"]), ("cn", [referrer]), ("sn", [person.familyName]),
    ("givenName", [person.givenName]), ("uid", [referrer]), ("entryUUID", [entryUuid])]

/-- One attempt to create a teacher; nothing is given back if there is one already. -/
def createTeacherOnce (service : Service) (person : Person)
    (referrer base name entryUuid : String) : Attempt (Option Person) := do
  service.bind
  let existing ← findUsers base referrer []
  if !existing.isEmpty then
    Program.log .info s!"LDAP: Lehrer {name} exists, nothing to create" []
    return none
  else
    Attempt.call (.add name (teacherAttributes person referrer entryUuid)) fun failure => do
      Program.log .error s!"LDAP: Creating lehrer FAILED, uid:{name}" [("error", failure.message)]
      return .createTeacher name failure
    Program.log .info s!"LDAP: Successfully created lehrer {name}" []
    let found ← fetchEntryUuid base referrer
    return some { person with entryUuid := found }

/-- Makes a new teacher a member of the school's group. Whatever fails, the error is that of
joining. -/
def joinNewTeacher (service : Service) (referrer schoolCode name : String) : Attempt Unit :=
  ExceptT.mk do
    match ← (service.joinGroup referrer schoolCode name).run with
    | .ok _ => return .ok ()
    | .error failure =>
        Program.log .error
          s!"LDAP: Failed to add lehrer {referrer} to group lehrer-{schoolCode}"
          [("error", failure.message)]
        match failure with
        | .joinGroup .. => return .error failure
        | _ => return .error (.joinGroup (groupId schoolCode) failure.message)

/-- Creates a teacher and makes them a member of the school's group. The identifier of the entry is
the one given, or that of the person. -/
def createTeacher (service : Service) (person : Person) (domain schoolCode : String)
    (entryUuid : Option String) : Attempt Person := do
  let realm ← service.realm domain
  let referrer ← referrer person
  let name := service.teacherName referrer realm
  let created ← service.attempt "create_lehrer"
    (service.createTeacherOnce person referrer (service.realmName realm) name
      (entryUuid.getD person.id))
  match created with
  | none => return person
  | some created =>
      service.joinNewTeacher referrer schoolCode name
      if created.entryUuid.isNone then
        Program.log .error
          s!"LDAP: Could not get EntryUUID for referrer:{referrer}, personId:{person.id}" []
      return created

def undeleted (name : String) (failure : DirectoryError) : Program ServiceError := do
  Program.log .error s!"LDAP: Deleting lehrer FAILED, uid:{name}" [("error", failure.message)]
  return .deleteTeacher name failure

def deleteTeacherOnce (service : Service) (person : Person) (referrer base schoolCode : String) :
    Attempt Person := do
  service.bind
  match ← findUsers base referrer [] with
  | [] =>
      Program.log .info s!"LDAP: Lehrer {referrer} does not exist, nothing to delete" []
      return person
  | entry :: _ =>
      Attempt.call (.delete entry.name) (undeleted entry.name)
      Program.log .info s!"LDAP: Successfully deleted lehrer {entry.name}"
        [("kennung", schoolCode)]
      return person

/-- Deletes a teacher. Memberships stay as they are. -/
def deleteTeacher (service : Service) (person : Person) (schoolCode domain : String) :
    Attempt Person := do
  let realm ← service.realm domain
  let referrer ← referrer person
  service.attempt "delete_lehrer"
    (service.deleteTeacherOnce person referrer (service.realmName realm) schoolCode)

def deleteByReferrerOnce (service : Service) (referrer : String) : Attempt String := do
  service.bind
  let entry ← service.requirePerson referrer []
    s!"LDAP: Deleting lehrer FAILED, no entry for referrer:{referrer}"
  Attempt.call (.delete entry.name) (undeleted entry.name)
  Program.log .info s!"LDAP: Successfully deleted lehrer by referrer:{referrer}" []
  return referrer

def deleteByReferrer (service : Service) (referrer : String) : Attempt String :=
  service.attempt "delete_lehrer_by_referrer" (service.deleteByReferrerOnce referrer)

end TeacherDirectory.Service
