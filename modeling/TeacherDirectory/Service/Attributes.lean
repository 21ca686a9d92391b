import TeacherDirectory.Service.Group

/-!
# Attributes of a person

Names are replaced as a whole. A new username renames the entry, and then the person in every group;
that has a retry budget of its own, so a failure there never renames the entry again. Reading a
person without an entry creates one that holds the username only.
-/

namespace TeacherDirectory.Service

set_option autoImplicit false

open DistinguishedName

def nameChanges (givenName surname newUsername : Option String) : List Change :=
  (newUsername.toList.map fun username => .replace "cn" [username]) ++
    (givenName.toList.map fun name => .replace "givenName" [name]) ++
    (surname.toList.map fun name => .replace "sn" [name])

/-- One attempt to change names; gives the name that the entry had if it was renamed. -/
def modifyAttributesOnce (service : Service) (referrer : String)
    (givenName surname newUsername : Option String) : Attempt (Option String) := do
  service.bind
  let entry ← service.requirePerson referrer []
    s!"LDAP: Modification FAILED, no entry for person:{referrer}"
  let changes := nameChanges givenName surname newUsername
  if changes.isEmpty then
    Program.log .debug s!"LDAP: No attributes to modify for person:{referrer}" []
    return none
  else
    let refused (failure : DirectoryError) : Program ServiceError :=
      return .modifyAttributes referrer failure
    Attempt.call (.modify entry.name changes) refused
    Program.log .info
      s!"LDAP: Successfully modified givenName/sn/cn for person:{referrer}" []
    match newUsername with
    | none => return none
    | some username =>
        Attempt.call (.rename entry.name (userComponent username)) refused
        Program.log .info s!"LDAP: Successfully modified uid for person:{referrer}" []
        return some entry.name

def renameInGroupsOnce (service : Service) (referrer username oldName : String) :
    Attempt String := do
  service.bind
  service.renameInGroups referrer username oldName

def followRename (service : Service) (referrer username oldName : String) : Attempt Unit :=
  ExceptT.mk do
    match ← (service.attempt "update_member_dn_in_groups"
      (service.renameInGroupsOnce referrer username oldName)).run with
    | .ok _ => return .ok ()
    | .error failure =>
        Program.log .error s!"LDAP: Failed to update groups for person: {referrer}"
          [("error", failure.message)]
        return .error failure

/-- Changes the names of a person and renames the entry if a new username is given. -/
def modifyAttributes (service : Service) (referrer : String)
    (givenName surname newUsername : Option String) : Attempt String := do
  let oldName ← service.attempt "modify_person_attributes"
    (service.modifyAttributesOnce referrer givenName surname newUsername)
  match oldName, newUsername with
  | some oldName, some username => service.followRename referrer username oldName
  | _, _ => pure ()
  return referrer

def readNames : List String :=
  ["entryUUID", "givenName", "sn", "cn", "mailPrimaryAddress", "mailAlternativeAddress"]

def attributesOf (entry : Entry) : PersonAttributes where
  entryUuid := entry.first? "entryUUID"
  name := entry.name
  givenName := entry.first? "givenName"
  surname := entry.first? "sn"
  commonName := entry.first? "cn"
  primaryAddress := entry.first? "mailPrimaryAddress"
  alternativeAddress := entry.first? "mailAlternativeAddress"

def reportMissing (personId referrer : String) : List String → Program Unit
  | [] => return
  | name :: rest => do
      Program.log .warn
        s!"LDAP: {name} was undefined, referrer:{referrer}, personId:{personId}" []
      reportMissing personId referrer rest

def placeholderAttributes (referrer : String) : Attributes :=
  [("objectclass", ["inetOrgPerson"]), ("uid", [referrer]), ("cn", [referrer]),
    ("sn", [referrer])]

def createPlaceholder (service : Service) (referrer domain : String) :
    Attempt PersonAttributes := do
  let realm ← service.realm domain
  let name := service.teacherName referrer realm
  Attempt.call (.add name (placeholderAttributes referrer)) fun failure => do
    Program.log .error s!"LDAP: Creating empty PersonEntry FAILED, DN:{name}"
      [("error", failure.message)]
    return .createTeacher name failure
  Program.log .info s!"LDAP: Successfully created empty PersonEntry, DN:{name}" []
  let entryUuid ← fetchEntryUuid service.base referrer
  return ⟨entryUuid, name, none, none, none, none, none⟩

def attributesOnce (service : Service) (personId referrer domain : String) :
    Attempt PersonAttributes := do
  service.bind
  match ← findUsers service.base referrer readNames with
  | entry :: _ =>
      let attributes := attributesOf entry
      reportMissing personId referrer attributes.missing
      return attributes
  | [] =>
      Program.log .warn
        s!"LDAP: Fetching person-attributes FAILED, no entry for referrer:{referrer}, personId:{personId}"
        []
      service.createPlaceholder referrer domain

/-- Reads a person, whose entry is created if there is none. -/
def attributes (service : Service) (personId referrer domain : String) :
    Attempt PersonAttributes :=
  service.attempt "get_person_attributes"
    (service.attributesOnce personId referrer domain)

end TeacherDirectory.Service
