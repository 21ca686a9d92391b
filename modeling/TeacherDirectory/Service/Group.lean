import TeacherDirectory.Service.Basic

/-!
# School groups

Every school has one group of its teachers. The group is created with its first member and deleted
with its last one, because a directory allows no group without members. A renamed teacher is renamed
in all groups.
-/

namespace TeacherDirectory.Service

set_option autoImplicit false

open DistinguishedName

def findGroup (service : Service) (groupId : String)
    (refused : DirectoryError → Program ServiceError) : Attempt (Option Entry) := do
  let groups ← Attempt.call
    (.search service.base .subtree (groupFilter groupId) ["member"]) refused
  return groups.head?

/-- Creates the unit of a school if there is none, and reports a missing role for its groups. -/
def ensureSchool (service : Service) (schoolCode : String)
    (refused : DirectoryError → Program ServiceError) : Attempt Unit := do
  let school := service.schoolName schoolCode
  let units ← Attempt.call
    (.search school .base (.equal "objectClass" "organizationalUnit") []) refused
  if units.isEmpty then
    Attempt.call (.add school [("objectclass", ["organizationalUnit"]), ("ou", [schoolCode])])
      fun failure => do
        Program.log .error
          s!"LDAP: Failed to create organizational unit {school}, errMsg: {failure.message}" []
        refused failure
    Program.log .info s!"LDAP: Successfully created organizational unit {school}" []
  let role := service.groupsName schoolCode
  let roles ← Attempt.call
    (.search role .base (.equal "objectClass" "organizationalRole") []) refused
  if roles.isEmpty then
    Program.log .warn s!"LDAP: Organizational role {role} not found" []

def joinGroupOnce (service : Service) (referrer schoolCode personName : String) :
    Attempt Bool := do
  let group := groupId schoolCode
  let refused (failure : DirectoryError) : Program ServiceError :=
    return .joinGroup group failure.message
  let refusedTo (action : String) (failure : DirectoryError) : Program ServiceError := do
    Program.log .error s!"LDAP: Failed to {action} group {group}, errMsg: {failure.message}" []
    refused failure
  service.bind
  service.ensureSchool schoolCode refused
  match ← service.findGroup group refused with
  | some entry =>
      if (entry.values "member").contains personName then
        Program.log .info s!"LDAP: Person {referrer} is already in group {group}" []
        return false
      else
        Attempt.call (.modify entry.name [.add "member" [personName]])
          (refusedTo "add person to")
        Program.log .info s!"LDAP: Successfully added person {referrer} to group {group}" []
        return true
  | none =>
      Attempt.call
        (.add (service.groupName schoolCode)
          [("objectclass", ["groupOfNames"]), ("cn", [group]), ("member", [personName])])
        (refusedTo "create")
      Program.log .info
        s!"LDAP: Successfully created group {group} and added person {referrer}" []
      return true

/-- Makes a person a member of a school's group; `false` if they were one already. -/
def joinGroup (service : Service) (referrer schoolCode personName : String) : Attempt Bool :=
  service.attempt "add_person_to_group"
    (service.joinGroupOnce referrer schoolCode personName)

def leaveGroupOnce (service : Service) (username schoolCode personName : String) :
    Attempt Bool := do
  let group := groupId schoolCode
  let refused (failure : DirectoryError) : Program ServiceError := do
    Program.log .error
      s!"LDAP: Failed to remove person from group {group}, errMsg: {failure.message}" []
    return .leaveGroup group failure.message
  service.bind
  match ← service.findGroup group refused with
  | none => Attempt.refuse s!"LDAP: Group {group} not found" (.groupNotFound group)
  | some entry =>
      let members := entry.values "member"
      if !members.contains personName then
        Attempt.refuse s!"LDAP: Person {username} is not in group {group}"
          (.notInGroup username group)
      else if members.length = 1 then
        Attempt.call (.delete entry.name) refused
        Program.log .info s!"LDAP: Successfully deleted group {group}" []
        return true
      else
        Attempt.call (.modify entry.name [.delete "member" [personName]]) refused
        Program.log .info
          s!"LDAP: Successfully removed person {username} from group {group}" []
        return true

def leaveGroup (service : Service) (username schoolCode personName : String) : Attempt Bool :=
  service.attempt "remove_person_from_group"
    (service.leaveGroupOnce username schoolCode personName)

def leaveGroupByUsername (service : Service) (username schoolCode domain : String) :
    Attempt Bool := do
  let realm ← service.realm domain
  service.leaveGroup username schoolCode (service.teacherName username realm)

def renameMember (oldName newName : String) (members : List String) : List String :=
  members.map fun member => if member = oldName then newName else member

/-- Replaces the members of each group; a failure is logged and the others go on. Gives the number
of failures. -/
def updateGroups (oldName newName : String) : List Entry → Program Nat
  | [] => return 0
  | group :: rest => do
      let members := renameMember oldName newName (group.values "member")
      let failures ←
        match ← Program.call (.modify group.name [.replace "member" members]) with
        | .ok _ => do
            Program.log .info s!"LDAP: Updated member data for group: {group.name}" []
            pure 0
        | .error failure => do
            Program.log .error
              s!"LDAP: Error while updating member data for group: {group.name}, errMsg: {failure.message}"
              []
            pure 1
      return failures + (← updateGroups oldName newName rest)

/-- Gives a renamed teacher the new name in every group that lists the old one, on the connection
that is open. -/
def renameInGroups (service : Service) (oldReferrer newReferrer oldName : String) :
    Attempt String := do
  let groups ← Attempt.call (.search service.base .subtree (.byMember oldName) ["member"])
    fun failure => do
      Program.log .error
        s!"LDAP: Error while searching for groups for person: {oldReferrer}"
        [("error", failure.message)]
      return .groupSearch oldReferrer
  if groups.isEmpty then
    let message := s!"No groups found for person:{oldReferrer}"
    Program.log .info s!"LDAP: {message}" []
    return message
  else
    let failures ← updateGroups oldName (renameUser oldName newReferrer) groups
    if 0 < failures then
      Program.log .warn s!"LDAP: Some groups kept the old member DN of {oldReferrer}"
        [("failed", toString failures), ("total", toString groups.length)]
    let message := s!"Updated member data for {groups.length} groups."
    Program.log .info s!"LDAP: {message}" []
    return message

def groupsOnce (service : Service) (personId referrer : String) : Attempt (List String) := do
  service.bind
  let person ← service.requirePerson referrer []
    s!"LDAP: Fetching groups FAILED, no entry for personId:{personId}, referrer:{referrer}"
  let groups ← Attempt.call (.search service.base .subtree (.byMember person.name) ["cn"])
    fun failure => do
      Program.log .error
        s!"LDAP: Fetching groups failed, personId:{personId}, referrer:{referrer}"
        [("error", failure.message)]
      return .fetchGroups personId referrer
  if groups.isEmpty then
    Program.log .info
      s!"LDAP: No groups found for person, personId:{personId}, referrer:{referrer}" []
  return groups.map Entry.name

def groups (service : Service) (personId referrer : String) : Attempt (List String) :=
  service.attempt "get_groups_for_person" (service.groupsOnce personId referrer)

end TeacherDirectory.Service
