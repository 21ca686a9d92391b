import TeacherDirectory.Directory.Call

/-!
# Service errors

Why an operation of the service failed. An error has a short name of its kind, a message, and the
directory's own error as its source where it carries one that the message leaves out.
-/

namespace TeacherDirectory

set_option autoImplicit false

inductive ServiceError
  | bind (source : DirectoryError)
  | emailDomain (domain : String)
  | emailAddress (address : String)
  | missingReferrer (personId : String)
  | teacherNotFound
  | createTeacher (name : String) (source : DirectoryError)
  | deleteTeacher (name : String) (source : DirectoryError)
  | modifyAttributes (referrer : String) (source : DirectoryError)
  | joinGroup (groupId reason : String)
  | leaveGroup (groupId reason : String)
  | groupNotFound (groupId : String)
  | notInGroup (username groupId : String)
  | groupSearch (referrer : String)
  | fetchGroups (personId referrer : String)
  | modifyAddress (source : DirectoryError)
  | modifyPassword (source : DirectoryError)
  | directory (error : DirectoryError)
  deriving DecidableEq

namespace ServiceError

def kind : ServiceError → String
  | bind _ => "bind"
  | emailDomain _ => "email_domain"
  | emailAddress _ => "email_address"
  | missingReferrer _ => "missing_referrer"
  | teacherNotFound => "search"
  | createTeacher .. => "create_lehrer"
  | deleteTeacher .. => "delete_lehrer"
  | modifyAttributes .. => "modify_person_attributes"
  | joinGroup .. => "add_person_to_group"
  | leaveGroup .. => "remove_person_from_group"
  | groupNotFound _ => "group_not_found"
  | notInGroup .. => "person_not_in_group"
  | groupSearch _ => "group_search"
  | fetchGroups .. => "fetch_groups"
  | modifyAddress _ => "modify_email"
  | modifyPassword _ => "modify_user_password"
  | directory _ => "directory"

def message : ServiceError → String
  | bind _ => "LDAP bind FAILED"
  | emailDomain domain => s!"LDAP: email domain {domain} does not match any root"
  | emailAddress address =>
      s!"LDAP: email address {address} cannot be split into local part and domain"
  | missingReferrer personId => s!"LDAP: person {personId} has no referrer"
  | teacherNotFound => "LDAP: lehrer could not be found"
  | createTeacher name _ => s!"LDAP: creating lehrer {name} FAILED"
  | deleteTeacher name _ => s!"LDAP: deleting lehrer {name} FAILED"
  | modifyAttributes referrer _ => s!"LDAP: modifying attributes of {referrer} FAILED"
  | joinGroup groupId reason => s!"LDAP: failed to add person to group {groupId}: {reason}"
  | leaveGroup groupId reason => s!"LDAP: failed to remove person from group {groupId}: {reason}"
  | groupNotFound groupId => s!"LDAP: Group {groupId} not found"
  | notInGroup username groupId => s!"LDAP: Person {username} is not in group {groupId}"
  | groupSearch referrer => s!"LDAP: Error while searching for groups for person: {referrer}"
  | fetchGroups personId referrer =>
      s!"LDAP: Fetching groups failed, personId:{personId}, referrer:{referrer}"
  | modifyAddress _ => "LDAP: modifying mailPrimaryAddress and mailAlternativeAddress FAILED"
  | modifyPassword _ => "LDAP: modifying userPassword FAILED"
  | directory error => error.message

def source? : ServiceError → Option DirectoryError
  | bind source => some source
  | createTeacher _ source => some source
  | deleteTeacher _ source => some source
  | modifyAttributes _ source => some source
  | modifyAddress source => some source
  | modifyPassword source => some source
  | _ => none

end ServiceError

end TeacherDirectory
