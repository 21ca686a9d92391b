import TeacherDirectory.DistinguishedName
import TeacherDirectory.Person
import TeacherDirectory.Retry.Run
import TeacherDirectory.Settings.Basic

/-!
# The service

The service keeps teachers, and the school groups they belong to, in a directory. Here are the names
it gives to entries and what its operations have in common: they check their arguments first, and
then every attempt opens a connection of its own and binds on it.
-/

namespace TeacherDirectory

set_option autoImplicit false

open DistinguishedName

structure Service where
  settings : DirectorySettings
  policy : RetryPolicy

def Service.ofSettings (settings : DirectorySettings) : Service := ⟨settings, settings.retryPolicy⟩

namespace Attempt

def call (request : Call) (refused : DirectoryError → Program ServiceError) :
    Attempt request.Reply :=
  ExceptT.mk do
    match ← Program.call request with
    | .ok reply => return .ok reply
    | .error failure => return .error (← refused failure)

def refuse {Result : Type} (message : String) (failure : ServiceError) : Attempt Result := do
  Program.log .error message []
  throw failure

end Attempt

def asDirectoryError (failure : DirectoryError) : Program ServiceError := return .directory failure

namespace Service

def attempt {Result : Type} (service : Service) (operation : String) (once : Attempt Result) :
    Attempt Result :=
  service.policy.retry operation fun _ => once

def base (service : Service) : String := service.settings.base

def realmName (service : Service) (realm : Realm) : String :=
  below (component "ou" realm.unit) service.base

def teacherName (service : Service) (referrer : String) (realm : Realm) : String :=
  below (userComponent referrer) (service.realmName realm)

def schoolName (service : Service) (schoolCode : String) : String :=
  below (component "ou" schoolCode) service.base

def groupsName (service : Service) (schoolCode : String) : String :=
  below (component "cn" "groups") (service.schoolName schoolCode)

def groupId (schoolCode : String) : String := "lehrer-" ++ schoolCode

def groupName (service : Service) (schoolCode : String) : String :=
  below (component "cn" (groupId schoolCode)) (service.groupsName schoolCode)

def groupFilter (groupId : String) : Filter String :=
  .all [.equal "objectclass" "groupOfNames", .equal "cn" groupId]

def realm (service : Service) (domain : String) : Attempt Realm :=
  match service.settings.realm? domain with
  | some realm => return realm
  | none => Attempt.refuse
      s!"LDAP: Could not get root-name because email-domain is invalid, domain:{domain}"
      (.emailDomain domain)

def referrer (person : Person) : Attempt String :=
  match person.referrer with
  | some referrer => return referrer
  | none => Attempt.refuse
      s!"LDAP: Person {person.id} has no referrer, cannot sync with directory"
      (.missingReferrer person.id)

def unbound (failure : DirectoryError) : Program ServiceError := do
  Program.log .error "Could not connect to LDAP" [("error", failure.message)]
  return .bind failure

def bind (service : Service) : Attempt Unit := do
  Attempt.call .connect unbound
  Attempt.call (.bind service.settings.bindName service.settings.bindPassword) unbound
  Program.log .trace "LDAP: Successfully connected" []

def checkConnection (service : Service) : Attempt Unit := service.bind

def findUsers (base referrer : String) (names : List String) : Attempt (List Entry) :=
  Attempt.call (.search base .subtree (.byUsername referrer) names) asDirectoryError

/-- The first entry of a username anywhere below the service's base. Without one, that is logged
and the operation fails. -/
def requirePerson (service : Service) (referrer : String) (names : List String)
    (absence : String) : Attempt Entry := do
  match ← findUsers service.base referrer names with
  | entry :: _ => return entry
  | [] => Attempt.refuse absence .teacherNotFound

/-- Reads the identifier that the directory gave to an entry. No failure ends the operation. -/
def fetchEntryUuid (base referrer : String) : Program (Option String) := do
  match ← Program.call (.search base .subtree (.byUsername referrer) ["entryUUID"]) with
  | .ok entries => return entries.head?.bind fun entry => entry.first? "entryUUID"
  | .error failure =>
      Program.log .debug "entryUUID lookup failed" [("error", failure.message)]
      return none

/-- Hands an event over; a failure is logged and nothing else. -/
def publish (event : PersonEvent) : Program Unit := do
  match ← Program.publish event with
  | .ok _ => return
  | .error failure =>
      Program.log .warn "failed to publish event"
        [("error", failure.message), ("event_type", PersonEvent.type)]

end Service

end TeacherDirectory
