import TeacherDirectory.Json.Quote

/-!
# Events about persons

After a person's address or password was changed, an event tells who changed and what. It is
written as a JSON object that holds only what applies.
-/

namespace TeacherDirectory

set_option autoImplicit false

structure PersonEvent where
  personId : String
  primaryAddress : Option String
  alternativeAddress : Option String
  passwordChanged : Bool
  deriving DecidableEq

namespace PersonEvent

def type : String := "de.schule-sh.ldap.person-entry-changed"

def addressesChanged (personId primary alternative : String) : PersonEvent :=
  ⟨personId, some primary, some alternative, false⟩

def passwordReset (personId : String) : PersonEvent := ⟨personId, none, none, true⟩

/-- The members that apply, each with the text of its value. -/
def members (event : PersonEvent) : List (String × String) :=
  [("personId", Json.quote event.personId)] ++
    (event.primaryAddress.toList.map fun address => ("mailPrimaryAddress", Json.quote address)) ++
    (event.alternativeAddress.toList.map fun address =>
      ("mailAlternativeAddress", Json.quote address)) ++
    (if event.passwordChanged then [("userPasswordChanged", "true")] else [])

def text (event : PersonEvent) : String :=
  Json.object (event.members.map fun (key, value) => Json.member key value)

end PersonEvent

end TeacherDirectory
