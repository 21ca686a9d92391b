/-!
# Persons

What the school administration knows of a teacher, and what the directory has about one.
-/

namespace TeacherDirectory

set_option autoImplicit false

/-- A teacher as the school administration knows them. The referrer is the username. -/
structure Person where
  id : String
  givenName : String
  familyName : String
  referrer : Option String
  entryUuid : Option String
  deriving DecidableEq

structure PersonAttributes where
  entryUuid : Option String
  name : String
  givenName : Option String
  surname : Option String
  commonName : Option String
  primaryAddress : Option String
  alternativeAddress : Option String
  deriving DecidableEq

namespace PersonAttributes

/-- The attributes that should have a value, by the name they are reported under. -/
def expected (attributes : PersonAttributes) : List (String × Option String) :=
  [("GivenName", attributes.givenName), ("Surname", attributes.surname),
    ("CN", attributes.commonName), ("MailPrimaryAddress", attributes.primaryAddress),
    ("MailAlternativeAddress", attributes.alternativeAddress)]

def missing (attributes : PersonAttributes) : List String :=
  (attributes.expected.filter fun (_, value) => value.isNone).map Prod.fst

end PersonAttributes

end TeacherDirectory
