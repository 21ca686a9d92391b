/-!
# Realms

Teachers of public and of private schools are kept in two subtrees of the directory. Which of them a
teacher belongs to follows from the domain of the mail address.
-/

namespace TeacherDirectory

set_option autoImplicit false

inductive Realm
  | publicSchools
  | privateSchools
  deriving DecidableEq

namespace Realm

def unit : Realm → String
  | publicSchools => "oeffentlicheSchulen"
  | privateSchools => "ersatzSchulen"

/-- The domain that belongs to a realm in every installation. -/
def builtInDomain : Realm → String
  | publicSchools => "schule-sh.de"
  | privateSchools => "ersatzschule-sh.de"

end Realm

end TeacherDirectory
