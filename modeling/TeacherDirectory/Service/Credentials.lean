import TeacherDirectory.Service.Basic

/-!
# Mail addresses and passwords

A new mail address becomes the primary one, and the primary address found becomes the alternative
one. A new password is drawn for every attempt. After either change an event is handed over; whether
that succeeds does not matter to the result.
-/

namespace TeacherDirectory.Service

set_option autoImplicit false

/-- The domain of an address: what follows its first at sign, if something stands on both sides. -/
def addressDomain? (address : String) : Option String :=
  let user := address.toList.takeWhile (· ≠ '@')
  match address.toList.dropWhile (· ≠ '@') with
  | _ :: domain =>
      if user.isEmpty || domain.isEmpty then none else some (String.ofList domain)
  | [] => none

def changeAddressOnce (service : Service) (personId referrer address : String) :
    Attempt String := do
  service.bind
  let entry ← service.requirePerson referrer ["mailPrimaryAddress"]
    s!"LDAP: Modifying mailPrimaryAddress FAILED, no entry for personId:{personId}, referrer:{referrer}"
  let alternative := (entry.first? "mailPrimaryAddress").getD address
  Attempt.call
    (.modify entry.name
      [.replace "mailPrimaryAddress" [address], .replace "mailAlternativeAddress" [alternative]])
    fun failure => do
      Program.log .error "LDAP: Modifying mailPrimaryAddress and mailAlternativeAddress FAILED"
        [("error", failure.message)]
      return .modifyAddress failure
  Program.log .info
    s!"LDAP: Successfully modified mailPrimaryAddress and mailAlternativeAddress for personId:{personId}, referrer:{referrer}"
    []
  return alternative

/-- Changes the mail address of a person. The address must lie in a realm. -/
def changeAddress (service : Service) (personId referrer address : String) : Attempt String := do
  match addressDomain? address with
  | none =>
      Attempt.refuse
        s!"LDAP: Invalid email-address:{address}, personId:{personId}, referrer:{referrer}"
        (.emailAddress address)
  | some domain =>
      let _ ← service.realm domain
      let alternative ← service.attempt "change_email_address_by_person_id"
        (service.changeAddressOnce personId referrer address)
      publish (.addressesChanged personId address alternative)
      return personId

def passwordLetters : List Char :=
  "ABCDEFGHIJKLMNOPQRSTUVWXYZabcdefghijklmnopqrstuvwxyz0123456789".toList

def passwordLetter (draw : Fin 62) : Char :=
  passwordLetters.get (draw.cast (by decide))

def passwordOf (draws : Draws) : String := String.ofList (draws.toList.map passwordLetter)

def changePasswordOnce (service : Service) (personId referrer : String) : Attempt String := do
  service.bind
  let entry ← service.requirePerson referrer []
    s!"LDAP: Modifying userPassword (UEM) FAILED, no entry for personId:{personId}, referrer:{referrer}"
  let password := passwordOf (← Program.draw)
  Attempt.call (.modify entry.name [.replace "userPassword" [password]]) fun failure => do
    Program.log .error
      s!"LDAP: Modifying userPassword (UEM) FAILED for personId:{personId}, referrer:{referrer}"
      [("error", failure.message)]
    return .modifyPassword failure
  Program.log .info
    s!"LDAP: Successfully modified userPassword (UEM) for personId:{personId}, referrer:{referrer}"
    []
  return password

def changePassword (service : Service) (personId referrer : String) : Attempt String := do
  let password ← service.attempt "change_user_password_by_person_id"
    (service.changePasswordOnce personId referrer)
  publish (.passwordReset personId)
  return password

end TeacherDirectory.Service
