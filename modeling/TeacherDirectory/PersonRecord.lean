import TeacherDirectory.Json.Record
import TeacherDirectory.Person

/-!
# Persons as JSON

Persons and the attributes of persons are exchanged as records of texts.
-/

namespace TeacherDirectory

set_option autoImplicit false

open Json

namespace Person

def fields : List Field :=
  [⟨"id", true⟩, ⟨"vorname", true⟩, ⟨"familienname", true⟩, ⟨"referrer", false⟩,
    ⟨"ldapEntryUuid", false⟩]

def values (person : Person) : List (Option String) :=
  [some person.id, some person.givenName, some person.familyName, person.referrer,
    person.entryUuid]

def ofValues : List (Option String) → Except Fault Person
  | [some id, some givenName, some familyName, referrer, entryUuid] =>
      .ok ⟨id, givenName, familyName, referrer, entryUuid⟩
  | _ => .error .mismatched

def text (person : Person) : String := recordText fields person.values

def read (text : String) : Except Fault Person := do ofValues (← readRecord fields text)

end Person

namespace PersonAttributes

def fields : List Field :=
  [⟨"entryUuid", false⟩, ⟨"dn", true⟩, ⟨"givenName", false⟩, ⟨"surname", false⟩, ⟨"cn", false⟩,
    ⟨"mailPrimaryAddress", false⟩, ⟨"mailAlternativeAddress", false⟩]

def values (attributes : PersonAttributes) : List (Option String) :=
  [attributes.entryUuid, some attributes.name, attributes.givenName, attributes.surname,
    attributes.commonName, attributes.primaryAddress, attributes.alternativeAddress]

def ofValues : List (Option String) → Except Fault PersonAttributes
  | [entryUuid, some name, givenName, surname, commonName, primaryAddress, alternativeAddress] =>
      .ok ⟨entryUuid, name, givenName, surname, commonName, primaryAddress, alternativeAddress⟩
  | _ => .error .mismatched

def text (attributes : PersonAttributes) : String := recordText fields attributes.values

def read (text : String) : Except Fault PersonAttributes := do ofValues (← readRecord fields text)

def ofValue (value : Value) : Except Fault PersonAttributes := do
  ofValues (← recordOfValue fields value)

end PersonAttributes

end TeacherDirectory
