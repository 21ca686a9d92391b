import TeacherDirectory.Proofs.Service.Names
import TeacherDirectory.Service.Attributes
import TeacherDirectory.Service.Teacher

/-!
# The entry of a username

A username has one entry below a base or none there, and a search below the base tells which. Writes
to other attributes and to other entries do not change that. The entries that the service adds for
persons have one username, which is their common name as well.
-/

namespace TeacherDirectory

set_option autoImplicit false

open DistinguishedName
open Function (update)

structure Record.Called (username commonName : String) (record : Record) : Prop where
  username : record "uid" = [username]
  commonName : record "cn" = [commonName]

namespace Service

/-- Below a base this is the one entry of a username. -/
structure Identified (base username name : String) (record : Record) (store : Store) : Prop where
  stored : store name = some record
  inside : Within base name
  named : username ∈ record "uid"
  only : ∀ other content, store other = some content → Within base other →
    username ∈ content "uid" → other = name

def Unidentified (base username : String) (store : Store) : Prop :=
  ∀ name record, store name = some record → Within base name → username ∉ record "uid"

variable {base username name : String} {record changed : Record} {store : Store}
  {names : List String} {entries : List Entry}

theorem Identified.find (identified : Identified base username name record store)
    (finds : store.Finds base .subtree (.byUsername username) names entries) :
    ∃ entry, entries = [entry] ∧ entry.name = name ∧ Store.Shows record names entry :=
  finds.eq_singleton identified.stored identified.inside
    (Filter.matches_username.mpr identified.named) fun other content stored covered matched =>
      identified.only other content stored covered (Filter.matches_username.mp matched)

theorem Unidentified.find (unidentified : Unidentified base username store)
    (finds : store.Finds base .subtree (.byUsername username) names entries) : entries = [] :=
  finds.eq_nil fun name record stored covered matched =>
    unidentified name record stored covered (Filter.matches_username.mp matched)

/-- The entry of a username stays the one entry of it when other attributes change. -/
theorem Identified.set (identified : Identified base username name record store)
    (named : username ∈ changed "uid") :
    Identified base username name changed (update store name (some changed)) where
  stored := Function.update_self _ _ _
  inside := identified.inside
  named := named
  only := fun other content stored inside usernames => by
    by_contra different
    rw [Function.update_of_ne different] at stored
    exact different (identified.only other content stored inside usernames)

theorem Identified.beside {other : String} (identified : Identified base username name record store)
    (unnamed : username ∉ changed "uid") (apart : other ≠ name) :
    Identified base username name record (update store other (some changed)) where
  stored := by rw [Function.update_of_ne apart.symm, identified.stored]
  inside := identified.inside
  named := identified.named
  only := fun third content stored inside usernames => by
    by_cases same : third = other
    · rw [same, Function.update_self] at stored
      obtain rfl := Option.some.inj stored
      exact (unnamed usernames).elim
    · rw [Function.update_of_ne same] at stored
      exact identified.only third content stored inside usernames

theorem Unidentified.identified (unidentified : Unidentified base username store)
    (inside : Within base name) (named : username ∈ record "uid") :
    Identified base username name record (update store name (some record)) where
  stored := Function.update_self _ _ _
  inside := inside
  named := named
  only := fun other content stored within usernames => by
    by_contra different
    rw [Function.update_of_ne different] at stored
    exact unidentified other content stored within usernames

theorem Identified.deleted (identified : Identified base username name record store) :
    Unidentified base username (update store name none) := by
  intro other content stored inside usernames
  by_cases same : other = name
  · rw [same, Function.update_self] at stored
    cases stored
  · rw [Function.update_of_ne same] at stored
    exact same (identified.only other content stored inside usernames)

theorem Identified.below {root : String} (identified : Identified base username name record store)
    (lower : Within base root) (inside : Within root name) :
    Identified root username name record store where
  stored := identified.stored
  inside := inside
  named := identified.named
  only := fun other content stored within => identified.only other content stored (within.trans lower)

theorem Unidentified.below {root : String} (unidentified : Unidentified base username store)
    (lower : Within base root) : Unidentified root username store :=
  fun name record stored within => unidentified name record stored (within.trans lower)

section Added

variable {person : Person} {uuid : String}

theorem teacher_called :
    (Record.ofAttributes (teacherAttributes person username uuid)).Called username username := by
  have folded : Entry.key "objectclass" = "objectclass" ∧ Entry.key "cn" = "cn" ∧
      Entry.key "sn" = "sn" ∧ Entry.key "givenName" = "givenname" ∧ Entry.key "uid" = "uid" ∧
      Entry.key "entryUUID" = "entryuuid" := by decide +kernel
  constructor <;> simp [teacherAttributes, Record.ofAttributes, folded]

theorem placeholder_called :
    (Record.ofAttributes (placeholderAttributes username)).Called username username := by
  have folded : Entry.key "objectclass" = "objectclass" ∧ Entry.key "cn" = "cn" ∧
      Entry.key "sn" = "sn" ∧ Entry.key "uid" = "uid" := by decide +kernel
  constructor <;> simp [placeholderAttributes, Record.ofAttributes, folded]

end Added

end Service

end TeacherDirectory
