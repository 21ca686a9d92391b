import TeacherDirectory.Proofs.Directory.LostAnswers
import TeacherDirectory.Proofs.Retry.Invariant
import TeacherDirectory.Proofs.Service.BasicCalls
import TeacherDirectory.Proofs.Service.Usernames
import TeacherDirectory.Service.Attributes

/-!
# Finding a person while answers get lost

Connecting, binding and searching change nothing, so an attempt that fails there leaves the store as
it was and a lost call behind. A username with one entry below a base is found there by every search
that is answered, and is still found after other attributes of the entry were replaced.
-/

namespace TeacherDirectory.Service

set_option autoImplicit false

open DistinguishedName
open Function (update)

variable {service : Service} {may : List Loss → Loss → Prop} {before : Journal}
  {base username name absence : String} {record changed : Record} {store : Store}
  {names : List String} {entries : List Entry}

section Names

variable {givenName surname newUsername : Option String}

theorem name_changes_replace :
    ∀ change ∈ nameChanges givenName surname newUsername,
      change.kind = .replace ∧ Entry.key change.name ∉ ["uid", "member", "objectclass"] := by
  have folded : Entry.key "cn" = "cn" ∧ Entry.key "givenName" = "givenname" ∧
      Entry.key "sn" = "sn" := by decide +kernel
  intro change member
  simp only [nameChanges, List.mem_append, List.mem_map, Option.mem_toList] at member
  obtain (⟨_, -, rfl⟩ | ⟨_, -, rfl⟩) | ⟨_, -, rfl⟩ := member <;>
    simp [Change.replace, folded]

theorem names_replaced_usernames :
    record.replaced (nameChanges givenName surname newUsername) "uid" = record "uid" :=
  Record.replaced_other fun change member same =>
    (name_changes_replace change member).2 (same ▸ List.mem_cons_self)

end Names

section Replacing

variable {changes : List Change} {start : Store}

/-- While attempts to replace values of an entry fail, it has the values of before or the new ones. -/
def Replacing (name : String) (record : Record) (changes : List Change) (start store : Store) :
    Prop :=
  store = start ∨ store = update start name (some (record.replaced changes))

theorem Replacing.identified (replacing : Replacing name record changes start store)
    (identified : Identified base username name record start)
    (usernames : record.replaced changes "uid" = record "uid") :
    ∃ current, Identified base username name current store := by
  rcases replacing with rfl | rfl
  · exact ⟨record, identified⟩
  · exact ⟨_, identified.set (usernames ▸ identified.named)⟩

theorem Replacing.write (replacing : Replacing name record changes start store)
    (stored : start name = some record)
    (replaces : ∀ change ∈ changes, change.kind = .replace) :
    store.write (.modify name changes) =
      some (update start name (some (record.replaced changes))) := by
  rcases replacing with rfl | rfl
  · exact Store.write_replace stored replaces
  · rw [Store.write_replace (Function.update_self _ _ _) replaces, Function.update_idem,
      Record.replaced_twice]

end Replacing

section Calls

variable {Result : Type} {good : Result → Journal → Prop} {bad : ServiceError → Journal → Prop}

/-- The errors of an attempt that got no connection, or no answer to the search for a person. -/
def IsOutage : ServiceError → Prop
  | .bind _ => True
  | .directory _ => True
  | _ => False

theorem ensures_opened_losing :
    service.bind.Ensures (Journal.losing may) (fun _ after => after = before)
      (fun failure after => IsOutage failure ∧ before.Stumbles may after) before := by
  have connects : before.store.write .connect = some before.store := rfl
  have binds : before.store.write
      (.bind service.settings.bindName service.settings.bindPassword) = some before.store := rfl
  unfold Service.bind
  rw [Attempt.ensures_bind, Journal.ensures_admitted connects]
  refine ⟨fun _ _ => ?_, fun _ after loses => Program.ensures_logged.mpr ⟨trivial, _, rfl, loses⟩⟩
  rw [Attempt.ensures_bind, Journal.ensures_admitted binds]
  refine ⟨fun _ _ => ?_, fun _ after loses => Program.ensures_logged.mpr ⟨trivial, _, rfl, loses⟩⟩
  exact Attempt.ensures_lift.mpr (Program.ensures_log.mpr rfl)

theorem ensures_bound_losing :
    service.bind.Ensures (Journal.losing may) (fun _ after => after = before)
      (fun _ after => before.Stumbles may after) before :=
  ensures_opened_losing.weaken (fun _ _ same => same) fun _ _ failed => failed.2

theorem ensures_users_losing :
    (findUsers base username names).Ensures (Journal.losing may)
      (fun entries after => after = before ∧
        before.store.Finds base .subtree (.byUsername username) names entries)
      (fun failure after => IsOutage failure ∧ before.Stumbles may after) before :=
  Journal.ensures_search (fun _ finds => ⟨rfl, finds⟩) fun _ _ stumbles =>
    Program.ensures_pure.mpr ⟨trivial, stumbles⟩

/-- An attempt that opens a connection and looks for the entries of a username fails by an outage, or
goes on with all of them, from the store as it was. -/
theorem ensures_answered {found : List Entry → Journal → Prop}
    (onLoss : ∀ failure after, IsOutage failure → before.Stumbles may after → bad failure after)
    (rest : ∀ entries, before.store.Finds base .subtree (.byUsername username) names entries →
      found entries before) :
    service.bind.Ensures (Journal.losing may)
      (fun _ between => (findUsers base username names).Ensures (Journal.losing may) found bad
        between) bad before := by
  refine ensures_opened_losing.weaken ?_ fun failure after failed => onLoss _ _ failed.1 failed.2
  rintro _ _ rfl
  refine ensures_users_losing.weaken ?_ fun failure after failed => onLoss _ _ failed.1 failed.2
  rintro entries _ ⟨rfl, finds⟩
  exact rest entries finds

theorem ensures_looked_up {found : List Entry → Journal → Prop}
    (onLoss : ∀ failure after, before.Stumbles may after → bad failure after)
    (rest : ∀ entries, before.store.Finds base .subtree (.byUsername username) names entries →
      found entries before) :
    service.bind.Ensures (Journal.losing may)
      (fun _ between => (findUsers base username names).Ensures (Journal.losing may) found bad
        between) bad before :=
  ensures_answered (fun failure after _ => onLoss failure after) rest

theorem ensures_identified {next : Entry → Attempt Result}
    (identified : Identified service.base username name record before.store)
    (onLoss : ∀ failure after, before.Stumbles may after → bad failure after)
    (rest : ∀ entry, entry.name = name → Store.Shows record names entry →
      (next entry).Ensures (Journal.losing may) good bad before) :
    (service.bind >>= fun _ => service.requirePerson username names absence >>= next).Ensures
      (Journal.losing may) good bad before := by
  unfold requirePerson
  simp only [Attempt.ensures_bind]
  refine ensures_looked_up onLoss fun entries finds => ?_
  obtain ⟨entry, rfl, named, shown⟩ := identified.find finds
  exact Attempt.ensures_pure.mpr (rest entry named shown)

theorem ensures_unidentified {next : Entry → Attempt Result}
    (unidentified : Unidentified service.base username before.store)
    (onLoss : ∀ failure after, before.Stumbles may after → bad failure after)
    (absent : bad .teacherNotFound before) :
    (service.bind >>= fun _ => service.requirePerson username names absence >>= next).Ensures
      (Journal.losing may) good bad before := by
  unfold requirePerson
  simp only [Attempt.ensures_bind]
  refine ensures_looked_up onLoss fun entries finds => ?_
  obtain rfl := unidentified.find finds
  exact Attempt.ensures_refuse.mpr absent

end Calls

end TeacherDirectory.Service
