import TeacherDirectory.Proofs.Service.GroupWrites
import TeacherDirectory.Proofs.Service.LostRename
import TeacherDirectory.Proofs.Service.QuietCalls
import TeacherDirectory.Proofs.Service.SingleWrites

/-!
# Writes of usernames

Three kinds of attempts give an entry a username: creating a teacher, creating a placeholder and
renaming. Each looks for a username first and writes an entry then, so what it leaves behind is told
by the store before it. All other calls leave usernames and common names alone.
-/

namespace TeacherDirectory

set_option autoImplicit false

open DistinguishedName
open Function (update)

namespace Record

def Nameless (record : Record) : Prop :=
  record "uid" = [] ∧ "inetOrgPerson" ∉ record "objectclass"

/-- Both records are or are not those of teachers, with the same names. -/
def SameNames (record changed : Record) : Prop :=
  ∀ key ∈ ["objectclass", "uid", "cn"], changed key = record key

end Record

namespace Service

section Kept

/-- The entry of a name is called as before; a new one has no name. -/
inductive EntryKept (before after : Store) (name : String) : Prop
  | same (unchanged : after name = before name)
  | changed {record changed : Record} (stored : before name = some record)
      (later : after name = some changed) (names : record.SameNames changed)
  | added {record : Record} (free : before name = none) (stored : after name = some record)
      (nameless : record.Nameless)

def usernames (store : Store) (name : String) : List String := ((store name).map (· "uid")).getD []

variable {before after : Store} {request : Call} {name : String} {failing : Prop}
  {record : Record}

theorem usernames_stored (stored : before name = some record) :
    usernames before name = record "uid" := by
  unfold usernames
  rw [stored]
  rfl

theorem EntryKept.usernames (kept : EntryKept before after name) :
    usernames after name = usernames before name := by
  cases kept with
  | same unchanged => unfold Service.usernames; rw [unchanged]
  | changed stored later names =>
      rw [usernames_stored stored, usernames_stored later, names "uid" (by simp)]
  | added free stored nameless =>
      rw [usernames_stored stored, nameless.1, Service.usernames, free]
      rfl

theorem nameless_attributes {attributes : Attributes} (quiet : (Call.add name attributes).Quiet) :
    (Record.ofAttributes attributes).Nameless := by
  unfold Record.Nameless Record.ofAttributes
  constructor
  · refine List.flatMap_eq_nil_iff.mpr fun pair chosen => ?_
    obtain ⟨member, named⟩ := List.mem_filter.mp chosen
    exact ((quiet pair member).1 (of_decide_eq_true named)).elim
  · intro listed
    obtain ⟨pair, chosen, value⟩ := List.mem_flatMap.mp listed
    obtain ⟨member, named⟩ := List.mem_filter.mp chosen
    exact (quiet pair member).2 (of_decide_eq_true named) value

theorem quiet_write_keeps (quiet : request.Quiet) (written : before.write request = some after) :
    EntryKept before after name := by
  cases request with
  | search base scope filter names => exact .same (congrFun (Option.some.inj written) name).symm
  | add added attributes =>
      obtain ⟨free, rfl⟩ := Store.write_add_iff.mp written
      by_cases here : name = added
      · subst here
        exact .added free (Function.update_self _ _ _) (nameless_attributes quiet)
      · exact .same (Function.update_of_ne here _ _)
  | modify modified changes =>
      obtain ⟨record, stored, changed, made, rfl⟩ := Store.write_modify_iff.mp written
      by_cases here : name = modified
      · subst here
        refine .changed stored (Function.update_self _ _ _) fun key listed => ?_
        exact Record.changes_other made fun change member same =>
          quiet change member (same ▸ listed)
      · exact .same (Function.update_of_ne here _ _)
  | connect => exact quiet.elim
  | bind admin password => exact quiet.elim
  | rename renamed leaf => exact quiet.elim
  | delete deleted => exact quiet.elim

theorem sparing_write_keeps (sparing : request.Sparing)
    (written : before.write request = some after) :
    after name = none ∨ EntryKept before after name := by
  rcases sparing.quiet_or_delete with quiet | ⟨deleted, rfl⟩
  · exact .inr (quiet_write_keeps quiet written)
  · obtain ⟨-, rfl⟩ := Store.write_delete_iff.mp written
    by_cases here : name = deleted
    · subst here
      exact .inl (Function.update_self _ _ _)
    · exact .inr (.same (Function.update_of_ne here _ _))

/-- What the writes of some calls do to every entry, the calls do, carried out or not. -/
theorem answered_of_writes {calls : Call → Prop} (kept : Store → Store → Prop)
    {answer : request.Answer} (self : ∀ store, kept store store)
    (writes : ∀ {before after}, calls request → before.write request = some after →
      kept before after)
    (called : Call.Opening calls request)
    (answered : Store.answering failing before request answer after) : kept before after := by
  cases answer with
  | error failure => exact answered.2 ▸ self before
  | ok reply =>
      rcases called with opens | quiet
      · have unchanged : before.write request = some before := by
          cases request with
          | connect => rfl
          | bind admin password => rfl
          | _ => exact opens.elim
        exact Option.some.inj (unchanged.symm.trans answered.2) ▸ self before
      · exact writes quiet answered.2

theorem quiet_keeps {answer : request.Answer} (quiet : Call.Opening Call.Quiet request)
    (answered : Store.answering failing before request answer after) (name : String) :
    EntryKept before after name :=
  answered_of_writes (fun before after => ∀ name, EntryKept before after name)
    (fun _ _ => .same rfl) (fun quiet written _ => quiet_write_keeps quiet written) quiet answered
    name

theorem sparing_keeps {answer : request.Answer} (sparing : Call.Opening Call.Sparing request)
    (answered : Store.answering failing before request answer after) (name : String) :
    after name = none ∨ EntryKept before after name :=
  answered_of_writes
    (fun before after => ∀ name, after name = none ∨ EntryKept before after name)
    (fun _ _ => .inr (.same rfl)) (fun sparing written _ => sparing_write_keeps sparing written)
    sparing answered name

end Kept

section Users

structure UserEntry (base username name : String) (record : Record) (store : Store) : Prop where
  stored : store name = some record
  inside : Within base name
  named : username ∈ record "uid"

variable {service : Service} {failing : Prop} {before after : Store}
  {base username name domain personId absence : String} {names : List String} {record : Record}

theorem Unidentified.no_entry (unidentified : Unidentified base username before) :
    ¬UserEntry base username name record before :=
  fun entry => unidentified name record entry.stored entry.inside entry.named

theorem ensures_users_store {found : List Entry → Store → Prop} {bad : ServiceError → Store → Prop}
    (refusing : failing → ∀ failure, bad failure before)
    (absent : Unidentified base username before → found [] before)
    (present : ∀ entry rest record, UserEntry base username entry.name record before →
      found (entry :: rest) before) :
    service.bind.Ensures (Store.answering failing)
      (fun _ between => (findUsers base username names).Ensures (Store.answering failing) found bad
        between) bad before := by
  refine ensures_bound_store.weaken ?bound ?unbound
  case unbound =>
    rintro failure _ ⟨mayFail, rfl, -⟩
    exact refusing mayFail failure
  intro _ between same
  subst same
  unfold findUsers
  refine Store.ensures_search.mpr ⟨fun entries finds => ?_, fun mayFail failure =>
    Program.ensures_pure.mpr (refusing mayFail _)⟩
  cases entries with
  | nil =>
      exact absent fun name record stored inside named =>
        finds.none_matches stored inside (Filter.matches_username.mpr named)
  | cons entry rest =>
      obtain ⟨record, stored, inside, matched, -⟩ := finds.found entry List.mem_cons_self
      exact present entry rest record ⟨stored, inside, Filter.matches_username.mp matched⟩

theorem ensures_fetched_store {post : Option String → Store → Prop}
    (holds : ∀ found, post found before) :
    (fetchEntryUuid base username).Ensures (Store.answering failing) post before := by
  refine ensures_fetch.mpr fun answer after answered => ?_
  obtain rfl : after = before := Store.answering_read rfl answered
  exact holds _

end Users

section Entering

variable {service : Service} {failing : Prop} {before after : Store} {person : Person}
  {base username name domain personId uuid : String} {record : Record}

structure Entered (base username name : String) (record : Record) (before after : Store) :
    Prop where
  unknown : Unidentified base username before
  free : before name = none
  stored : after = update before name (some record)

def CreateEnds (person : Person) (base username name uuid : String) (before : Store)
    (created : Option Person) (after : Store) : Prop :=
  match created with
  | none => after = before ∧ ¬Unidentified base username before
  | some _ => Entered base username name
      (Record.ofAttributes (teacherAttributes person username uuid)) before after

theorem ensures_create_once_store :
    (service.createTeacherOnce person username base name uuid).Ensures (Store.answering failing)
      (CreateEnds person base username name uuid before)
      (fun _ after => after = before ∧ (failing ∨ before name ≠ none)) before := by
  unfold createTeacherOnce
  simp only [Attempt.ensures_bind]
  refine ensures_users_store (fun mayFail _ => ⟨rfl, .inl mayFail⟩) (fun unknown => ?_)
    fun entry rest record user => ?_
  · simp only [List.isEmpty_nil, Bool.not_true, Bool.false_eq_true, if_false, Attempt.ensures_bind,
      Store.ensures_add, Attempt.ensures_lift, Attempt.ensures_pure, Program.ensures_bind,
      Program.ensures_log, Program.ensures_pure]
    refine ⟨fun free => ensures_fetched_store fun found => ?_, fun cause _ => ⟨trivial, cause⟩⟩
    exact ⟨unknown, free, rfl⟩
  · simp only [List.isEmpty_cons, Bool.not_false, if_true, Attempt.ensures_bind,
      Attempt.ensures_lift, Attempt.ensures_pure, Program.ensures_log]
    exact ⟨rfl, fun unknown => unknown.no_entry user⟩

theorem ensures_create_store {operation : String} :
    (service.attempt operation (service.createTeacherOnce person username base name uuid)).Ensures
      (Store.answering failing) (CreateEnds person base username name uuid before)
      (fun _ after => after = before ∧ (failing ∨ before name ≠ none)) before :=
  RetryPolicy.ensures_retry_unmoved fun _ => ensures_create_once_store

def ReadEnds (service : Service) (username domain : String) (before after : Store) : Prop :=
  (after = before ∧ ¬Unidentified service.base username before) ∨
    ∃ realm, service.settings.realm? domain = some realm ∧
      Entered service.base username (service.teacherName username realm)
        (Record.ofAttributes (placeholderAttributes username)) before after

def NoPlace (service : Service) (username domain : String) (before : Store) : Prop :=
  ∀ realm, service.settings.realm? domain = some realm →
    before (service.teacherName username realm) ≠ none

theorem ensures_attributes_once_store :
    (service.attributesOnce personId username domain).Ensures (Store.answering failing)
      (fun _ => ReadEnds service username domain before)
      (fun _ after => after = before ∧ (failing ∨ NoPlace service username domain before))
      before := by
  unfold attributesOnce
  simp only [Attempt.ensures_bind]
  refine ensures_users_store (fun mayFail _ => ⟨rfl, .inl mayFail⟩) (fun unknown => ?_)
    fun entry rest record user => ?_
  · unfold createPlaceholder
    simp only [Attempt.ensures_bind, Attempt.ensures_lift, Program.ensures_log, ensures_realm,
      Store.ensures_add, Attempt.ensures_pure, Program.ensures_bind, Program.ensures_pure]
    refine ⟨fun realm found => ⟨fun free => ensures_fetched_store fun _ => ?_, fun cause _ => ?_⟩,
      fun none => ?_⟩
    · exact .inr ⟨realm, found, unknown, free, rfl⟩
    · refine ⟨trivial, cause.imp_right fun taken other foundOther => ?_⟩
      exact Option.some.inj (found.symm.trans foundOther) ▸ taken
    · exact ⟨trivial, .inr fun realm found => by cases none.symm.trans found⟩
  · simp only [Attempt.ensures_bind, Attempt.ensures_lift, Attempt.ensures_pure]
    exact ensures_report_missing (.inl ⟨rfl, fun unknown => unknown.no_entry user⟩)

theorem ensures_attributes_store :
    (service.attributes personId username domain).Ensures (Store.answering failing)
      (fun _ => ReadEnds service username domain before)
      (fun _ after => after = before ∧ (failing ∨ NoPlace service username domain before))
      before :=
  RetryPolicy.ensures_retry_unmoved fun _ => ensures_attributes_once_store

end Entering

section Naming

variable {service : Service} {failing : Prop} {before after : Store} {history : List Exchange}
  {username new name absence : String} {givenName surname : Option String}
  {record changed : Record}

def movedRecord (name new : String) (givenName surname : Option String) (record : Record) :
    Record :=
  (namedRecord givenName surname new record).renamed
    (readComponent? ((split? name).map Prod.fst |>.getD name)) (some ("uid", new))

theorem renamed_store_eq : renamedStore name new givenName surname record before =
    update (update before name none) (renameUser name new)
      (some (movedRecord name new givenName surname record)) := by
  have leaf : readComponent? (userComponent new) = some ("uid", new) :=
    read_component is_type_uid new
  unfold renamedStore Store.moved movedRecord
  rw [moved_name_user, leaf]

theorem moved_record_values :
    new ∈ movedRecord name new givenName surname record "uid" ∧
      ∀ key, ∀ listed ∈ movedRecord name new givenName surname record key,
        (key = "uid" ∧ listed = new) ∨ listed ∈ namedRecord givenName surname new record key := by
  have folded : Entry.key "uid" = "uid" := by decide +kernel
  have values := (namedRecord givenName surname new record).renamed_values
    (readComponent? ((split? name).map Prod.fst |>.getD name)) "uid" new
  rwa [folded] at values

structure RenamesUser (service : Service) (username new : String)
    (givenName surname : Option String) (before : Store) (name : String) (record : Record)
    (after : Store) : Prop where
  user : UserEntry service.base username name record before
  free : RenameFree name new before
  stored : after = renamedStore name new givenName surname record before

/-- How renaming a person fails: before anything was written, or between the two writes. -/
inductive RenamingFails (service : Service) (failing : Prop) (username new : String)
    (givenName surname : Option String) (before : Store) (after : Store × List Exchange) : Prop
  | early (same : after.1 = before)
      (cause : failing ∨ Unidentified service.base username before)
  | late {name : String} {record : Record} {failure : DirectoryError}
      (user : UserEntry service.base username name record before)
      (stored : after.1 = update before name (some (namedRecord givenName surname new record)))
      (refused : ⟨.rename name (userComponent new), .error failure⟩ ∈ after.2)
      (cause : failing ∨ ¬RenameFree name new before)

theorem ensures_person_store :
    (do service.bind; service.requirePerson username [] absence).Ensures (Store.answering failing)
      (fun entry after => after = before ∧
        ∃ record, UserEntry service.base username entry.name record before)
      (fun _ after => after = before ∧ (failing ∨ Unidentified service.base username before))
      before := by
  unfold requirePerson
  simp only [Attempt.ensures_bind]
  refine ensures_users_store (fun mayFail _ => ⟨rfl, .inl mayFail⟩) (fun unknown => ?_)
    fun entry rest record user => ?_
  · exact Attempt.ensures_refuse.mpr ⟨rfl, .inr unknown⟩
  · exact Attempt.ensures_pure.mpr ⟨rfl, record, user⟩

theorem ensures_naming_once :
    (service.modifyAttributesOnce username givenName surname (some new)).Ensures
      (Store.answering failing).noting
      (fun renamed after => history ⊆ after.2 ∧ ∃ name record, renamed = some name ∧
        RenamesUser service username new givenName surname before name record after.1)
      (fun _ after => history ⊆ after.2 ∧
        RenamingFails service failing username new givenName surname before after)
      (before, history) := by
  have given : (nameChanges givenName surname (some new)).isEmpty = false := rfl
  unfold modifyAttributesOnce
  refine Attempt.ensures_assoc.mpr (Attempt.ensures_bind.mpr
    (ensures_person_store.noted.weaken ?found ?unfound))
  case unfound =>
    rintro _ ⟨_, later⟩ ⟨⟨same, cause⟩, grows⟩
    exact ⟨grows, .early same cause⟩
  rintro entry ⟨between, later⟩ ⟨⟨same, record, user⟩, grows⟩
  obtain rfl : before = between := same.symm
  have written : before.write (.modify entry.name (nameChanges givenName surname (some new))) =
      some (update before entry.name (some (namedRecord givenName surname new record))) :=
    Store.write_replace user.stored fun change member => (name_changes_replace change member).1
  dsimp only
  rw [given, if_neg Bool.false_ne_true, Attempt.ensures_bind, Store.ensures_call_noted, written]
  refine ⟨fun _ between _ same => ?written, fun failure cause =>
    Program.ensures_pure.mpr ?unwritten⟩
  case unwritten =>
    exact ⟨List.subset_append_of_subset_left _ grows,
      .early rfl (.inl (cause.resolve_right (Option.some_ne_none _)))⟩
  obtain rfl := Option.some.inj same
  -- From here on the other names are changed, and the entry has its old name still.
  rw [Attempt.ensures_bind, Attempt.ensures_lift, Program.ensures_log, Attempt.ensures_bind,
    Store.ensures_call_noted]
  have grown (answer : (Call.modify entry.name (nameChanges givenName surname (some new))).Answer)
      (answer' : (Call.rename entry.name (userComponent new)).Answer) :
      history ⊆ later ++ [⟨_, answer⟩] ++ [⟨_, answer'⟩] :=
    List.subset_append_of_subset_left _ (List.subset_append_of_subset_left _ grows)
  refine ⟨fun _ final _ moved => ?_, fun failure cause => Program.ensures_pure.mpr ?_⟩
  · by_cases free : RenameFree entry.name new before
    · rw [write_rename_free free] at moved
      obtain rfl := Option.some.inj moved
      simp only [Attempt.ensures_bind, Attempt.ensures_lift, Attempt.ensures_pure,
        Program.ensures_log]
      exact ⟨grown _ _, entry.name, record, rfl, user, free, rfl⟩
    · rw [write_rename_taken free] at moved
      cases moved
  · refine ⟨grown _ _, .late user rfl (List.mem_append_right _ List.mem_cons_self) ?_⟩
    refine cause.imp_right fun unwritten free => ?_
    rw [write_rename_free free] at unwritten
    cases unwritten

end Naming

end Service

end TeacherDirectory
