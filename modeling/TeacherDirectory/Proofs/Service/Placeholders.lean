import TeacherDirectory.Proofs.Service.KnownPersons
import TeacherDirectory.Proofs.Service.LostAdditions
import TeacherDirectory.Proofs.Service.PersonReading
import TeacherDirectory.Proofs.Service.RepeatedWrites

/-!
# Persons that are created by reading them

Reading a person without an entry adds one. The operations on teachers look for an entry below the
unit of a realm, and reading looks below the base; both find the entry that was added, for every
username and from every domain of the realm. So it counts as a teacher, is neither created nor added
again, and is deleted like any other.
-/

namespace TeacherDirectory.Service

set_option autoImplicit false

open DistinguishedName
open Function (update)

variable {service : Service} {realm : Realm} {personId referrer domain name : String}
  {record : Record} {store : Store}

section Reading

structure ReadsFirst (service : Service) (personId referrer : String) (steps : List Step)
    (outcome : Except ServiceError PersonAttributes) (entry : Entry) (value : PersonAttributes) :
    Prop where
  given : outcome = .ok value
  first : FirstValues entry value
  writeless : writesAmong (exchanges steps) = []
  warned : warnings steps = missingWarnings personId referrer entry
  anywhere : ∀ domain, (service.attributesOnce personId referrer domain).run.Takes steps outcome

theorem ReadsOrCreates.reads {steps : List Step} {outcome : Except ServiceError PersonAttributes}
    {entry : Entry} {others : List Entry}
    (ways : service.ReadsOrCreates personId referrer domain steps outcome)
    (found : ⟨userSearch service.base referrer readNames, .ok (entry :: others)⟩ ∈
      exchanges steps) :
    ∃ value, service.ReadsFirst personId referrer steps outcome entry value := by
  -- Reading is the only way in which a search was answered with entries.
  cases ways with
  | unopened opens => exact (opens _ found).elim
  | unanswered calls => simp [calls, opening, userSearch] at found
  | @read entry' others' value calls first warned anywhere =>
      obtain ⟨rfl, -⟩ : entry = entry' ∧ others = others' := by
        simpa [calls, opening, userSearch] using found
      refine ⟨value, rfl, first, ?_, warned, anywhere⟩
      rw [calls]
      rfl
  | unplaced _ calls => simp [calls, opening, nobody, userSearch] at found
  | refused _ calls => simp [calls, opening, nobody, userSearch, placeholderAdd] at found
  | created _ calls =>
      simp [calls, opening, nobody, userSearch, placeholderAdd, readBack, readNames] at found

end Reading

section Creating

/-- Nothing in a store is the entry of a person: none has the username, and none the name that an
entry of the person would be given. -/
structure NoEntry (service : Service) (realm : Realm) (referrer : String) (store : Store) :
    Prop where
  unnamed : Unidentified service.base referrer store
  free : store (service.teacherName referrer realm) = none

/-- Where every entry has the value that its name begins with, as directories demand, a username that
no entry has begins no name either. -/
theorem NoEntry.of_leaves (unnamed : Unidentified service.base referrer store)
    (leaves : ∀ name record type value, store name = some record →
      readComponent? ((split? name).map Prod.fst |>.getD name) = some (type, value) →
      value ∈ record (Entry.key type)) : service.NoEntry realm referrer store where
  unnamed := unnamed
  free := by
    by_contra taken
    obtain ⟨record, stored⟩ := Option.ne_none_iff_exists'.mp taken
    have folded : Entry.key "uid" = "uid" := by decide +kernel
    have named := leaves _ _ _ _ stored teacher_name_leaf
    rw [folded] at named
    exact unnamed _ record stored teacher_name_within named

theorem NoEntry.identified (absent : service.NoEntry realm referrer store) :
    Identified service.base referrer (service.teacherName referrer realm)
      (.ofAttributes (placeholderAttributes referrer))
      (service.withPlaceholder referrer realm store) :=
  placeholder_identified absent.unnamed

theorem NoEntry.placed (absent : service.NoEntry realm referrer store) :
    Identified (service.realmName realm) referrer (service.teacherName referrer realm)
      (.ofAttributes (placeholderAttributes referrer))
      (service.withPlaceholder referrer realm store) :=
  absent.identified.below realm_name_within teacher_name_within_realm

theorem NoEntry.restored (absent : service.NoEntry realm referrer store) :
    update (service.withPlaceholder referrer realm store) (service.teacherName referrer realm) none =
      store := by
  unfold withPlaceholder
  rw [Function.update_idem, ← absent.free, Function.update_eq_self]

def OnlyName (name : String) (value : PersonAttributes) : Prop :=
  ∃ uuid, value = ⟨uuid, name, none, none, none, none, none⟩

theorem achieves_placeholder (absent : service.NoEntry realm referrer store)
    (known : service.settings.realm? domain = some realm) :
    Achieves (service.attributes personId referrer domain)
      (OnlyName (service.teacherName referrer realm))
      [⟨service.placeholderAdd referrer realm, .ok ()⟩] store
      (service.withPlaceholder referrer realm store) := by
  apply ensures_finding
  intro entries finds
  obtain rfl := absent.unnamed.find finds
  simp only [Attempt.ensures_bind, Attempt.ensures_lift, Program.ensures_log]
  apply ensures_accepted known
  have written := @Store.write_add _ _ (placeholderAttributes referrer) absent.free
  refine Attempt.ensures_bind.mpr ((Store.ensures_carried_out_noted written).mpr ⟨?_, False.elim⟩)
  intro _ _
  simp only [Attempt.ensures_bind, Attempt.ensures_lift, Attempt.ensures_pure, Program.ensures_log,
    ensures_fetch]
  rintro answer ⟨after, calls⟩ ⟨answered, noted⟩
  obtain rfl : calls = _ := noted
  exact ⟨⟨_, rfl⟩, rfl, Store.answering_read rfl answered⟩

theorem achieves_read (identified : Identified service.base referrer name record store) :
    Achieves (service.attributes personId referrer domain) (·.name = name) [] store store := by
  apply ensures_finding
  intro entries finds
  obtain ⟨entry, rfl, rfl, -⟩ := identified.find finds
  simp only [Attempt.ensures_bind, Attempt.ensures_lift, Attempt.ensures_pure]
  exact ensures_report_missing ⟨rfl, rfl, rfl⟩

end Creating

section Results

variable {State : Type} {world : World State} {held : State → Store} {state later : State}

/-- All operations take an entry of the store for that of the person, and deleting the person leaves
the store of before. -/
structure EntryServes (service : Service) (realm : Realm) (referrer : String) (world : World State)
    (held : State → Store) (before : Store) (state : State) : Prop where
  teacher : ∀ domain, service.settings.realm? domain = some realm →
    Succeeded held ((service.teacherExists referrer domain).run.run world state) (· = true) []
      (held state)
  kept : ∀ person domain schoolCode entryUuid, service.settings.realm? domain = some realm →
    person.referrer = some referrer →
    Succeeded held ((service.createTeacher person domain schoolCode entryUuid).run.run world state)
      (· = person) [] (held state)
  read : ∀ personId domain,
    Succeeded held ((service.attributes personId referrer domain).run.run world state)
      (·.name = service.teacherName referrer realm) [] (held state)
  deleted : ∀ person schoolCode domain, service.settings.realm? domain = some realm →
    person.referrer = some referrer →
    Succeeded held ((service.deleteTeacher person schoolCode domain).run.run world state)
      (· = person) [⟨.delete (service.teacherName referrer realm), .ok ()⟩] before

theorem placeholder_serves (obeys : world.Obeys (Store.answering False) held)
    (absent : service.NoEntry realm referrer store)
    (same : held later = service.withPlaceholder referrer realm store) :
    service.EntryServes realm referrer world held store later where
  teacher domain known := (achieves_exists (same ▸ absent.placed) known).run obeys
  kept person domain schoolCode entryUuid known named :=
    (achieves_kept (same ▸ absent.placed) known named).run obeys
  read personId domain := (achieves_read (same ▸ absent.identified)).run obeys
  deleted person schoolCode domain known named := by
    have restored : update (held later) (service.teacherName referrer realm) none = store :=
      same ▸ absent.restored
    have achieved : Achieves (service.deleteTeacher person schoolCode domain) (· = person)
        [⟨.delete (service.teacherName referrer realm), .ok ()⟩] (held later) store :=
      restored ▸ achieves_deleted (same ▸ absent.placed) known named
    exact achieved.run obeys

/-- Each attempt to read a person reads what it found or adds what it did not find. Unless one of them
finds nobody, the domain makes no difference at all. Where a directory that carries out what it can
has no entry of the person, one is added, and the other operations work with it. -/
theorem person_read_or_created (service : Service) (personId referrer domain : String)
    (world : World State) (held : State → Store) (state : State) :
    let run := (service.attributes personId referrer domain).run.run world state
    (∃ failed last, RetryPolicy.Tried service.policy.maxRetries.toNat "get_person_attributes"
      (service.attributesOnce personId referrer domain) run.steps run.result failed last) ∧
    (∀ own outcome, (service.attributesOnce personId referrer domain).run.Takes own outcome →
      service.ReadsOrCreates personId referrer domain own outcome ∧
      ∀ entry others, ⟨userSearch service.base referrer readNames, .ok (entry :: others)⟩ ∈
        exchanges own → ∃ value, service.ReadsFirst personId referrer own outcome entry value) ∧
    (service.nobody referrer ∉ exchanges run.steps →
      ∀ other, (service.attributes personId referrer other).run.run world state = run) ∧
    (∀ realm, world.Obeys (Store.answering False) held →
      service.settings.realm? domain = some realm → service.NoEntry realm referrer (held state) →
      Succeeded held run (OnlyName (service.teacherName referrer realm))
        [⟨service.placeholderAdd referrer realm, .ok ()⟩]
        (service.withPlaceholder referrer realm (held state)) ∧
      ∀ later, held later = held run.state →
        service.EntryServes realm referrer world held (held state) later) := by
  intro run
  refine ⟨?attempts, ?each, ?domains, ?created⟩
  case attempts =>
    exact RetryPolicy.retry_tried (Program.run_takes world _ state)
  case each =>
    intro own outcome taken
    exact ⟨reads_or_creates taken, fun entry others found => (reads_or_creates taken).reads found⟩
  case domains =>
    intro found other
    exact (reading_same_until personId referrer domain other).run world state (found_together found)
  case created =>
    intro realm obeys known absent
    have created : Succeeded held run (OnlyName (service.teacherName referrer realm))
        [⟨service.placeholderAdd referrer realm, .ok ()⟩]
        (service.withPlaceholder referrer realm (held state)) :=
      (achieves_placeholder absent known).run obeys
    exact ⟨created, fun later same => placeholder_serves obeys absent (same.trans created.stored)⟩

/-- The domain makes no difference to a person with an entry, known or not. Reading a person without
one makes a teacher of the person, although all characters of the username have a meaning in names or
in filters. -/
theorem awkward_person_created :
    let service : Service :=
      ⟨⟨"", "cn=admin", none, "dc=schule", none, none, none, none, none, none⟩, .immediate 1⟩
    let once := (service.attributesOnce "7" "anna" "schule-sh.de").run.run (oneTeacher (.ok ())) true
    let created := (service.attributes "7" " #a,b\\(*)\x00" "schule-sh.de").run.run Catalogue.world
      Catalogue.empty
    (∃ value, service.ReadsFirst "7" "anna" once.steps once.result (Entry.empty "uid=anna") value) ∧
      (service.attributes "7" "anna" "nowhere").run.run (oneTeacher (.ok ())) true =
        (service.attributes "7" "anna" "schule-sh.de").run.run (oneTeacher (.ok ())) true ∧
      Succeeded Catalogue.store created
        (OnlyName (service.teacherName " #a,b\\(*)\x00" .publicSchools))
        [⟨service.placeholderAdd " #a,b\\(*)\x00" .publicSchools, .ok ()⟩]
        (service.withPlaceholder " #a,b\\(*)\x00" .publicSchools Catalogue.empty.store) ∧
      service.EntryServes .publicSchools " #a,b\\(*)\x00" Catalogue.world Catalogue.store
        Catalogue.empty.store created.state := by
  intro service once created
  obtain ⟨-, each, together, -⟩ := person_read_or_created service "7" "anna" "schule-sh.de"
    (oneTeacher (.ok ())) (fun _ => Catalogue.empty.store) true
  obtain ⟨-, -, -, serves⟩ := person_read_or_created service "7" " #a,b\\(*)\x00" "schule-sh.de"
    Catalogue.world Catalogue.store Catalogue.empty
  have accepted : service.settings.realm? "schule-sh.de" = some .publicSchools := by decide +kernel
  obtain ⟨succeeded, later⟩ := serves .publicSchools (Catalogue.world_obeys False) accepted
    ⟨nofun, rfl⟩
  have calls : exchanges once.steps = service.opening ++
      [⟨userSearch service.base "anna" readNames, .ok [Entry.empty "uid=anna"]⟩] := rfl
  have tried : exchanges ((service.attributes "7" "anna" "schule-sh.de").run.run
      (oneTeacher (.ok ())) true).steps = service.opening ++
        [⟨userSearch service.base "anna" readNames, .ok [Entry.empty "uid=anna"]⟩] := rfl
  refine ⟨?_, together (tried ▸ not_nobody) "nowhere", succeeded, later created.state rfl⟩
  have found : ⟨userSearch service.base "anna" readNames, .ok [Entry.empty "uid=anna"]⟩ ∈
      exchanges once.steps := calls ▸ List.mem_append_right _ (List.mem_singleton.mpr rfl)
  exact (each once.steps once.result (Program.run_takes _ _ _)).2 _ _ found

end Results

end TeacherDirectory.Service
