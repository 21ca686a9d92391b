import TeacherDirectory.Proofs.Service.Enrolment
import TeacherDirectory.Proofs.Service.KnownPersons
import TeacherDirectory.Proofs.Service.PersonCalls

/-!
# The life cycle of a teacher

A teacher is created, renamed, taken out of the group under the new name and deleted. Each of the
four operations works out the name of the teacher's entry for itself; they agree on it for every
username. So in a directory that does what it is asked, all of them succeed, and nothing remains
of the teacher but the unit of the school.
-/

namespace TeacherDirectory.Service

set_option autoImplicit false

open DistinguishedName
open Function (update)

structure LifeCycle where
  created : Except ServiceError Person
  modified : Except ServiceError String
  left : Except ServiceError Bool
  deleted : Except ServiceError Person

def lifeCycle (service : Service) (person : Person) (referrer username domain schoolCode : String)
    (entryUuid givenName surname : Option String) : Program LifeCycle := do
  let created ← (service.createTeacher person domain schoolCode entryUuid).run
  let modified ← (service.modifyAttributes referrer givenName surname (some username)).run
  let left ← (service.leaveGroupByUsername username schoolCode domain).run
  let deleted ← (service.deleteTeacher { person with referrer := some username } schoolCode
    domain).run
  return ⟨created, modified, left, deleted⟩

/-- Where no call fails without a reason, the attempt succeeds. -/
def Succeeds {Result : Type} (attempt : Attempt Result) (good : Result → Store → Prop)
    (before : Store) : Prop :=
  attempt.Ensures (Store.answering False) good (fun _ _ => False) before

variable {service : Service} {realm : Realm} {person : Person}
  {referrer username domain schoolCode group : String} {entryUuid givenName surname : Option String}
  {store after : Store} {record content : Record} {members listed : List String}

section Rules

variable {First Second Result : Type} {good : Result → Store → Prop}

theorem Succeeds.bind {first : Attempt First} {next : First → Attempt Second}
    {between : First → Store → Prop} {good : Second → Store → Prop}
    (firstSucceeds : Succeeds first between store)
    (rest : ∀ value later, between value later → Succeeds (next value) good later) :
    Succeeds (first >>= next) good store :=
  Attempt.ensures_bind.mpr (firstSucceeds.weaken rest fun _ _ failed => failed)

theorem Succeeds.run_bind {first : Attempt First}
    {next : Except ServiceError First → Program Second}
    {between : First → Store → Prop} {post : Second → Store → Prop}
    (firstSucceeds : Succeeds first between store)
    (rest : ∀ value later, between value later →
      (next (.ok value)).Ensures (Store.answering False) post later) :
    (first.run >>= next).Ensures (Store.answering False) post store := by
  refine Program.ensures_bind.mpr (Program.Ensures.weaken firstSucceeds fun outcome later ended => ?_)
  cases outcome with
  | error failure => exact ended.elim
  | ok value => exact rest value later ended

theorem Succeeds.attempt {operation : String} {once : Attempt Result}
    (succeeds : Succeeds once good store) : Succeeds (service.attempt operation once) good store :=
  RetryPolicy.ensures_retry_certain fun _ => succeeds

theorem succeeds_bound {next : Unit → Attempt Result} (rest : Succeeds (next ()) good store) :
    Succeeds (service.bind >>= next) good store := by
  have bound : Succeeds service.bind (fun _ later => later = store) store :=
    ensures_bound_store.weaken (fun _ _ holds => holds) fun _ _ failed => failed.1
  apply bound.bind
  intro given _ same
  cases given
  subst same
  exact rest

theorem succeeds_realm {next : Realm → Attempt Result}
    (accepted : service.settings.realm? domain = some realm)
    (rest : Succeeds (next realm) good store) :
    Succeeds (service.realm domain >>= next) good store :=
  ensures_accepted accepted rest

theorem succeeds_referrer {next : String → Attempt Result} (named : person.referrer = some referrer)
    (rest : Succeeds (next referrer) good store) :
    Succeeds (Service.referrer person >>= next) good store :=
  ensures_named named rest

variable {message : String} {level : LogLevel} {fields : List (String × String)}
  {refused : DirectoryError → Program ServiceError}

theorem succeeds_log {next : Unit → Attempt Result} (rest : Succeeds (next ()) good store) :
    Succeeds (liftM (Program.log level message fields) >>= next) good store :=
  Attempt.ensures_bind.mpr (Attempt.ensures_lift.mpr (Program.ensures_log.mpr rest))

theorem succeeds_search {base : String} {scope : SearchScope} {filter : Filter String}
    {names : List String} {next : List Entry → Attempt Result}
    (rest : ∀ entries, store.Finds base scope filter names entries →
      Succeeds (next entries) good store) :
    Succeeds (Attempt.call (.search base scope filter names) refused >>= next) good store :=
  Attempt.ensures_bind.mpr (Store.ensures_search.mpr ⟨rest, False.elim⟩)

theorem succeeds_write {request : Call} {later : Store} {next : request.Reply → Attempt Result}
    (written : store.write request = some later)
    (rest : ∀ reply, Succeeds (next reply) good later) :
    Succeeds (Attempt.call request refused >>= next) good store :=
  Attempt.ensures_bind.mpr
    ((Store.ensures_carried_out written).mpr ⟨fun reply _ => rest reply, False.elim⟩)

end Rules

section Creating

def teacherRecord (person : Person) (referrer entryUuid : String) : Record :=
  Record.ofAttributes (teacherAttributes person referrer entryUuid)

theorem teacher_record_values {entryUuid : String} :
    IsTeacherRecord referrer (teacherRecord person referrer entryUuid) ∧
      teacherRecord person referrer entryUuid (Entry.key "entryUUID") = [entryUuid] := by
  have folded : Entry.key "objectclass" = "objectclass" ∧ Entry.key "cn" = "cn" ∧
      Entry.key "sn" = "sn" ∧ Entry.key "givenName" = "givenname" ∧ Entry.key "uid" = "uid" ∧
      Entry.key "entryUUID" = "entryuuid" := by decide +kernel
  refine ⟨⟨teacher_called.username, ?_, ?_⟩, ?_⟩ <;>
    simp [teacherRecord, teacherAttributes, Record.ofAttributes, folded]

theorem succeeds_create_once {entryUuid : String}
    (unknown : Unknown service realm referrer store) :
    Succeeds (service.createTeacherOnce person referrer (service.realmName realm)
        (service.teacherName referrer realm) entryUuid)
      (fun created after => created = some { person with entryUuid := some entryUuid } ∧
        after = update store (service.teacherName referrer realm)
          (some (teacherRecord person referrer entryUuid))) store := by
  obtain ⟨teacher, identified⟩ := @teacher_record_values person referrer entryUuid
  have employs := unknown.employs teacher
  apply succeeds_bound
  apply succeeds_search
  intro existing finds
  obtain rfl := unknown.find realm_name_within finds
  apply succeeds_write (Store.write_add unknown.free)
  intro _
  apply succeeds_log
  refine Attempt.ensures_bind.mpr (Attempt.ensures_lift.mpr (Program.ensures_bind.mpr
    ((Store.ensures_called rfl).mpr ⟨?_, nofun⟩)))
  intro entries found
  obtain ⟨entry, rfl, -, shown⟩ := employs.find realm_name_within teacher_name_within_realm found
  have read := shown "entryUUID" (.inr (List.mem_singleton.mpr rfl))
  rw [identified] at read
  refine Program.ensures_pure.mpr (Attempt.ensures_pure.mpr ⟨?_, rfl⟩)
  simp only [List.head?_cons, Option.bind_some, Entry.first?, read]

theorem succeeds_join_new (unknown : Unknown service realm referrer store)
    (teacher : IsTeacherRecord referrer record) (ready : SchoolReady service schoolCode store) :
    Succeeds (service.joinNewTeacher referrer schoolCode (service.teacherName referrer realm))
      (fun _ after => ∃ group content members,
        Enrolment service schoolCode (service.withUnit schoolCode store) group content members ∧
        after = enrolled (service.withUnit schoolCode store) (service.teacherName referrer realm)
          record group content (members ++ [service.teacherName referrer realm]))
      (update store (service.teacherName referrer realm) (some record)) := by
  unfold Succeeds joinNewTeacher
  rw [Attempt.ensures_mk, Program.ensures_bind]
  refine Program.Ensures.weaken ensures_join_store fun outcome after ended => ?_
  cases outcome with
  | error failure =>
      obtain ⟨unitReady, groupReady⟩ := ready.with_teacher unknown teacher
      rcases ended with ⟨-, -, impossible | unready | unready⟩
      · exact impossible.elim
      · exact (unready unitReady).elim
      · exact (unready groupReady).elim
  | ok changed =>
      refine Program.ensures_pure.mpr ?_
      cases changed with
      | true => exact Joined.enrolment ended unknown teacher ready
      | false =>
          rcases ended with ⟨-, group, content, isGroup, listed⟩
          have isGroup := (teacher.is_group unknown.free).mp isGroup
          exact (unknown.unlisted group content isGroup.stored isGroup.inside listed).elim

theorem succeeds_create (accepted : service.settings.realm? domain = some realm)
    (named : person.referrer = some referrer) (unknown : Unknown service realm referrer store)
    (ready : SchoolReady service schoolCode store) :
    Succeeds (service.createTeacher person domain schoolCode entryUuid)
      (fun created after =>
        created = { person with entryUuid := some (entryUuid.getD person.id) } ∧
        ∃ record group content members, IsTeacherRecord referrer record ∧
          Enrolment service schoolCode (service.withUnit schoolCode store) group content members ∧
          after = enrolled (service.withUnit schoolCode store)
            (service.teacherName referrer realm) record group content
            (members ++ [service.teacherName referrer realm])) store := by
  apply succeeds_realm accepted
  apply succeeds_referrer named
  apply Succeeds.bind (succeeds_create_once unknown).attempt
  intro _ _ given
  rcases given with ⟨rfl, rfl⟩
  have teacher := (@teacher_record_values person referrer (entryUuid.getD person.id)).1
  apply Succeeds.bind (succeeds_join_new unknown teacher ready)
  intro given after further
  cases given
  rcases further with ⟨group, content, members, enrolment, rfl⟩
  exact Attempt.ensures_pure.mpr ⟨rfl, _, group, content, members, teacher, enrolment, rfl⟩

end Creating

section Renaming

theorem succeeds_require_person (employs : Employs service realm referrer record store)
    {names : List String} {absence : String} :
    Succeeds (service.requirePerson referrer names absence)
      (fun entry later => entry.name = service.teacherName referrer realm ∧ later = store) store := by
  apply succeeds_search
  intro entries finds
  obtain ⟨entry, rfl, named, -⟩ := employs.find .self teacher_name_within finds
  exact Attempt.ensures_pure.mpr ⟨named, rfl⟩

/-- The entry is renamed, and what it listed is left alone. -/
theorem succeeds_modify_once
    (enrolment : Enrolment service schoolCode store group content members)
    (known : Unknown service realm referrer store) (unknown : Unknown service realm username store)
    (teacher : IsTeacherRecord referrer record) (different : username ≠ referrer) :
    Succeeds (service.modifyAttributesOnce referrer givenName surname (some username))
      (fun oldName after => oldName = some (service.teacherName referrer realm) ∧
        ∃ moved, IsTeacherRecord username moved ∧
          after = enrolled store (service.teacherName username realm) moved group content listed)
      (enrolled store (service.teacherName referrer realm) record group content listed) := by
  have employs : Employs service realm referrer record
      (enrolled store (service.teacherName referrer realm) record group content listed) :=
    enrolment.employs known teacher
  have apart := enrolment.not_teacher known
  have apartLater := enrolment.not_teacher unknown
  have otherName : service.teacherName username realm ≠ service.teacherName referrer realm :=
    fun same => different (teacher_name_injective same).1
  obtain ⟨changed, made, still⟩ := teacher.replace
    (fun change member => (@name_changes_replace givenName surname (some username) change member).1)
    fun change member => (name_changes_replace change member).2
  apply succeeds_bound
  -- The base is searched here and the realm elsewhere; there is one entry to find in either.
  apply Succeeds.bind (succeeds_require_person employs)
  intro given _ further
  rcases given with ⟨name, attributes⟩
  rcases further with ⟨rfl, rfl⟩
  apply succeeds_write (Store.write_modify employs.stored made)
  intro _
  apply succeeds_log
  rw [enrolled_set_teacher apart]
  have again : Employs service realm referrer changed
      (enrolled store (service.teacherName referrer realm) changed group content listed) :=
    enrolment.employs known still
  have free : (update (enrolled store (service.teacherName referrer realm) changed group content
      listed) (service.teacherName referrer realm) none) (Store.movedName
        (service.teacherName referrer realm) (userComponent username)) = none := by
    rw [moved_teacher_name, Function.update_of_ne otherName]
    unfold enrolled
    rw [Function.update_of_ne apartLater.symm, Function.update_of_ne otherName, unknown.free]
  apply succeeds_write (Store.write_rename again.stored free)
  intro _
  apply succeeds_log
  rw [moved_teacher_name, teacher_name_leaf]
  unfold userComponent
  rw [read_component is_type_uid]
  exact Attempt.ensures_pure.mpr
    ⟨rfl, _, still.renamed, enrolled_move known.free apart apartLater⟩

theorem rename_last {oldName newName : String} (unlisted : oldName ∉ members) :
    renameMember oldName newName (members ++ [oldName]) = members ++ [newName] := by
  have same : members.map (fun member => if member = oldName then newName else member) =
      members := by
    refine (List.map_congr_left fun member listed => if_neg ?_).trans (List.map_id' members)
    intro equal
    subst equal
    exact unlisted listed
  rw [renameMember, List.map_append, same, List.map_singleton, if_pos rfl]

theorem update_group {oldName newName : String} {found : Entry}
    (stored : store found.name = some content) :
    (updateGroups oldName newName [found]).Ensures (Store.answering False)
      (fun failures after => failures = 0 ∧ after = update store found.name
        (some (update content "member" (renameMember oldName newName (found.values "member")))))
      store := by
  unfold updateGroups
  have written := Store.write_modify stored
    (@replace_members content (renameMember oldName newName (found.values "member")))
  refine Program.ensures_bind.mpr ((Store.ensures_called written).mpr ⟨?_, False.elim⟩)
  intro _ _
  simp only [Program.ensures_bind, Program.ensures_log, Program.ensures_pure, updateGroups]
  exact ⟨trivial, trivial⟩

theorem succeeds_rename_in_groups
    (enrolment : Enrolment service schoolCode store group content members)
    (known : Unknown service realm referrer store) (teacher : IsTeacherRecord username record) :
    Succeeds (service.renameInGroups referrer username (service.teacherName referrer realm))
      (fun _ after => after = enrolled store (service.teacherName username realm) record group
        content (members ++ [service.teacherName username realm]))
      (enrolled store (service.teacherName username realm) record group content
        (members ++ [service.teacherName referrer realm])) := by
  have written : renameMember (service.teacherName referrer realm)
      (renameUser (service.teacherName referrer realm) username)
      (members ++ [service.teacherName referrer realm]) =
        members ++ [service.teacherName username realm] := by
    rw [rename_teacher_name]
    exact rename_last (enrolment.unlisted known)
  have stored : enrolled store (service.teacherName username realm) record group content
      (members ++ [service.teacherName referrer realm]) group =
        some (update content "member" (members ++ [service.teacherName referrer realm])) :=
    Function.update_self _ _ _
  apply succeeds_search
  intro entries finds
  obtain ⟨entry, rfl, rfl, read⟩ :=
    enrolment.find_member known teacher (List.mem_append_right _ (List.mem_singleton.mpr rfl)) finds
  unfold Succeeds
  rw [List.isEmpty_cons, if_neg Bool.false_ne_true, Attempt.ensures_bind, Attempt.ensures_lift]
  refine (update_group stored).weaken ?_
  intro _ _ given
  rcases given with ⟨rfl, rfl⟩
  rw [read, written, enrolled_set_members]
  exact succeeds_log (Attempt.ensures_pure.mpr rfl)

theorem succeeds_follow_rename
    (enrolment : Enrolment service schoolCode store group content members)
    (known : Unknown service realm referrer store) (teacher : IsTeacherRecord username record) :
    Succeeds (service.followRename referrer username (service.teacherName referrer realm))
      (fun _ after => after = enrolled store (service.teacherName username realm) record group
        content (members ++ [service.teacherName username realm]))
      (enrolled store (service.teacherName username realm) record group content
        (members ++ [service.teacherName referrer realm])) := by
  have renames : Succeeds
      (service.renameInGroupsOnce referrer username (service.teacherName referrer realm))
      (fun _ after => after = enrolled store (service.teacherName username realm) record group
        content (members ++ [service.teacherName username realm]))
      (enrolled store (service.teacherName username realm) record group content
        (members ++ [service.teacherName referrer realm])) :=
    succeeds_bound (succeeds_rename_in_groups enrolment known teacher)
  unfold Succeeds followRename
  rw [Attempt.ensures_mk, Program.ensures_bind]
  refine Program.Ensures.weaken renames.attempt fun outcome after ended => ?_
  cases outcome with
  | error failure => exact ended.elim
  | ok message => exact Program.ensures_pure.mpr ended

theorem succeeds_modify_attributes
    (enrolment : Enrolment service schoolCode store group content members)
    (known : Unknown service realm referrer store) (unknown : Unknown service realm username store)
    (teacher : IsTeacherRecord referrer record) (different : username ≠ referrer) :
    Succeeds (service.modifyAttributes referrer givenName surname (some username))
      (fun name after => name = referrer ∧ ∃ moved, IsTeacherRecord username moved ∧
        after = enrolled store (service.teacherName username realm) moved group content
          (members ++ [service.teacherName username realm]))
      (enrolled store (service.teacherName referrer realm) record group content
        (members ++ [service.teacherName referrer realm])) := by
  apply Succeeds.bind (succeeds_modify_once enrolment known unknown teacher different).attempt
  intro _ _ given
  rcases given with ⟨rfl, moved, still, rfl⟩
  apply Succeeds.bind (succeeds_follow_rename enrolment known still)
  intro given _ same
  cases given
  subst same
  exact Attempt.ensures_pure.mpr ⟨rfl, moved, still, rfl⟩

end Renaming

section Leaving

theorem Left.restores (enrolment : Enrolment service schoolCode store group content members)
    (unknown : Unknown service realm username store) (teacher : IsTeacherRecord username record)
    (left : Left service schoolCode (service.teacherName username realm)
      (enrolled store (service.teacherName username realm) record group content
        (members ++ [service.teacherName username realm])) after) :
    after = update store (service.teacherName username realm) (some record) := by
  have unlisted := enrolment.unlisted unknown
  have restored : update (enrolled store (service.teacherName username realm) record group content
      (members ++ [service.teacherName username realm])) group (store group) =
        update store (service.teacherName username realm) (some record) :=
    enrolled_leave (enrolment.not_teacher unknown)
  rw [← restored, enrolment.restored]
  cases left with
  | member isGroup _ others =>
      obtain ⟨rfl, rfl⟩ := (enrolment.is_group unknown teacher).mp isGroup
      rw [Function.update_self] at others
      have several : members ≠ [] := by
        intro same
        subst same
        exact others rfl
      have remaining : (members ++ [service.teacherName username realm]).filter
          (· ≠ service.teacherName username realm) = members := by
        have kept : members.filter (· ≠ service.teacherName username realm) = members := by
          refine List.filter_eq_self.mpr fun member listed => decide_eq_true ?_
          intro same
          subst same
          exact unlisted listed
        rw [List.filter_append, kept]
        simp
      rw [if_neg several, Function.update_self, Function.update_idem, remaining]
  | group isGroup sole =>
      obtain ⟨rfl, rfl⟩ := (enrolment.is_group unknown teacher).mp isGroup
      rw [Function.update_self] at sole
      have alone : members = [] := List.append_left_eq_self.mp sole
      rw [if_pos alone]

theorem succeeds_leave (accepted : service.settings.realm? domain = some realm)
    (enrolment : Enrolment service schoolCode store group content members)
    (unknown : Unknown service realm username store) (teacher : IsTeacherRecord username record) :
    Succeeds (service.leaveGroupByUsername username schoolCode domain)
      (fun changed after => changed = true ∧
        after = update store (service.teacherName username realm) (some record))
      (enrolled store (service.teacherName username realm) record group content
        (members ++ [service.teacherName username realm])) := by
  refine succeeds_realm accepted (Attempt.Ensures.weaken ensures_leave_store ?_ ?_)
  · intro changed after given
    rcases given with ⟨rfl, left⟩
    exact ⟨rfl, left.restores enrolment unknown teacher⟩
  · intro failure after given
    rcases given with ⟨-, cause⟩
    cases failure with
    | groupNotFound _ => exact cause.2 _ _ ((enrolment.is_group unknown teacher).mpr ⟨rfl, rfl⟩)
    | notInGroup _ _ =>
        rcases cause with ⟨-, -, name, found, isGroup, absent⟩
        obtain ⟨-, rfl⟩ := (enrolment.is_group unknown teacher).mp isGroup
        rw [Function.update_self] at absent
        exact absent (List.mem_append_right _ (List.mem_singleton.mpr rfl))
    | leaveGroup _ _ => exact cause.2
    | _ => exact cause

theorem succeeds_delete_teacher (accepted : service.settings.realm? domain = some realm)
    (named : person.referrer = some username) (unknown : Unknown service realm username store)
    (teacher : IsTeacherRecord username record) :
    Succeeds (service.deleteTeacher person schoolCode domain)
      (fun deleted after => deleted = person ∧ after = store)
      (update store (service.teacherName username realm) (some record)) := by
  have placed := (unknown.employs teacher).identified.below realm_name_within
    teacher_name_within_realm
  refine Attempt.Ensures.unnoted [] ((achieves_deleted placed accepted named).imp ?_)
  rintro _ ⟨after, _⟩ ⟨same, -, deleted⟩
  obtain rfl : after = _ := deleted
  refine ⟨same, ?_⟩
  rw [Function.update_idem, ← unknown.free, Function.update_eq_self]

end Leaving

/-- What the operations of a life cycle ensure of one another, from creation to deletion. -/
theorem ensures_life_cycle (accepted : service.settings.realm? domain = some realm)
    (named : person.referrer = some referrer) (different : username ≠ referrer)
    (known : Unknown service realm referrer store) (unknown : Unknown service realm username store)
    (ready : SchoolReady service schoolCode store) :
    (lifeCycle service person referrer username domain schoolCode entryUuid givenName
        surname).Ensures (Store.answering False)
      (fun outcomes after => outcomes =
        ⟨.ok { person with entryUuid := some (entryUuid.getD person.id) }, .ok referrer, .ok true,
          .ok { person with referrer := some username }⟩ ∧
        after = service.withUnit schoolCode store) store := by
  have knownLater : Unknown service realm referrer (service.withUnit schoolCode store) :=
    known.with_unit
  have unknownLater : Unknown service realm username (service.withUnit schoolCode store) :=
    unknown.with_unit
  unfold lifeCycle
  refine (succeeds_create accepted named known ready).run_bind ?_
  rintro _ _ ⟨rfl, record, group, content, members, teacher, enrolment, rfl⟩
  refine Succeeds.run_bind
    (succeeds_modify_attributes enrolment knownLater unknownLater teacher different) ?_
  rintro _ _ ⟨rfl, moved, still, rfl⟩
  refine (succeeds_leave accepted enrolment unknownLater still).run_bind ?_
  rintro _ _ ⟨rfl, rfl⟩
  refine (succeeds_delete_teacher accepted rfl unknownLater still).run_bind ?_
  intro _ _ given
  rcases given with ⟨rfl, rfl⟩
  exact Program.ensures_pure.mpr ⟨rfl, rfl⟩

/-- In a directory that knows neither username, that has at most one group of the school, and in
which nothing else has the names of the school's entries, all operations of a life cycle succeed.
Afterwards the directory is as it was, and the school has a unit if it had none. -/
theorem life_cycle_restores {State : Type} {world : World State} {held : State → Store}
    {start : State} (obeys : world.Obeys (Store.answering False) held)
    (accepted : service.settings.realm? domain = some realm)
    (named : person.referrer = some referrer) (different : username ≠ referrer)
    (known : Unknown service realm referrer (held start))
    (unknown : Unknown service realm username (held start))
    (ready : SchoolReady service schoolCode (held start)) :
    let run := (lifeCycle service person referrer username domain schoolCode entryUuid givenName
      surname).run world start
    run.result = ⟨.ok { person with entryUuid := some (entryUuid.getD person.id) }, .ok referrer,
        .ok true, .ok { person with referrer := some username }⟩ ∧
      held run.state = service.withUnit schoolCode (held start) :=
  Program.Ensures.of_run obeys (ensures_life_cycle accepted named different known unknown ready)

theorem unknown_empty : Unknown service realm username Catalogue.empty.store :=
  ⟨nofun, nofun, rfl⟩

theorem school_ready_empty : SchoolReady service schoolCode Catalogue.empty.store where
  filled := fun isGroup => nomatch isGroup.stored
  single := fun isGroup => nomatch isGroup.stored
  unit := nofun
  group := nofun

/-- A username whose characters all have a meaning in names or in filters. -/
theorem awkward_life_cycle_restores :
    let service : Service :=
      ⟨⟨"", "", none, "dc=schule", none, none, none, none, none, none⟩, .immediate 0⟩
    let person : Person := ⟨"7", "Anna", "Ahrens", some " #a,b\\(*)\x00", none⟩
    let run := (lifeCycle service person " #a,b\\(*)\x00" "+,=" "schule-sh.de" "0705" none none
      (some "Ahrens-Beck")).run Catalogue.world Catalogue.empty
    run.result = ⟨.ok { person with entryUuid := some "7" }, .ok " #a,b\\(*)\x00", .ok true,
        .ok { person with referrer := some "+,=" }⟩ ∧
      run.state.store = service.withUnit "0705" Catalogue.empty.store := by
  intro service person run
  have accepted : service.settings.realm? "schule-sh.de" = some .publicSchools := by decide +kernel
  have different : "+,=" ≠ " #a,b\\(*)\x00" := by decide
  exact life_cycle_restores (Catalogue.world_obeys False) accepted rfl different unknown_empty
    unknown_empty school_ready_empty

end TeacherDirectory.Service
