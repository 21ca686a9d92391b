import TeacherDirectory.Proofs.Directory.Hierarchy
import TeacherDirectory.Proofs.Service.GroupWrites

/-!
# The first member of a school

The group of a school lies below a role, and the role below the unit of the school. Joining creates
the unit where it is missing and the group with its first member, but it only looks for the role. In
a directory whose entries need parents a school that has its role gets its group, and a new school
never does: the unit is created, and every attempt to add the group is rejected.
-/

namespace TeacherDirectory.Service

set_option autoImplicit false

open DistinguishedName
open Function (update)

variable {service : Service} {referrer schoolCode person name : String} {before after : Store}

def IsPreparation (service : Service) (schoolCode : String) : Call → Prop
  | .connect => True
  | .bind .. => True
  | .search .. => True
  | .add name _ => name = service.schoolName schoolCode
  | _ => False

theorem groups_name_cut :
    split? (service.groupsName schoolCode) =
      some (component "cn" "groups", service.schoolName schoolCode) :=
  split_below is_type_cn "groups" (service.schoolName schoolCode)

theorem group_name_cut :
    split? (service.groupName schoolCode) =
      some (component "cn" (groupId schoolCode), service.groupsName schoolCode) :=
  split_below is_type_cn (groupId schoolCode) (service.groupsName schoolCode)

theorem school_name_cut :
    split? (service.schoolName schoolCode) = some (component "ou" schoolCode, service.base) :=
  split_below is_type_ou schoolCode service.base

theorem with_unit_keeps (present : before name ≠ none) :
    service.withUnit schoolCode before name ≠ none := Store.update_keeps _ present

theorem preparation_included (state : Store) (request : Call) (answer : request.Answer)
    (after : Store) (preparing : service.IsPreparation schoolCode request)
    (based : state service.base ≠ none)
    (answered : Store.hierarchical state request answer after) :
    Store.answering False state request answer after ∧ after service.base ≠ none := by
  have accepted : ¬state.Orphaned request := by
    cases request with
    | add added attributes =>
        obtain rfl : added = service.schoolName schoolCode := preparing
        exact Store.not_orphaned school_name_cut based
    | _ => exact id
  have answeredPlain := Store.hierarchical_answers accepted answered
  refine ⟨answeredPlain, Store.answering_keeps answeredPlain ?_ ?_ based⟩
  · intro _ _ same
    rw [same] at preparing
    exact preparing
  · intro _ same
    rw [same] at preparing
    exact preparing

theorem joining_included (state : Store) (request : Call) (answer : request.Answer) (after : Store)
    (joining : service.IsJoiningCall schoolCode request)
    (present : state service.base ≠ none ∧ state (service.groupsName schoolCode) ≠ none)
    (answered : Store.hierarchical state request answer after) :
    Store.answering False state request answer after ∧
      after service.base ≠ none ∧ after (service.groupsName schoolCode) ≠ none := by
  have accepted : ¬state.Orphaned request := by
    cases request with
    | add added attributes =>
        rcases joining with rfl | rfl
        · exact Store.not_orphaned school_name_cut present.1
        · exact Store.not_orphaned group_name_cut present.2
    | _ => exact id
  have answeredPlain := Store.hierarchical_answers accepted answered
  have kept {name : String} (there : state name ≠ none) : after name ≠ none := by
    refine Store.answering_keeps answeredPlain ?_ ?_ there
    · intro _ _ same
      rw [same] at joining
      exact joining
    · intro _ same
      rw [same] at joining
      exact joining
  exact ⟨answeredPlain, kept present.1, kept present.2⟩

theorem ensures_join_founding (based : before service.base ≠ none)
    (role : before (service.groupsName schoolCode) ≠ none)
    (ready : UnitReady service schoolCode before)
    (noGroup : ∀ name record, ¬IsGroup service.base before schoolCode name record)
    (free : before (service.groupName schoolCode) = none) :
    (service.joinGroup referrer schoolCode person).Ensures Store.hierarchical
      (fun changed after => changed = true ∧ after = update (service.withUnit schoolCode before)
        (service.groupName schoolCode) (some (groupRecord schoolCode person)))
      (fun _ _ => False) before := by
  have flat : (service.joinGroup referrer schoolCode person).Ensures (Store.answering False)
      (JoinEnds service schoolCode person before) (JoinFails service False schoolCode before)
      before := ensures_join_store
  refine (flat.narrow performs_join joining_included ⟨based, role⟩).weaken
    (fun changed after ended => ?_) fun failure after failed => ?_
  · cases changed with
    | false =>
        obtain ⟨-, group, record, isGroup, -⟩ := ended.1
        exact (noGroup group record isGroup).elim
    | true =>
        have joined : Joined service schoolCode person before after := ended.1
        cases joined with
        | member isGroup unlisted => exact (noGroup _ _ isGroup).elim
        | group _ _ => exact ⟨rfl, rfl⟩
  · rcases failed.1.2.2 with impossible | notReady | notReady
    · exact impossible
    · exact notReady ready
    · refine notReady fun record stored => ?_
      rw [free] at stored
      cases stored

/-- What becomes of joining a school without its role: the unit is there, and the error is the one
of adding the group. -/
def JoinRejected (service : Service) (schoolCode : String) (before : Store)
    (failure : ServiceError) (after : Store) : Prop :=
  after = service.withUnit schoolCode before ∧ ∃ text, failure = .joinGroup (groupId schoolCode)
    (DirectoryError.rejected Store.noSuchObject text).message

section Preparing

variable {refused : DirectoryError → Program ServiceError}

theorem ensures_unit_hierarchical
    (quiet : ∀ failure, (refused failure).Performs (Effect.Only (service.IsPreparation schoolCode)))
    (based : before service.base ≠ none) (ready : UnitReady service schoolCode before) :
    (service.ensureSchool schoolCode refused).Ensures Store.hierarchical
      (fun _ after => after = service.withUnit schoolCode before ∧ after service.base ≠ none)
      (fun _ _ => False) before := by
  have flat : (service.ensureSchool schoolCode refused).Ensures (Store.answering False)
      (fun _ after => after = service.withUnit schoolCode before) (fun _ _ => False) before :=
    ensures_ensure_school_store fun _ _ _ cause => (cause.resolve_left id ready).elim
  have plain : (service.ensureSchool schoolCode refused).Performs
      (Effect.Only (service.IsPreparation schoolCode)) :=
    performs_ensure_school (fun _ _ _ _ _ => trivial) rfl quiet
  exact (flat.narrow plain preparation_included based).weaken (fun _ _ prepared => prepared)
    fun _ _ impossible => impossible.1

theorem ensures_none_hierarchical
    (quiet : ∀ failure, (refused failure).Performs (Effect.Only (service.IsPreparation schoolCode)))
    (based : before service.base ≠ none)
    (noGroup : ∀ name record, ¬IsGroup service.base before schoolCode name record) :
    (service.findGroup (groupId schoolCode) refused).Ensures Store.hierarchical
      (fun found after => found = none ∧ after = before) (fun _ _ => False) before := by
  have flat : (service.findGroup (groupId schoolCode) refused).Ensures (Store.answering False)
      (fun found after => found = none ∧ after = before) (fun _ _ => False) before :=
    ensures_find_group (fun _ _ isGroup _ => (noGroup _ _ isGroup).elim) (fun _ => ⟨rfl, rfl⟩)
      fun impossible => impossible.elim
  have plain : (service.findGroup (groupId schoolCode) refused).Performs
      (Effect.Only (service.IsPreparation schoolCode)) :=
    Attempt.performs_bind (Attempt.performs_call trivial quiet) fun _ => trivial
  exact (flat.narrow plain preparation_included based).weaken (fun _ _ found => found.1)
    fun _ _ impossible => impossible.1

end Preparing

theorem ensures_join_once_rejected (based : before service.base ≠ none)
    (noRole : before (service.groupsName schoolCode) = none)
    (ready : UnitReady service schoolCode before)
    (noGroup : ∀ name record, ¬IsGroup service.base before schoolCode name record) :
    (service.joinGroupOnce referrer schoolCode person).Ensures Store.hierarchical
      (fun _ _ => False) (service.JoinRejected schoolCode before) before := by
  have quiet (failure : DirectoryError) :
      (pure (.joinGroup (groupId schoolCode) failure.message) : Program ServiceError).Performs
        (Effect.Only (service.IsPreparation schoolCode)) := trivial
  have connects : service.bind.Performs (Effect.Only (service.IsPreparation schoolCode)) :=
    performs_bound trivial fun _ _ => trivial
  have bound : service.bind.Ensures Store.hierarchical
      (fun _ after => after = before ∧ after service.base ≠ none) (fun _ _ => False) before :=
    (ensures_bound_store.narrow connects preparation_included based).weaken
      (fun _ _ opened => opened) fun _ _ failed => failed.1.1
  have stillNone : ∀ name record,
      ¬IsGroup service.base (service.withUnit schoolCode before) schoolCode name record :=
    fun name record isGroup => noGroup name record (with_unit_is_group.mp isGroup)
  unfold joinGroupOnce
  refine bound.bind_certain ?_
  rintro _ _ ⟨rfl, based⟩
  refine (ensures_unit_hierarchical quiet based ready).bind_certain ?_
  rintro _ _ ⟨rfl, based⟩
  refine (ensures_none_hierarchical quiet based stillNone).bind_certain ?_
  rintro _ _ ⟨rfl, rfl⟩
  have orphaned (attributes : Attributes) :
      (service.withUnit schoolCode _).Orphaned (.add (service.groupName schoolCode) attributes) :=
    ⟨_, _, group_name_cut, (with_unit_other school_name_ne_groups.symm).trans noRole⟩
  dsimp only
  rw [Attempt.ensures_bind, Store.ensures_orphaned (orphaned _)]
  exact fun text => Program.ensures_logged.mpr ⟨rfl, text, rfl⟩

/-- No retry helps: the attempts before it left the unit behind and nothing else. -/
theorem ensures_join_rejected (based : before service.base ≠ none)
    (noRole : before (service.groupsName schoolCode) = none)
    (ready : UnitReady service schoolCode before)
    (noGroup : ∀ name record, ¬IsGroup service.base before schoolCode name record) :
    (service.joinGroup referrer schoolCode person).Ensures Store.hierarchical
      (fun _ _ => False) (service.JoinRejected schoolCode before) before := by
  apply RetryPolicy.ensures_retry (UnitAdded service schoolCode before) (.inl rfl)
  intro _ between added
  have basedBetween : between service.base ≠ none := by
    rcases added with rfl | rfl
    · exact based
    · exact with_unit_keeps based
  have noRoleBetween : between (service.groupsName schoolCode) = none := by
    rcases added with rfl | rfl
    · exact noRole
    · rwa [with_unit_other school_name_ne_groups.symm]
  refine (ensures_join_once_rejected basedBetween noRoleBetween (added.unit_ready ready)
    fun name record isGroup => noGroup name record (added.is_group.mp isGroup)).weaken
    (fun _ _ impossible => impossible) fun failure after rejected => ?_
  rcases rejected with ⟨rfl, text, rfl⟩
  exact ⟨.inr added.with_unit, added.with_unit, text, rfl⟩

theorem prepared_school_founded {State : Type} {world : World State} {held : State → Store}
    {state : State} (obeys : world.Obeys Store.hierarchical held)
    (based : held state service.base ≠ none)
    (role : held state (service.groupsName schoolCode) ≠ none)
    (ready : UnitReady service schoolCode (held state))
    (noGroup : ∀ name record, ¬IsGroup service.base (held state) schoolCode name record)
    (free : held state (service.groupName schoolCode) = none) :
    let run := (service.joinGroup referrer schoolCode person).run.run world state
    run.result = .ok true ∧ held run.state = update (service.withUnit schoolCode (held state))
      (service.groupName schoolCode) (some (groupRecord schoolCode person)) := by
  intro run
  have ensured : (service.joinGroup referrer schoolCode person).Ensures Store.hierarchical
      (fun changed after => changed = true ∧ after = update (service.withUnit schoolCode _)
        (service.groupName schoolCode) (some (groupRecord schoolCode person)))
      (fun _ _ => False) (held state) := ensures_join_founding based role ready noGroup free
  obtain ⟨_, result, rfl, stored⟩ := ensured.succeeds obeys
  exact ⟨result, stored⟩

/-- In a directory whose entries have parents a new school gets its unit and never a group, however
often joining is tried. -/
theorem new_school_rejected {State : Type} {world : World State} {held : State → Store}
    {state : State} (obeys : world.Obeys Store.hierarchical held)
    (rooted : (held state).Rooted service.base) (based : held state service.base ≠ none)
    (newSchool : held state (service.schoolName schoolCode) = none)
    (noGroup : ∀ name record, ¬IsGroup service.base (held state) schoolCode name record) :
    let run := (service.joinGroup referrer schoolCode person).run.run world state
    (∃ text, run.result = .error (.joinGroup (groupId schoolCode)
        (DirectoryError.rejected Store.noSuchObject text).message)) ∧
      held run.state =
        update (held state) (service.schoolName schoolCode) (some (unitRecord schoolCode)) ∧
      held run.state (service.groupName schoolCode) = none := by
  intro run
  have noRole : held state (service.groupsName schoolCode) = none :=
    rooted.free groups_name_cut school_name_within newSchool
  have noGroupEntry : held state (service.groupName schoolCode) = none :=
    rooted.free group_name_cut groups_name_within noRole
  have ready : UnitReady service schoolCode (held state) := fun record stored => by
    rw [newSchool] at stored
    cases stored
  have ensured : (service.joinGroup referrer schoolCode person).Ensures Store.hierarchical
      (fun _ _ => False) (service.JoinRejected schoolCode (held state)) (held state) :=
    ensures_join_rejected based noRole ready noGroup
  obtain ⟨_, result, stored, text, rfl⟩ := ensured.fails obeys
  refine ⟨⟨text, result⟩, stored.trans (with_unit_free newSchool), ?_⟩
  change held run.state = _ at stored
  rw [stored, with_unit_other school_name_ne_group.symm, noGroupEntry]

/-- The first teacher of a school in a directory that holds the base entry alone. -/
theorem first_teacher_rejected :
    let service : Service :=
      ⟨⟨"", "cn=admin", none, "dc=schule", none, none, none, none, none, none⟩, .immediate 0⟩
    let start := Catalogue.single "dc=schule"
    let run := (service.joinGroup "anna" "0705" "uid=anna,dc=schule").run.run Catalogue.hierarchy
      start
    Catalogue.hierarchy.Obeys Store.hierarchical Catalogue.store ∧
      start.store.Rooted service.base ∧ start.store service.base ≠ none ∧
      start.store (service.schoolName "0705") = none ∧
      (∀ name record, ¬IsGroup service.base start.store "0705" name record) ∧
      (∃ text, run.result = .error (.joinGroup "lehrer-0705"
        (DirectoryError.rejected Store.noSuchObject text).message)) ∧
      run.state.store (service.groupName "0705") = none ∧ run.result ≠ .ok true := by
  intro service start run
  have rooted : start.store.Rooted service.base := by
    intro name leaf parent cut _ taken
    by_cases same : name = "dc=schule"
    · subst same
      have uncut : split? "dc=schule" = none := by decide +kernel
      rw [uncut] at cut
      cases cut
    · exact (taken (Catalogue.single_free same)).elim
  have newSchool : start.store (service.schoolName "0705") = none :=
    Catalogue.single_free (by decide +kernel)
  have noGroup : ∀ name record, ¬IsGroup service.base start.store "0705" name record := by
    intro name record isGroup
    have stored := isGroup.stored
    have named := (group_matches.mp isGroup.matched).1
    unfold start Catalogue.single at stored
    dsimp only at stored
    split at stored
    · obtain rfl := Option.some.inj stored
      cases named
    · cases stored
  have based : start.store service.base ≠ none := Catalogue.single_present "dc=schule"
  obtain ⟨⟨text, result⟩, -, absent⟩ : (∃ text, run.result = .error (.joinGroup "lehrer-0705"
      (DirectoryError.rejected Store.noSuchObject text).message)) ∧ _ ∧
      run.state.store (service.groupName "0705") = none :=
    new_school_rejected Catalogue.hierarchy_obeys rooted based newSchool noGroup
  refine ⟨Catalogue.hierarchy_obeys, rooted, based, newSchool, noGroup, ⟨text, result⟩, absent, ?_⟩
  rw [result]
  nofun

end TeacherDirectory.Service
