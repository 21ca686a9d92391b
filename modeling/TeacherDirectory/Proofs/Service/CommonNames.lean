import TeacherDirectory.Proofs.Service.RepeatedWrites
import TeacherDirectory.Proofs.Service.UsernameWrites

/-!
# Common names of teachers

The service names a teacher's entry by the username, and writes the username as the common name.
A rename makes two writes: the common name comes first, the name of the entry with the username
second. Where the second write fails, the teacher keeps the username and has the other common name.
There is no other way to a common name that is not the username: one that differs goes back to a
rename of this entry that failed.
-/

namespace TeacherDirectory

set_option autoImplicit false

open DistinguishedName
open Function (update)

namespace Record

def IsTeacher (record : Record) : Prop := "inetOrgPerson" ∈ record "objectclass"

variable {record changed : Record} {username commonName : String}

theorem SameNames.is_teacher (names : record.SameNames changed) :
    changed.IsTeacher ↔ record.IsTeacher := by
  unfold IsTeacher
  rw [names "objectclass" List.mem_cons_self]

theorem SameNames.called (names : record.SameNames changed)
    (called : record.Called username commonName) : changed.Called username commonName :=
  ⟨(names "uid" (by simp)).trans called.username, (names "cn" (by simp)).trans called.commonName⟩

end Record

namespace Service

variable {service : Service} {failing : Prop} {before after : Store}
  {history later : List Exchange} {state : Store × List Exchange}
  {name base parent username new commonName : String} {givenName surname : Option String}
  {record changed : Record}

section Names

/-- Other names change the common name, and nothing that tells who a teacher is. -/
theorem named_record_called (called : record.Called username commonName) :
    (namedRecord givenName surname new record).Called username new where
  username := names_replaced_usernames.trans called.username
  commonName := by
    have folded : Entry.key "cn" = "cn" ∧ Entry.key "givenName" = "givenname" ∧
        Entry.key "sn" = "sn" := by decide +kernel
    have others : ∀ change ∈ nameChanges givenName surname none, Entry.key change.name ≠ "cn" := by
      intro change member
      simp only [nameChanges, List.mem_append, List.mem_map, Option.mem_toList] at member
      obtain (⟨_, given, -⟩ | ⟨_, -, rfl⟩) | ⟨_, -, rfl⟩ := member
      · cases given
      · simp [Change.replace, folded]
      · simp [Change.replace, folded]
    let changes := nameChanges givenName surname none
    change Record.replaced (update record (Entry.key "cn") [new]) changes "cn" = [new]
    rw [Record.replaced_other others, folded.1, Function.update_self]

theorem named_record_is_teacher :
    (namedRecord givenName surname new record).IsTeacher ↔ record.IsTeacher := by
  have kept : namedRecord givenName surname new record "objectclass" = record "objectclass" :=
    Record.replaced_other fun change member same =>
      (name_changes_replace change member).2 (by simp [same])
  unfold Record.IsTeacher
  rw [kept]

theorem moved_record_called (called : record.Called username commonName) :
    (movedRecord (below (userComponent username) parent) new givenName surname record).Called
      new new := by
  have folded : Entry.key "uid" = "uid" := by decide +kernel
  have named : (namedRecord givenName surname new record).Called username new :=
    named_record_called called
  have read : readComponent? (userComponent username) = some ("uid", username) :=
    read_component is_type_uid username
  have leaf : ((split? (below (userComponent username) parent)).map Prod.fst).getD
      (below (userComponent username) parent) = userComponent username := by
    unfold userComponent
    rw [split_below is_type_uid]
    rfl
  unfold movedRecord
  rw [leaf, read, Record.renamed_single (by rw [folded, named.username]), folded]
  exact ⟨Function.update_self _ _ _, (Function.update_of_ne (by decide) _ _).trans named.commonName⟩

theorem moved_record_is_teacher
    (teacher : (movedRecord name new givenName surname record).IsTeacher) : record.IsTeacher := by
  rcases moved_record_values.2 "objectclass" _ teacher with ⟨same, -⟩ | listed
  · exact absurd same (by decide)
  · exact named_record_is_teacher.mp listed

end Names

section Invariant

/-- An entry named by its only username. Its only common name is the username, or a rename of the
entry to it failed. -/
structure CalledAlike (history : List Exchange) (name : String) (record : Record)
    (username commonName : String) : Prop where
  placed : ∃ parent, name = below (userComponent username) parent
  called : record.Called username commonName
  origin : commonName = username ∨
    ∃ failure, ⟨.rename name (userComponent commonName), .error failure⟩ ∈ history

def TeachersCalled (state : Store × List Exchange) : Prop :=
  ∀ name record, state.1 name = some record → record.IsTeacher →
    ∃ username commonName, CalledAlike state.2 name record username commonName

theorem CalledAlike.extended (alike : CalledAlike history name record username commonName)
    (grows : history ⊆ later) : CalledAlike later name record username commonName where
  placed := alike.placed
  called := alike.called
  origin := alike.origin.imp_right fun ⟨failure, listed⟩ => ⟨failure, grows listed⟩

theorem TeachersCalled.extended (called : TeachersCalled (before, history))
    (grows : history ⊆ later) : TeachersCalled (before, later) := by
  intro name record stored teacher
  obtain ⟨username, commonName, alike⟩ := called name record stored teacher
  exact ⟨username, commonName, alike.extended grows⟩

theorem TeachersCalled.set {entry : Option Record} (called : TeachersCalled (before, history))
    (here : ∀ record, entry = some record → record.IsTeacher →
      ∃ username commonName, CalledAlike history name record username commonName) :
    TeachersCalled (update before name entry, history) := by
  intro other record stored teacher
  dsimp only at stored
  by_cases same : other = name
  · subst same
    rw [Function.update_self] at stored
    exact here record stored teacher
  · rw [Function.update_of_ne same] at stored
    exact called other record stored teacher

theorem TeachersCalled.kept (called : TeachersCalled (before, history))
    (kept : ∀ name, after name = none ∨ EntryKept before after name) :
    TeachersCalled (after, history) := by
  intro name record stored teacher
  rcases kept name with gone | kept
  · cases gone.symm.trans stored
  · cases kept with
    | same unchanged => exact called name record (unchanged.symm.trans stored) teacher
    | changed storedBefore storedAfter names =>
        obtain rfl := Option.some.inj (storedAfter.symm.trans stored)
        obtain ⟨username, commonName, alike⟩ :=
          called name _ storedBefore (names.is_teacher.mp teacher)
        exact ⟨username, commonName, alike.placed, names.called alike.called, alike.origin⟩
    | added free storedAfter nameless =>
        obtain rfl := Option.some.inj (storedAfter.symm.trans stored)
        exact (nameless.2 teacher).elim

theorem TeachersCalled.entered (called : TeachersCalled (before, history))
    (entered : Entered base username (below (userComponent username) parent) record before after)
    (names : record.Called username username) : TeachersCalled (after, history) := by
  rw [entered.stored]
  refine called.set fun found same _ => ?_
  obtain rfl := Option.some.inj same
  exact ⟨username, username, ⟨parent, rfl⟩, names, .inl rfl⟩

theorem TeachersCalled.renamed (called : TeachersCalled (before, history))
    (renames : RenamesUser service username new givenName surname before name record after) :
    TeachersCalled (after, history) := by
  rw [renames.stored, renamed_store_eq]
  have removed : TeachersCalled (update before name none, history) :=
    called.set fun _ none => nomatch none
  refine removed.set fun found same teacher => ?_
  obtain rfl := Option.some.inj same
  obtain ⟨old, commonName, alike⟩ :=
    called name record renames.user.stored (moved_record_is_teacher teacher)
  obtain ⟨parent, rfl⟩ := alike.placed
  exact ⟨new, new, ⟨parent, rename_user_below old new parent⟩, moved_record_called alike.called,
    .inl rfl⟩

/-- Between the two writes of a rename, the common name is that of the rename that failed. -/
theorem TeachersCalled.half_renamed {failure : DirectoryError}
    (called : TeachersCalled (before, history)) (stored : before name = some record)
    (refused : ⟨.rename name (userComponent new), .error failure⟩ ∈ history) :
    TeachersCalled
      (update before name (some (namedRecord givenName surname new record)), history) := by
  refine called.set fun found same teacher => ?_
  obtain rfl := Option.some.inj same
  obtain ⟨username, commonName, alike⟩ :=
    called name record stored (named_record_is_teacher.mp teacher)
  exact ⟨username, new, alike.placed, named_record_called alike.called, .inr ⟨failure, refused⟩⟩

end Invariant

section Tasks

variable {task : Task}

theorem ensures_sparing_called {Result : Type} {attempt : Attempt Result}
    (sparing : attempt.Performs (Effect.Calling (Call.Opening Call.Sparing)))
    (called : TeachersCalled state) :
    attempt.EndsIn (Store.answering failing).noting TeachersCalled state := by
  refine sparing.keeps ?_ called
  rintro ⟨before, history⟩ request answer ⟨after, later⟩ spares called ⟨answered, noted⟩
  obtain rfl : later = history ++ [⟨request, answer⟩] := noted
  have grows : history ⊆ history ++ [⟨request, answer⟩] := List.subset_append_left _ _
  exact (called.extended grows).kept (sparing_keeps spares answered)

theorem ensures_quiet_called {Result : Type} {attempt : Attempt Result}
    (quiet : attempt.Performs (Effect.Calling (Call.Opening Call.Quiet)))
    (called : TeachersCalled state) :
    attempt.EndsIn (Store.answering failing).noting TeachersCalled state :=
  ensures_sparing_called
    (quiet.weaken fun _ => Effect.Calling.weaken fun _ => Or.imp_right Call.Quiet.sparing) called

theorem ensures_create_called {person : Person} {domain schoolCode : String}
    {entryUuid : Option String} (called : TeachersCalled (before, history)) :
    (service.createTeacher person domain schoolCode entryUuid).EndsIn
      (Store.answering failing).noting TeachersCalled (before, history) := by
  unfold createTeacher Attempt.EndsIn
  simp only [Attempt.ensures_bind, ensures_realm, ensures_referrer]
  refine ⟨fun realm found => ⟨fun username named => ?_, fun _ => called⟩, fun _ => called⟩
  refine ensures_create_store.noted.weaken ?_ ?_
  · rintro created ⟨between, later⟩ ⟨ended, grows⟩
    cases created with
    | none =>
        obtain rfl : between = before := ended.1
        exact Attempt.ensures_pure.mpr (called.extended grows)
    | some created =>
        have entered : Entered _ username (service.teacherName username realm) _ before between :=
          ended
        have joining := (called.extended grows).entered entered teacher_called
        dsimp only
        rw [Attempt.ensures_bind]
        refine (ensures_quiet_called performs_joining joining).weaken (fun _ after same => ?_)
          fun _ _ same => same
        split <;> simpa [Program.ensures_log] using same
  · rintro _ ⟨between, later⟩ ⟨⟨same, -⟩, grows⟩
    obtain rfl : between = before := same
    exact called.extended grows

theorem ensures_attributes_called {personId domain : String}
    (called : TeachersCalled (before, history)) :
    (service.attributes personId username domain).EndsIn (Store.answering failing).noting
      TeachersCalled (before, history) := by
  refine ensures_attributes_store.noted.weaken ?_ ?_
  · rintro _ ⟨after, later⟩ ⟨⟨same, -⟩ | ⟨realm, -, entered⟩, grows⟩
    · obtain rfl : after = before := same
      exact called.extended grows
    · exact (called.extended grows).entered entered placeholder_called
  · rintro _ ⟨after, later⟩ ⟨⟨same, -⟩, grows⟩
    obtain rfl : after = before := same
    exact called.extended grows

theorem ensures_rename_called (called : TeachersCalled state) :
    (service.modifyAttributes username givenName surname (some new)).EndsIn
      (Store.answering failing).noting TeachersCalled state := by
  have naming : (service.attempt "modify_person_attributes"
      (service.modifyAttributesOnce username givenName surname (some new))).EndsIn
        (Store.answering failing).noting TeachersCalled state := by
    -- An attempt that fails between its writes keeps the invariant by the failure it noted.
    refine RetryPolicy.ensures_retry TeachersCalled called ?_
    rintro _ ⟨before, history⟩ called
    refine ensures_naming_once.weaken ?_ ?_
    · rintro _ ⟨after, later⟩ ⟨grows, name, record, -, renames⟩
      exact (called.extended grows).renamed renames
    · rintro _ ⟨after, later⟩ ⟨grows, failed⟩
      have kept : TeachersCalled (after, later) := by
        cases failed with
        | early same =>
            obtain rfl : after = before := same
            exact called.extended grows
        | late user stored refused =>
            obtain rfl : after = _ := stored
            exact (called.extended grows).half_renamed user.stored refused
      exact ⟨kept, kept⟩
  unfold modifyAttributes Attempt.EndsIn
  rw [Attempt.ensures_bind]
  refine naming.weaken (fun renamed after called => ?_) fun _ _ called => called
  cases renamed with
  | none => exact Attempt.ensures_pure.mpr called
  | some oldName =>
      rw [Attempt.ensures_bind]
      exact (ensures_quiet_called performs_following called).weaken
        (fun _ _ called => Attempt.ensures_pure.mpr called) fun _ _ called => called

theorem ensures_task_called (called : TeachersCalled state) :
    (task.perform service).EndsIn (Store.answering failing).noting TeachersCalled state := by
  cases task with
  | createTeacher person domain schoolCode entryUuid => exact ensures_create_called called
  | attributes personId referrer domain => exact ensures_attributes_called called
  | modifyAttributes referrer givenName surname newUsername =>
      cases newUsername with
      | none => exact ensures_sparing_called (performs_sparing rfl) called
      | some new => exact ensures_rename_called called
  | _ => exact ensures_sparing_called (performs_sparing rfl) called

end Tasks

section Taken

theorem ensures_placeholder_entered {personId domain : String} {realm : Realm}
    (found : service.settings.realm? domain = some realm)
    (unknown : Unidentified service.base username before)
    (free : before (service.teacherName username realm) = none) :
    (service.attributes personId username domain).EndsIn (Store.answering False)
      (· = service.withPlaceholder username realm before) before := by
  refine ensures_attributes_store.weaken (fun _ after ended => ?_) fun _ after failed => ?_
  · rcases ended with ⟨-, identified⟩ | ⟨other, foundOther, entered⟩
    · exact (identified unknown).elim
    · obtain rfl := Option.some.inj (found.symm.trans foundOther)
      exact entered.stored
  · exact (failed.2.resolve_left id realm found free).elim

/-- Without other failures, renaming a person to a name that is taken leaves the other names and
nothing else. -/
theorem ensures_taken_rename (identified : Identified service.base username name record before)
    (taken : ¬RenameFree name new before) (reliable : ¬failing) :
    (service.modifyAttributes username givenName surname (some new)).Ensures
      (Store.answering failing) (fun _ _ => False)
      (fun _ after => after = update before name (some (namedRecord givenName surname new record)))
      before := by
  unfold modifyAttributes
  rw [Attempt.ensures_bind]
  refine (RetryPolicy.ensures_retry
    (Replacing name record (nameChanges givenName surname (some new)) before) (.inl rfl) ?_).weaken
      (fun _ _ => False.elim) fun _ _ failed => failed
  -- Every attempt finds the same entry, writes the same names and is refused the rename.
  intro _ state replacing
  obtain ⟨current, found⟩ := replacing.identified identified names_replaced_usernames
  have stillTaken : ¬RenameFree name new state := by
    unfold RenameFree
    rcases replacing with rfl | rfl
    · exact taken
    · rw [Function.update_idem]
      exact taken
  have written : update state name (some (namedRecord givenName surname new current)) =
      update before name (some (namedRecord givenName surname new record)) := by
    have write := replacing.write identified.stored fun change member =>
      (name_changes_replace change member).1
    rw [Store.write_replace found.stored fun change member =>
      (name_changes_replace change member).1] at write
    exact Option.some.inj write
  refine Attempt.Ensures.unnoted [] (ensures_naming_once.weaken ?_ ?_)
  · rintro _ after ⟨-, other, content, -, renames⟩
    obtain rfl := found.only other content renames.user.stored renames.user.inside
      renames.user.named
    exact stillTaken renames.free
  · rintro _ after ⟨-, failed⟩
    cases failed with
    | early _ cause =>
        have unknown := cause.resolve_left reliable
        exact (unknown name current found.stored found.inside found.named).elim
    | @late other content failure user stored refused cause =>
        obtain rfl := found.only other content user.stored user.inside user.named
        obtain rfl := Option.some.inj (found.stored.symm.trans user.stored)
        have left := stored.trans written
        exact ⟨.inr left, left⟩

end Taken

section Runs

variable {State : Type} {world : World State} {held : State → Store}

/-- From a directory without teachers on, whatever is asked of the service and whichever calls fail,
every teacher's entry is named by its only username, and its only common name is the username or
that of a rename of the entry that failed. Where no call fails without a reason, a rename to a name
that is taken does write the other names, the common name among them, and leaves all else as it was.
-/
theorem common_names_split_by_failed_renames (service : Service) (state : State)
    (tasks : List Task) (obeys : world.Obeys (Store.answering failing) held)
    (start : ∀ name record, held state name = some record → ¬record.IsTeacher) :
    (let run := (service.performAll tasks).run world state
      ∀ name record, held run.state name = some record → record.IsTeacher →
        ∃ username commonName,
          CalledAlike (exchanges run.steps) name record username commonName) ∧
    ∀ earlier later referrer givenName surname new name record,
      let rename : Task := .modifyAttributes referrer givenName surname (some new)
      let before := held (service.stateAfter world state earlier)
      tasks = earlier ++ rename :: later → Identified service.base referrer name record before →
      ¬RenameFree name new before → ¬failing →
      held (service.stateAfter world state (earlier ++ [rename])) =
        update before name (some (namedRecord givenName surname new record)) := by
  constructor
  · have called : TeachersCalled (held state, []) :=
      fun name record stored teacher => (start name record stored teacher).elim
    exact Program.Ensures.of_noted_run obeys
      (ensures_perform_all (fun _ _ _ => ensures_task_called) called)
  · intro earlier later referrer givenName surname new name record rename before _ identified taken
      reliable
    rw [state_after_append, state_after_cons, state_after_nil]
    obtain ⟨_, -, left⟩ := (ensures_taken_rename identified taken reliable).fails obeys
    exact left

theorem placeholder_stored {state : State} (personId : String) {domain : String} {realm : Realm}
    (obeys : world.Obeys (Store.answering False) held)
    (found : service.settings.realm? domain = some realm)
    (unknown : Unidentified service.base username (held state))
    (free : held state (service.teacherName username realm) = none) :
    held ((service.attributes personId username domain).run.run world state).state =
      service.withPlaceholder username realm (held state) :=
  Program.Ensures.of_run obeys
    (Attempt.ends_in_iff.mp (ensures_placeholder_entered found unknown free))

/-- Two persons are read, and one is given the username of the other: the rename is refused, and the
username stays behind the common name. -/
theorem refused_rename_leaves_common_name :
    let service : Service :=
      ⟨⟨"", "cn=admin", none, "dc=schule", none, none, none, none, none, none⟩, .immediate 0⟩
    let readings : List Task :=
      [.attributes "7" "anna" "schule-sh.de", .attributes "8" "bert" "schule-sh.de"]
    let tasks := readings ++ [.modifyAttributes "anna" none none (some "bert")]
    let name := service.teacherName "anna" .publicSchools
    let run := (service.performAll tasks).run Catalogue.world Catalogue.empty
    ∃ record, run.state.store name = some record ∧ record.Called "anna" "bert" ∧
      ∃ failure, ⟨.rename name (userComponent "bert"), .error failure⟩ ∈ exchanges run.steps := by
  intro service readings tasks name run
  have obeys := Catalogue.world_obeys False
  have realm : service.settings.realm? "schule-sh.de" = some .publicSchools := by decide +kernel
  let entry (username : String) : Record := .ofAttributes (placeholderAttributes username)
  let withAnna := service.withPlaceholder "anna" .publicSchools fun _ => none
  let withBoth := service.withPlaceholder "bert" .publicSchools withAnna
  have nobody : Unidentified service.base "anna" fun _ => none := fun _ _ stored => nomatch stored
  have apart : service.teacherName "bert" .publicSchools ≠ name := by decide +kernel
  have unnamed {username other : String} (different : username ≠ other) :
      username ∉ Record.ofAttributes (placeholderAttributes other) "uid" := by
    rwa [placeholder_called.username, List.mem_singleton]
  have unknown : Unidentified service.base "bert" withAnna := by
    intro other record stored _ named
    by_cases same : other = name
    · have there : withAnna name = some (entry "anna") := Function.update_self _ _ _
      obtain rfl := Option.some.inj (there.symm.trans (same ▸ stored))
      exact unnamed (by decide) named
    · have free : withAnna other = none := Function.update_of_ne same _ _
      cases free.symm.trans stored
  have anna : Identified service.base "anna" name (entry "anna") withBoth :=
    (placeholder_identified nobody).beside (unnamed (by decide)) apart
  have taken : ¬RenameFree name "bert" withBoth := by
    have there : withBoth (service.teacherName "bert" .publicSchools) = some (entry "bert") :=
      Function.update_self _ _ _
    unfold RenameFree
    rw [rename_teacher_name, Function.update_of_ne apart, there]
    exact Option.some_ne_none _
  let record := namedRecord none none "bert" (entry "anna")
  have both : (service.stateAfter Catalogue.world Catalogue.empty readings).store = withBoth := by
    let one := ((service.attributes "7" "anna" "schule-sh.de").run.run Catalogue.world
      Catalogue.empty).state
    have first : one.store = withAnna := placeholder_stored "7" obeys realm nobody rfl
    have second := placeholder_stored "8" obeys realm (first ▸ unknown)
      (first ▸ Function.update_of_ne apart _ _)
    rw [first] at second
    rw [state_after_cons, state_after_cons, state_after_nil]
    exact second
  obtain ⟨alikes, refusals⟩ := common_names_split_by_failed_renames service Catalogue.empty tasks
    obeys fun _ _ stored => nomatch stored
  have final : run.state.store = update withBoth name (some record) := by
    have left := refusals readings [] "anna" none none "bert" name (entry "anna") rfl (both ▸ anna)
      (both ▸ taken) id
    rw [both] at left
    exact left
  have stored : run.state.store name = some record := final ▸ Function.update_self _ _ _
  have teacher : record.IsTeacher := by
    refine named_record_is_teacher.mpr ?_
    unfold Record.IsTeacher
    decide +kernel
  have called : record.Called "anna" "bert" := named_record_called placeholder_called
  obtain ⟨username, commonName, alike⟩ := alikes name record stored teacher
  obtain rfl : "anna" = username :=
    (List.cons.inj (called.username.symm.trans alike.called.username)).1
  obtain rfl : "bert" = commonName :=
    (List.cons.inj (called.commonName.symm.trans alike.called.commonName)).1
  exact ⟨record, stored, called, alike.origin.resolve_left (by decide)⟩

end Runs

end Service

end TeacherDirectory
