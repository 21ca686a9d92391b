import TeacherDirectory.Proofs.Service.Creation
import TeacherDirectory.Proofs.Service.Names

/-!
# What the result of creating a teacher tells

An error of joining the group means that the entry is there and the membership is not. Any other
error means that nothing was written. A success means that the entry was there before, or that this
run created it and its membership. Nothing is assumed about the directory: the report holds for all
answers to all calls.
-/

namespace TeacherDirectory.Service

set_option autoImplicit false

def IsTeacherAdd (service : Service) (person : Person) (domain : String) (request : Call) : Prop :=
  ∃ realm referrer attributes, service.settings.realm? domain = some realm ∧
    person.referrer = some referrer ∧ request = .add (service.teacherName referrer realm) attributes

def IsGroupCall (service : Service) (schoolCode : String) (request : Call) : Prop :=
  service.IsJoiningCall schoolCode request ∧ request ≠ .connect ∧
    ∀ name password, request ≠ .bind name password

def GroupAddition (service : Service) (person : Person) (domain schoolCode : String)
    (steps : List Step) (outcome : Except ServiceError Bool) : Prop :=
  ∃ realm referrer, service.settings.realm? domain = some realm ∧
    person.referrer = some referrer ∧
    (service.joinGroup referrer schoolCode (service.teacherName referrer realm)).run.Takes steps
      outcome

def FoundAndLeft (service : Service) (person : Person) (domain : String)
    (history : List Exchange) : Prop :=
  (∃ realm referrer entries, service.settings.realm? domain = some realm ∧
    person.referrer = some referrer ∧ entries ≠ [] ∧
    ⟨.search (service.realmName realm) .subtree (.byUsername referrer) [], .ok entries⟩ ∈ history) ∧
    ∀ exchange ∈ history, exchange.wrote = false

/-- The entry was added, and `entryUuid` is what was read back after that. -/
def AddedAndRead (service : Service) (person : Person) (domain : String)
    (entryUuid : Option String) (history : List Exchange) : Prop :=
  ∃ realm referrer attributes earlier answer later, service.settings.realm? domain = some realm ∧
    person.referrer = some referrer ∧
    history = earlier ++ ⟨.add (service.teacherName referrer realm) attributes, .ok ()⟩ ::
      ⟨readBack (service.realmName realm) referrer, answer⟩ :: later ∧
    entryUuid = uuidRead answer

/-- How far a run of creating a teacher got. The run creates the entry, then makes the teacher a
member of the group if it got that far, then writes its log; `joined` is the outcome of joining. -/
structure CreationReport (service : Service) (person : Person) (domain schoolCode : String)
    (steps : List Step) (result : Except ServiceError Person) (creating joining reporting : List Step)
    (joined : Option (Except ServiceError Bool)) : Prop where
  parts : steps = creating ++ joining ++ reporting
  silent : exchanges reporting = []
  grouped : match joined with
    | none => joining = []
    | some outcome => service.GroupAddition person domain schoolCode joining outcome
  joinFailure : (∃ failure, result = .error failure ∧ failure.IsJoinFailure) ↔
    (∃ exchange ∈ exchanges creating, service.IsTeacherAdd person domain exchange.request ∧
      exchange.succeeded = true) ∧ ∃ failure, joined = some (.error failure)
  groupNamed : ∀ group reason, result = .error (.joinGroup group reason) →
    group = groupId schoolCode
  otherFailure : ∀ failure, result = .error failure → ¬failure.IsJoinFailure →
    ∀ exchange ∈ exchanges steps, exchange.wrote = false
  success : ∀ value, result = .ok value →
    (value = person ∧ service.FoundAndLeft person domain (exchanges steps)) ∨
      ∃ changed, joined = some (.ok changed) ∧ value = { person with entryUuid := value.entryUuid } ∧
        service.AddedAndRead person domain value.entryUuid (exchanges steps)
  addedOnce : (exchanges steps).Pairwise fun earlier later =>
    service.IsTeacherAdd person domain earlier.request → earlier.succeeded = true →
      ¬service.IsTeacherAdd person domain later.request
  groupLast : (exchanges steps).Pairwise fun earlier later =>
    service.IsGroupCall schoolCode earlier.request →
      ¬service.IsTeacherAdd person domain later.request

/-- The same outcome up to the identifier of the entry. -/
def AlikeButUuid : Except ServiceError Person → Except ServiceError Person → Prop
  | .ok value, .ok other => other = { value with entryUuid := other.entryUuid }
  | .error failure, .error other => other = failure
  | _, _ => False

variable {service : Service} {person : Person} {domain schoolCode referrer base : String}
  {realm : Realm} {entryUuid : Option String}

theorem joining_not_teacher_add {request : Call} (joining : service.IsJoiningCall schoolCode request) :
    ¬service.IsTeacherAdd person domain request := by
  intro given
  rcases given with ⟨realm, referrer, attributes, -, -, rfl⟩
  rcases joining with same | same
  · exact teacher_name_ne_school same
  · exact teacher_name_ne_group same

theorem creation_not_group {request : Call}
    (creation : IsCreationCall base referrer (service.teacherName referrer realm) request) :
    ¬service.IsGroupCall schoolCode request := by
  intro given
  rcases given with ⟨joining, noConnect, noBind⟩
  cases request with
  | connect => exact noConnect rfl
  | bind name password => exact noBind name password rfl
  | search searched scope filter names =>
      rcases creation with ⟨-, rfl, -⟩
      rcases joining with same | same | same
      all_goals simp [Filter.byUsername, groupFilter] at same
  | add name attributes =>
      obtain rfl : name = _ := creation
      rcases joining with same | same
      · exact teacher_name_ne_school same
      · exact teacher_name_ne_group same
  | _ => exact creation

def IsReadBack (request : Call) : Prop := ∃ base referrer, request = readBack base referrer

theorem creation_not_read_back {name : String} {request : Call}
    (creation : IsCreationCall base referrer name request) : ¬IsReadBack request := by
  intro given
  rcases given with ⟨searched, username, rfl⟩
  rcases creation with ⟨-, -, named⟩
  cases named

theorem joining_not_read_back {request : Call}
    (joining : service.IsJoiningCall schoolCode request) : ¬IsReadBack request := by
  intro given
  rcases given with ⟨searched, username, rfl⟩
  rcases joining with same | same | same
  all_goals simp [Filter.byUsername, groupFilter] at same

theorem join_error_group {steps : List Step} {failure : ServiceError} {personName group reason : String}
    (joined : (service.joinGroup referrer schoolCode personName).run.Takes steps (.error failure))
    (failed : joinError schoolCode failure = .joinGroup group reason) :
    group = groupId schoolCode := by
  have joining : IsJoiningError schoolCode failure := ensures_join.of_takes joined
  cases failure with
  | joinGroup named why =>
      cases failed
      exact joining
  | bind source =>
      cases failed
      rfl
  | _ => exact joining.elim

theorem teacher_add_wrote {exchange : Exchange}
    (teacher : service.IsTeacherAdd person domain exchange.request)
    (succeeded : exchange.succeeded = true) : exchange.wrote = true := by
  rcases teacher with ⟨realm, referrer, attributes, -, -, asked⟩
  unfold Exchange.wrote
  rw [asked, succeeded]
  rfl

theorem report_unwritten {steps : List Step} {result : Except ServiceError Person}
    (unwritten : ∀ exchange ∈ exchanges steps, exchange.wrote = false)
    (noGroup : ∀ exchange ∈ exchanges steps, ¬service.IsGroupCall schoolCode exchange.request)
    (notJoining : ∀ failure, result = .error failure → ¬failure.IsJoinFailure)
    (found : ∀ value, result = .ok value →
      value = person ∧ service.FoundAndLeft person domain (exchanges steps)) :
    CreationReport service person domain schoolCode steps result steps [] [] none where
  parts := by rw [List.append_nil, List.append_nil]
  silent := rfl
  grouped := rfl
  joinFailure := by
    constructor
    · intro given
      rcases given with ⟨failure, failed, joining⟩
      exact (notJoining failure failed joining).elim
    · intro given
      rcases given with ⟨-, _, impossible⟩
      cases impossible
  groupNamed group reason failed := (notJoining _ failed trivial).elim
  otherFailure _ _ _ := unwritten
  success value succeeded := .inl (found value succeeded)
  addedOnce := by
    apply List.pairwise_of_forall_mem_list
    intro earlier member later _ teacher succeeded
    have wrote := teacher_add_wrote teacher succeeded
    rw [unwritten earlier member] at wrote
    cases wrote
  groupLast := List.pairwise_of_forall_mem_list fun earlier member later _ group =>
    (noGroup earlier member group).elim

section Joined

variable {created value : Person} {outcome : Except ServiceError Bool} {failure : ServiceError}

theorem join_error_is_join_failure (schoolCode : String) (source : ServiceError) :
    (joinError schoolCode source).IsJoinFailure := by
  cases source <;> trivial

theorem joined_result_ok (succeeded : joinedResult schoolCode created outcome = .ok value) :
    value = created ∧ ∃ changed, outcome = .ok changed := by
  cases outcome with
  | error failure => cases succeeded
  | ok changed =>
      cases succeeded
      exact ⟨rfl, changed, rfl⟩

theorem joined_result_error (failed : joinedResult schoolCode created outcome = .error failure) :
    failure.IsJoinFailure ∧ ∃ source, outcome = .error source ∧
      failure = joinError schoolCode source := by
  cases outcome with
  | ok changed => cases failed
  | error source =>
      cases failed
      exact ⟨join_error_is_join_failure schoolCode source, source, rfl, rfl⟩

theorem joined_result_join_failure :
    (∃ failure, joinedResult schoolCode created outcome = .error failure ∧
      failure.IsJoinFailure) ↔ ∃ source, outcome = .error source := by
  constructor
  · intro given
    obtain ⟨failure, failed, -⟩ := given
    obtain ⟨-, source, same, -⟩ := joined_result_error failed
    exact ⟨source, same⟩
  · intro given
    obtain ⟨source, rfl⟩ := given
    exact ⟨_, rfl, join_error_is_join_failure schoolCode source⟩

end Joined

theorem no_adds_from_read_back {joining : List Step} {outcome : Except ServiceError Bool}
    {answer : Except DirectoryError (List Entry)} {personName : String}
    (joined : (service.joinGroup referrer schoolCode personName).run.Takes joining outcome) :
    ∀ exchange ∈ (⟨readBack base referrer, answer⟩ :: exchanges joining : List Exchange),
      ¬service.IsTeacherAdd person domain exchange.request := by
  refine List.forall_mem_cons.mpr ⟨fun given => ?_, fun exchange member => ?_⟩
  · obtain ⟨_, _, _, -, -, impossible⟩ := given
    cases impossible
  · exact joining_not_teacher_add (performs_join.exchanges joined exchange member)

theorem report_added {creating joining reporting : List Step} {created : Person}
    {answer : Except DirectoryError (List Entry)} {attributes : Attributes}
    {outcome : Except ServiceError Bool}
    (realmFound : service.settings.realm? domain = some realm)
    (named : person.referrer = some referrer)
    (added : EntryAdded (service.realmName realm) referrer (service.teacherName referrer realm)
      attributes answer (exchanges creating))
    (identified : created = { person with entryUuid := uuidRead answer })
    (joined : (service.joinGroup referrer schoolCode
      (service.teacherName referrer realm)).run.Takes joining outcome)
    (silent : exchanges reporting = []) :
    CreationReport service person domain schoolCode (creating ++ joining ++ reporting)
      (joinedResult schoolCode created outcome) creating joining reporting (some outcome) := by
  rcases added with ⟨earlier, prepared, history⟩
  have teacher : service.IsTeacherAdd person domain
      (.add (service.teacherName referrer realm) attributes) :=
    ⟨realm, referrer, attributes, realmFound, named, rfl⟩
  have calls : exchanges (creating ++ joining ++ reporting) = earlier ++
      ⟨.add (service.teacherName referrer realm) attributes, .ok ()⟩ ::
        ⟨readBack (service.realmName realm) referrer, answer⟩ :: exchanges joining := by
    simp [history, silent]
  refine ⟨rfl, silent, ⟨realm, referrer, realmFound, named, joined⟩, ?joinFailure, ?groupNamed,
    ?otherFailure, ?success, ?addedOnce, ?groupLast⟩
  case joinFailure =>
    have carried : ∃ exchange ∈ exchanges creating,
        service.IsTeacherAdd person domain exchange.request ∧ exchange.succeeded = true := by
      refine ⟨⟨_, .ok ()⟩, ?_, teacher, rfl⟩
      rw [history]
      simp
    simp only [joined_result_join_failure, carried, true_and, Option.some.injEq]
  case groupNamed =>
    intro group reason failed
    obtain ⟨-, source, rfl, same⟩ := joined_result_error failed
    exact join_error_group joined same.symm
  case otherFailure =>
    intro failure failed notJoining
    exact (notJoining (joined_result_error failed).1).elim
  case success =>
    intro value succeeded
    obtain ⟨rfl, changed, rfl⟩ := joined_result_ok succeeded
    subst identified
    exact .inr ⟨changed, rfl, rfl, realm, referrer, attributes, earlier, answer, exchanges joining,
      realmFound, named, calls, rfl⟩
  case addedOnce =>
    rw [calls]
    refine pairwise_around (fun first member later isAdd succeeded => ?_)
      fun later member first _ _ => no_adds_from_read_back joined later member
    have wrote := teacher_add_wrote isAdd succeeded
    rw [(prepared first member).2] at wrote
    cases wrote
  case groupLast =>
    rw [calls]
    exact pairwise_around
      (fun first member later group => (creation_not_group (prepared first member).1 group).elim)
      fun later member first _ => no_adds_from_read_back joined later member

theorem creation_report {steps : List Step} {result : Except ServiceError Person}
    (trace : CreationTrace service person domain schoolCode entryUuid steps result) :
    ∃ creating joining reporting joined,
      CreationReport service person domain schoolCode steps result creating joining reporting
        joined := by
  cases trace with
  | rejected silent argument =>
      refine ⟨steps, [], [], none, report_unwritten ?_ ?_ ?_ ?_⟩
      · simp [silent]
      · simp [silent]
      · intro _ given joining
        cases given
        rcases argument with rfl | rfl <;> exact joining
      · intro _ given
        cases given
  | @failed realm referrer _ failure realmFound named entered =>
      obtain ⟨prepared, notJoining⟩ :
          Preparing (service.realmName realm) referrer (service.teacherName referrer realm)
            (exchanges steps) ∧ ¬failure.IsJoinFailure := ensures_create.of_takes entered
      refine ⟨steps, [], [], none, report_unwritten (fun exchange member => (prepared _ member).2)
        (fun exchange member => creation_not_group (prepared _ member).1) ?_ ?_⟩
      · intro _ given
        cases given
        exact notJoining
      · intro _ given
        cases given
  | @existing realm referrer _ realmFound named entered =>
      obtain ⟨prepared, earlier, entries, nonempty, history⟩ :
          FoundExisting (service.realmName realm) referrer (service.teacherName referrer realm)
            (exchanges steps) := ensures_create.of_takes entered
      refine ⟨steps, [], [], none, report_unwritten (fun exchange member => (prepared _ member).2)
        (fun exchange member => creation_not_group (prepared _ member).1) ?_ ?_⟩
      · intro _ given
        cases given
      · intro _ given
        cases given
        refine ⟨rfl, ⟨realm, referrer, entries, realmFound, named, nonempty, ?_⟩,
          fun exchange member => (prepared _ member).2⟩
        rw [history]
        simp
  | @added realm referrer creating joining reporting created outcome realmFound named entered joined
      silent =>
      obtain ⟨answer, added, identified⟩ : ∃ answer,
          EntryAdded (service.realmName realm) referrer (service.teacherName referrer realm)
            (teacherAttributes person referrer (entryUuid.getD person.id)) answer
            (exchanges creating) ∧ created = { person with entryUuid := uuidRead answer } :=
        ensures_create.of_takes entered
      exact ⟨creating, joining, reporting, some outcome,
        report_added realmFound named added identified joined silent⟩

/-- The read-back is the last call that creates the entry and the only one of its kind, and the entry
would have been created whatever it had answered. -/
theorem entered_read_back {steps : List Step} {created : Person}
    (entered : (service.entering person referrer realm entryUuid).run.Takes steps
      (.ok (some created))) :
    ∃ before answer,
      exchanges steps = before ++ [⟨readBack (service.realmName realm) referrer, answer⟩] ∧
      (∀ exchange ∈ before, ¬IsReadBack exchange.request) ∧
      created = { person with entryUuid := uuidRead answer } ∧
      ∀ other, (service.entering person referrer realm entryUuid).run.Yields
        (before ++ [⟨readBack (service.realmName realm) referrer, other⟩])
        (.ok (some { person with entryUuid := uuidRead other })) := by
  obtain ⟨answer, ⟨prepared, fruitless, calls⟩, rfl⟩ : ∃ answer,
      EntryAdded (service.realmName realm) referrer (service.teacherName referrer realm)
        (teacherAttributes person referrer (entryUuid.getD person.id)) answer (exchanges steps) ∧
        created = { person with entryUuid := uuidRead answer } := ensures_create.of_takes entered
  obtain ⟨before, read, cut, reread⟩ := create_read_back entered.yields
  have same := cut.symm.trans (calls.trans (List.append_assoc prepared [_] [_]).symm)
  obtain ⟨rfl, lastSame⟩ := List.append_inj' same rfl
  refine ⟨_, answer, cut.trans (congrArg _ lastSame), ?_, rfl, reread⟩
  refine List.forall_mem_append.mpr ⟨fun exchange member => ?_, List.forall_mem_singleton.mpr ?_⟩
  · exact creation_not_read_back (fruitless exchange member).1
  · intro given
    rcases given with ⟨_, _, impossible⟩
    cases impossible

theorem read_back_irrelevant {steps : List Step} {result : Except ServiceError Person}
    (taken : (service.createTeacher person domain schoolCode entryUuid).run.Takes steps result)
    {earlier later : List Exchange} {answer : Except DirectoryError (List Entry)}
    (history : exchanges steps = earlier ++ ⟨readBack base referrer, answer⟩ :: later)
    (other : Except DirectoryError (List Entry)) :
    ∃ changed, AlikeButUuid result changed ∧ ∀ outcome,
      (service.createTeacher person domain schoolCode entryUuid).run.Yields
        (earlier ++ ⟨readBack base referrer, other⟩ :: later) outcome ↔ outcome = changed := by
  have unique {calls : List Exchange} {outcome changed : Except ServiceError Person}
      (yielded : (service.createTeacher person domain schoolCode entryUuid).run.Yields calls changed)
      (again : (service.createTeacher person domain schoolCode entryUuid).run.Yields calls outcome) :
      outcome = changed := by
    rcases yielded with ⟨first, firstTaken, rfl⟩
    rcases again with ⟨second, secondTaken, same⟩
    exact Program.takes_determined performs_create_teacher secondTaken firstTaken same
  have asked : (⟨readBack base referrer, answer⟩ : Exchange) ∈ exchanges steps := by
    rw [history]
    simp
  cases create_teacher_takes taken with
  | rejected silent =>
      rw [silent] at asked
      cases asked
  | @failed realm username _ failure realmFound named entered =>
      obtain ⟨prepared, -⟩ :
          Preparing (service.realmName realm) username (service.teacherName username realm)
            (exchanges steps) ∧ ¬failure.IsJoinFailure := ensures_create.of_takes entered
      exact (creation_not_read_back (prepared _ asked).1 ⟨base, referrer, rfl⟩).elim
  | @existing realm username _ realmFound named entered =>
      obtain ⟨prepared, -⟩ :
          FoundExisting (service.realmName realm) username (service.teacherName username realm)
            (exchanges steps) := ensures_create.of_takes entered
      exact (creation_not_read_back (prepared _ asked).1 ⟨base, referrer, rfl⟩).elim
  | @added realm username creating joining reporting created outcome realmFound named entered joined
      silent =>
      obtain ⟨before, answered, calls, onlyLast, rfl, reread⟩ := entered_read_back entered
      have whole : earlier ++ ⟨readBack base referrer, answer⟩ :: later =
          before ++ ⟨readBack (service.realmName realm) username, answered⟩ ::
            exchanges joining := by
        rw [← history, exchanges_append, exchanges_append, silent, calls]
        simp
      have isReadBack : IsReadBack (readBack base referrer) := ⟨base, referrer, rfl⟩
      obtain ⟨rfl, same, rfl⟩ := cut_unique whole isReadBack onlyLast
        fun exchange member => joining_not_read_back (performs_join.exchanges joined exchange member)
      have asksSame := congrArg Exchange.request same
      cases asksSame
      have yielded := create_teacher_yields realmFound named (reread other) joined.yields
      rw [List.append_assoc] at yielded
      refine ⟨joinedResult schoolCode { person with entryUuid := uuidRead other } outcome, ?_,
        fun another => ⟨unique yielded, fun equal => equal ▸ yielded⟩⟩
      cases outcome with
      | ok changed => rfl
      | error failure => rfl

/-- Every run in every world has its report, and the answer to the read-back decides nothing but the
identifier: with any other answer the run makes the same calls and ends alike. -/
theorem create_teacher_reported {State : Type} (world : World State) (state : State)
    (service : Service) (person : Person) (domain schoolCode : String)
    (entryUuid : Option String) :
    let creation := (service.createTeacher person domain schoolCode entryUuid).run
    let run := creation.run world state
    (∃ creating joining reporting joined,
      CreationReport service person domain schoolCode run.steps run.result creating joining
        reporting joined) ∧
      ∀ base referrer earlier answer later,
        exchanges run.steps = earlier ++ ⟨readBack base referrer, answer⟩ :: later →
        ∀ other, ∃ changed, AlikeButUuid run.result changed ∧ ∀ outcome,
          creation.Yields (earlier ++ ⟨readBack base referrer, other⟩ :: later) outcome ↔
            outcome = changed := by
  intro creation run
  have taken := Program.run_takes world creation state
  refine ⟨creation_report (create_teacher_takes taken), ?_⟩
  intro base referrer earlier answer later history other
  exact read_back_irrelevant taken history other

end TeacherDirectory.Service
