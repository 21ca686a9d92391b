import TeacherDirectory.Proofs.Service.CreationReport

/-!
# Teachers who stay outside their group

Whoever created an entry and was told so makes the teacher a member of the school's group. A
directory may carry out an addition and fail to say so. Then the next attempt finds the entry, takes
it for one that was there before, and leaves the group alone.
-/

namespace TeacherDirectory.Service

set_option autoImplicit false

open DistinguishedName

/-- The steps contain a whole trace of making the teacher a member of the group, with success. -/
def JoinedGroup (service : Service) (person : Person) (domain schoolCode : String)
    (steps : List Step) : Prop :=
  ∃ earlier joining later changed, steps = earlier ++ joining ++ later ∧
    service.GroupAddition person domain schoolCode joining (.ok changed)

/-- The last call was the search for the username, and it found an entry. -/
def FoundLast (service : Service) (person : Person) (domain : String)
    (history : List Exchange) : Prop :=
  ∃ realm referrer earlier entries, service.settings.realm? domain = some realm ∧
    person.referrer = some referrer ∧ entries ≠ [] ∧
    history = earlier ++
      [⟨.search (service.realmName realm) .subtree (.byUsername referrer) [], .ok entries⟩]

variable {service : Service} {person value : Person} {domain schoolCode : String}
  {entryUuid : Option String}

theorem found_without_writing {realm : Realm} {referrer : String} {steps : List Step}
    (realmFound : service.settings.realm? domain = some realm)
    (named : person.referrer = some referrer)
    (entered : (service.entering person referrer realm entryUuid).run.Takes steps (.ok none)) :
    service.FoundLast person domain (exchanges steps) ∧
      (∀ exchange ∈ exchanges steps, ¬service.IsGroupCall schoolCode exchange.request) ∧
      ∀ exchange ∈ exchanges steps, service.IsTeacherAdd person domain exchange.request →
        exchange.succeeded = false := by
  obtain ⟨prepared, earlier, entries, nonempty, history⟩ :
      FoundExisting (service.realmName realm) referrer (service.teacherName referrer realm)
        (exchanges steps) := ensures_create.of_takes entered
  refine ⟨⟨realm, referrer, earlier, entries, realmFound, named, nonempty, history⟩,
    fun exchange member => creation_not_group (prepared exchange member).1,
    fun exchange member teacher => ?_⟩
  have unwritten := (prepared exchange member).2
  cases succeeded : exchange.succeeded with
  | false => rfl
  | true => exact (teacher_add_wrote teacher succeeded).symm.trans unwritten

/-- A successful run adds the entry and makes the teacher a member of the group, or all its additions
were reported as failed, the last attempt found an entry, and the group was left alone. -/
theorem added_teacher_joined_or_found {State : Type} {world : World State} {state : State}
    (succeeded : ((service.createTeacher person domain schoolCode entryUuid).run.run world
      state).result = .ok value) :
    let steps := ((service.createTeacher person domain schoolCode entryUuid).run.run world state).steps
    (service.JoinedGroup person domain schoolCode steps ∧
      ∃ exchange ∈ exchanges steps, service.IsTeacherAdd person domain exchange.request ∧
        exchange.succeeded = true) ∨
      (value = person ∧ service.FoundLast person domain (exchanges steps) ∧
        (∀ exchange ∈ exchanges steps, ¬service.IsGroupCall schoolCode exchange.request) ∧
        ∀ exchange ∈ exchanges steps, service.IsTeacherAdd person domain exchange.request →
          exchange.succeeded = false) := by
  have trace := create_teacher_takes
    (Program.run_takes world (service.createTeacher person domain schoolCode entryUuid).run state)
  revert succeeded trace
  generalize ((service.createTeacher person domain schoolCode entryUuid).run.run world state) = run
  rcases run with ⟨steps, result, after⟩
  intro succeeded trace
  cases trace with
  | rejected silent => cases succeeded
  | failed => cases succeeded
  | existing realmFound named entered =>
      cases succeeded
      exact .inr ⟨rfl, found_without_writing realmFound named entered⟩
  | @added realm referrer creating joining reporting created outcome realmFound named entered joined
      silent =>
      cases outcome with
      | error failure => cases succeeded
      | ok changed =>
          obtain ⟨answer, ⟨earlier, prepared, history⟩, -⟩ : ∃ answer,
              EntryAdded (service.realmName realm) referrer (service.teacherName referrer realm)
                (teacherAttributes person referrer (entryUuid.getD person.id)) answer
                (exchanges creating) ∧ created = { person with entryUuid := uuidRead answer } :=
            ensures_create.of_takes entered
          let request : Call := .add (service.teacherName referrer realm)
            (teacherAttributes person referrer (entryUuid.getD person.id))
          have added : (⟨request, .ok ()⟩ : Exchange) ∈ exchanges creating := by
            rw [history]
            simp [request]
          refine .inl ⟨⟨creating, joining, reporting, changed, rfl, realm, referrer, realmFound,
            named, joined⟩, ⟨request, .ok ()⟩, ?_, ⟨realm, referrer, _, realmFound, named, rfl⟩, rfl⟩
          change _ ∈ exchanges (creating ++ joining ++ reporting)
          rw [exchanges_append, exchanges_append]
          exact List.mem_append_left _ (List.mem_append_left _ added)

def adds (name : String) : Call → Bool
  | .add added _ => added == name
  | _ => false

def searchesByAll : Call → Bool
  | .search _ _ (.all _) _ => true
  | _ => false

theorem teacher_add_of_adds {realm : Realm} {referrer : String} {request : Call}
    (realmFound : service.settings.realm? domain = some realm)
    (named : person.referrer = some referrer)
    (asked : adds (service.teacherName referrer realm) request = true) :
    service.IsTeacherAdd person domain request := by
  cases request with
  | add name attributes =>
      exact ⟨realm, referrer, attributes, realmFound, named, by rw [beq_iff_eq.mp asked]⟩
  | _ => cases asked

theorem joined_searches {steps : List Step}
    (joined : service.JoinedGroup person domain schoolCode steps) :
    ∃ exchange ∈ exchanges steps, searchesByAll exchange.request = true := by
  rcases joined with ⟨earlier, joining, later, changed, rfl, realm, referrer, -, -, taken⟩
  obtain ⟨answer, asked⟩ :
      ∃ answer, (⟨service.groupSearch schoolCode, answer⟩ : Exchange) ∈ exchanges joining :=
    ensures_join.of_takes taken
  refine ⟨⟨service.groupSearch schoolCode, answer⟩, ?_, rfl⟩
  rw [exchanges_append, exchanges_append]
  exact List.mem_append_left _ (List.mem_append_right _ asked)

/-- A directory that answers additions as given and finds an entry in every search after one. -/
def oneTeacher (reported : Except DirectoryError Unit) : World Bool :=
  .ofCalls fun request added =>
    match request with
    | .search .. => (.ok (if added then [Entry.empty "uid=anna"] else []), added)
    | .add .. => (reported, true)
    | .connect => (.ok (), added)
    | .bind .. => (.ok (), added)
    | .modify .. => (.ok (), added)
    | .rename .. => (.ok (), added)
    | .delete .. => (.ok (), added)

def anna : Person := ⟨"7", "Anna", "Ahrens", some "anna", none⟩

def twice : Service := ⟨⟨"", "", none, "dc=schule", none, none, none, none, none, none⟩, .immediate 1⟩

theorem twice_attempt {Result : Type} (operation : String) (once : Attempt Result) :
    twice.attempt operation once = ExceptT.mk (do
      match ← RetryPolicy.attemptOnce operation once 0 with
      | .ok value => return .ok value
      | .error _ => (RetryPolicy.immediate 1).retryFrom operation (fun _ => once) 1 0) := by
  change ExceptT.mk ((RetryPolicy.immediate 1).retryFrom operation (fun _ => once) 0 1) = _
  refine congrArg ExceptT.mk (congrArg (Program.bind _) (funext fun outcome => ?_))
  cases outcome with
  | ok value => rfl
  | error failure =>
      change (RetryPolicy.immediate 1).pause 0 >>= _ = _
      rw [RetryPolicy.pause_immediate]
      rfl

theorem ok_of_to_option {Value : Type} {outcome : Except ServiceError Value} {value : Value}
    (found : outcome.toOption = some value) : outcome = .ok value := by
  cases outcome with
  | ok other => exact congrArg Except.ok (Option.some.inj found)
  | error failure => cases found

def creatingAnna (reported : Except DirectoryError Unit) : Run Bool (Except ServiceError Person) :=
  (twice.createTeacher anna "schule-sh.de" "0705" none).run.run (oneTeacher reported) false

def lostAnswer : Run Bool (Except ServiceError Person) :=
  creatingAnna (.error (.transport "connection reset"))

theorem lost_answer_calls :
    lostAnswer.result.toOption = some anna ∧
      (exchanges lostAnswer.steps).any (fun exchange =>
        adds (twice.teacherName "anna" .publicSchools) exchange.request) = true ∧
      (exchanges lostAnswer.steps).any (fun exchange => searchesByAll exchange.request) = false := by
  unfold lostAnswer creatingAnna createTeacher
  simp only [twice_attempt]
  decide +kernel

/-- The second attempt finds the entry that the first one added, and the teacher stays outside the
group although this call created it. -/
theorem lost_answer_leaves_outside :
    lostAnswer.result = .ok anna ∧
      (∃ exchange ∈ exchanges lostAnswer.steps,
        twice.IsTeacherAdd anna "schule-sh.de" exchange.request) ∧
      ¬twice.JoinedGroup anna "schule-sh.de" "0705" lostAnswer.steps := by
  rcases lost_answer_calls with ⟨result, added, unsearched⟩
  obtain ⟨exchange, member, asked⟩ := List.any_eq_true.mp added
  refine ⟨ok_of_to_option result, ⟨exchange, member, ?_⟩, fun joined => ?_⟩
  · exact teacher_add_of_adds (by decide +kernel) rfl asked
  · obtain ⟨searching, searched, byAll⟩ := joined_searches joined
    exact List.any_eq_false.mp unsearched searching searched byAll

theorem answered_addition_succeeds :
    (creatingAnna (.ok ())).result = .ok anna ∧
      ∃ exchange ∈ exchanges (creatingAnna (.ok ())).steps,
        twice.IsTeacherAdd anna "schule-sh.de" exchange.request ∧ exchange.succeeded = true := by
  have result : (creatingAnna (.ok ())).result.toOption = some anna := by decide +kernel
  have searched : (exchanges (creatingAnna (.ok ())).steps).any (fun exchange =>
        adds (twice.teacherName "anna" .publicSchools) exchange.request && exchange.succeeded) =
      true := by decide +kernel
  obtain ⟨exchange, member, asked⟩ := List.any_eq_true.mp searched
  obtain ⟨adding, succeeded⟩ := Bool.and_eq_true_iff.mp asked
  exact ⟨ok_of_to_option result, exchange, member,
    teacher_add_of_adds (by decide +kernel) rfl adding, succeeded⟩

/-- The same addition, answered as it was carried out and not: the teacher is made a member in the
first run, and in the second one the entry of this very call passes for one that was there before. -/
theorem joined_unless_answer_lost :
    ((creatingAnna (.ok ())).result = .ok anna ∧
      twice.JoinedGroup anna "schule-sh.de" "0705" (creatingAnna (.ok ())).steps) ∧
      (lostAnswer.result = .ok anna ∧
        (∃ exchange ∈ exchanges lostAnswer.steps,
          twice.IsTeacherAdd anna "schule-sh.de" exchange.request) ∧
        twice.FoundLast anna "schule-sh.de" (exchanges lostAnswer.steps) ∧
        ¬twice.JoinedGroup anna "schule-sh.de" "0705" lostAnswer.steps) := by
  obtain ⟨created, exchange, member, teacher, succeeded⟩ := answered_addition_succeeds
  obtain ⟨found, added, outside⟩ := lost_answer_leaves_outside
  refine ⟨⟨created, ?_⟩, found, added, ?_, outside⟩
  · obtain ⟨joined, -⟩ | ⟨-, -, -, failed⟩ := added_teacher_joined_or_found created
    · exact joined
    · rw [failed exchange member teacher] at succeeded
      cases succeeded
  · obtain ⟨joined, -⟩ | ⟨-, last, -, -⟩ := added_teacher_joined_or_found found
    · exact absurd joined outside
    · exact last

end TeacherDirectory.Service
