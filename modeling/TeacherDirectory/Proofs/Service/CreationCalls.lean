import TeacherDirectory.Proofs.Retry.Invariant
import TeacherDirectory.Proofs.Retry.LastAttempt
import TeacherDirectory.Proofs.Service.BasicCalls
import TeacherDirectory.Service.Teacher

/-!
# Calls that create a teacher

One attempt to create a teacher leaves only reads and refused writes behind, unless it adds the
entry; then it asks once more for the identifier and is over. So a retry, which follows a failure
only, never finds an addition among the calls before it. Joining the school's group asks for the
school's unit, role and group and never for a teacher.
-/

namespace TeacherDirectory

set_option autoImplicit false

def ServiceError.IsJoinFailure : ServiceError → Prop
  | joinGroup .. => True
  | _ => False

namespace Service

open DistinguishedName

section Creating

variable (base referrer name : String)

/-- The calls of creating a teacher up to the addition: connecting, binding, looking for the
username, and the addition itself. -/
def IsCreationCall : Call → Prop
  | .connect => True
  | .bind .. => True
  | .search searched _ filter names =>
      searched = base ∧ filter = .byUsername referrer ∧ names = []
  | .add added _ => added = name
  | _ => False

/-- A call of creating a teacher by which nothing was written. -/
def IsFruitless (exchange : Exchange) : Prop :=
  IsCreationCall base referrer name exchange.request ∧ exchange.wrote = false

def Preparing (history : List Exchange) : Prop :=
  ∀ exchange ∈ history, IsFruitless base referrer name exchange

def FoundExisting (history : List Exchange) : Prop :=
  Preparing base referrer name history ∧
    ∃ earlier entries, entries ≠ [] ∧
      history = earlier ++ [⟨.search base .subtree (.byUsername referrer) [], .ok entries⟩]

def EntryAdded (attributes : Attributes) (answer : Except DirectoryError (List Entry))
    (history : List Exchange) : Prop :=
  ∃ earlier, Preparing base referrer name earlier ∧
    history = earlier ++ [⟨.add name attributes, .ok ()⟩, ⟨readBack base referrer, answer⟩]

variable {base referrer name}

theorem preparing_nil : Preparing base referrer name [] := List.forall_mem_nil _

theorem Preparing.snoc {history : List Exchange} (prepared : Preparing base referrer name history)
    {exchange : Exchange} (fruitless : IsFruitless base referrer name exchange) :
    Preparing base referrer name (history ++ [exchange]) :=
  List.forall_mem_append.mpr ⟨prepared, List.forall_mem_singleton.mpr fruitless⟩

theorem ensures_create_once {service : Service} {person : Person} {entryUuid : String}
    {before : List Exchange} (prepared : Preparing base referrer name before) :
    (service.createTeacherOnce person referrer base name entryUuid).Ensures CallRule.recording
      (fun created after =>
        match created with
        | none => FoundExisting base referrer name after
        | some created => ∃ answer,
            EntryAdded base referrer name (teacherAttributes person referrer entryUuid) answer
              after ∧ created = { person with entryUuid := uuidRead answer })
      (fun failure after =>
        Preparing base referrer name after ∧ ¬failure.IsJoinFailure) before := by
  unfold createTeacherOnce findUsers
  simp only [Attempt.ensures_bind, Attempt.ensures_call, asDirectoryError, Program.ensures_pure,
    CallRule.recording]
  have opened : ∀ answer, IsFruitless base referrer name ⟨.connect, answer⟩ :=
    fun _ => ⟨trivial, rfl⟩
  have bound : ∀ admin password answer, IsFruitless base referrer name ⟨.bind admin password, answer⟩ :=
    fun _ _ _ => ⟨trivial, rfl⟩
  refine (ensures_bound opened bound prepared).weaken ?_ ?_
  · intro _ after (preparedAfter : Preparing base referrer name after)
    refine ⟨?_, ?_⟩
    · intro existing _ same
      subst same
      have searched : Preparing base referrer name
          (after ++ [⟨.search base .subtree (.byUsername referrer) [], .ok existing⟩]) :=
        preparedAfter.snoc ⟨⟨rfl, rfl, rfl⟩, rfl⟩
      split
      case isTrue found =>
        simp only [Attempt.ensures_bind, Attempt.ensures_lift, Attempt.ensures_pure,
          Program.ensures_log]
        exact ⟨searched, after, existing, by simpa using found, rfl⟩
      case isFalse =>
        simp only [Attempt.ensures_bind, Attempt.ensures_call, Attempt.ensures_lift,
          Attempt.ensures_pure, Program.ensures_bind, Program.ensures_log, Program.ensures_pure,
          ensures_fetch]
        refine ⟨?_, ?_⟩
        · intro _ _ same answer _ equal
          subst same
          subst equal
          exact ⟨answer, ⟨_, searched, List.append_assoc _ [_] [_]⟩, rfl⟩
        · intro failure _ same
          subst same
          exact ⟨searched.snoc ⟨rfl, rfl⟩, id⟩
    · intro failure _ same
      subst same
      exact ⟨preparedAfter.snoc ⟨⟨rfl, rfl, rfl⟩, rfl⟩, id⟩
  · intro _ after given
    rcases given with ⟨preparedAfter, source, rfl⟩
    exact ⟨preparedAfter, id⟩

theorem ensures_create {service : Service} {person : Person} {entryUuid : String} :
    (service.attempt "create_lehrer"
      (service.createTeacherOnce person referrer base name entryUuid)).Ensures CallRule.recording
      (fun created after =>
        match created with
        | none => FoundExisting base referrer name after
        | some created => ∃ answer,
            EntryAdded base referrer name (teacherAttributes person referrer entryUuid) answer
              after ∧ created = { person with entryUuid := uuidRead answer })
      (fun failure after =>
        Preparing base referrer name after ∧ ¬failure.IsJoinFailure) [] :=
  RetryPolicy.ensures_retry (Preparing base referrer name) preparing_nil fun _ _ prepared =>
    (ensures_create_once prepared).weaken (fun _ _ ended => ended)
      fun _ _ ended => ⟨ended.1, ended⟩

end Creating

theorem fetch_yields {base referrer : String} {history : List Exchange} {found : Option String} :
    (fetchEntryUuid base referrer).Yields history found ↔
      ∃ answer, history = [⟨readBack base referrer, answer⟩] ∧ found = uuidRead answer := by
  unfold fetchEntryUuid
  rw [Program.yields_call_bind]
  constructor
  · intro given
    rcases given with ⟨answer, later, rfl, ended⟩
    cases answer with
    | ok entries =>
        obtain ⟨rfl, rfl⟩ := Program.yields_pure.mp ended
        exact ⟨.ok entries, rfl, rfl⟩
    | error failure =>
        dsimp only at ended
        rw [Program.yields_log_bind, Program.yields_pure] at ended
        rcases ended with ⟨rfl, rfl⟩
        exact ⟨.error failure, rfl, rfl⟩
  · intro given
    rcases given with ⟨answer, rfl, rfl⟩
    refine ⟨answer, [], rfl, ?_⟩
    cases answer with
    | ok entries => exact Program.yields_pure.mpr ⟨rfl, rfl⟩
    | error failure => exact Program.yields_log_bind.mpr (Program.yields_pure.mpr ⟨rfl, rfl⟩)

/-- An attempt that created the entry would have created it whatever the read-back had answered. -/
theorem create_once_read_back {service : Service} {person created : Person}
    {referrer base name entryUuid : String} {history : List Exchange}
    (yielded : (service.createTeacherOnce person referrer base name entryUuid).run.Yields history
      (.ok (some created))) :
    ∃ earlier answer, history = earlier ++ [⟨readBack base referrer, answer⟩] ∧
      ∀ other, (service.createTeacherOnce person referrer base name entryUuid).run.Yields
        (earlier ++ [⟨readBack base referrer, other⟩])
        (.ok (some { person with entryUuid := uuidRead other })) := by
  unfold createTeacherOnce at yielded ⊢
  obtain ⟨opening, _, _, rfl, opened, afterOpening⟩ := Attempt.yields_bind_ok.mp yielded
  obtain ⟨searching, _, existing, rfl, searched, afterSearch⟩ :=
    Attempt.yields_bind_ok.mp afterOpening
  split at afterSearch
  case isTrue found =>
    rw [Attempt.yields_log_bind, Attempt.yields_pure] at afterSearch
    rcases afterSearch with ⟨-, impossible⟩
    cases impossible
  case isFalse absent =>
    obtain ⟨adding, _, _, rfl, added, afterAdding⟩ := Attempt.yields_bind_ok.mp afterSearch
    rw [Attempt.yields_log_bind] at afterAdding
    obtain ⟨reading, _, found, rfl, read, ended⟩ := Attempt.yields_bind_ok.mp afterAdding
    obtain ⟨answer, rfl, rfl⟩ := fetch_yields.mp (Attempt.yields_lift.mp read)
    obtain ⟨rfl, -⟩ := Attempt.yields_pure.mp ended
    refine ⟨opening ++ (searching ++ adding), answer, by simp, fun other => ?_⟩
    rw [List.append_assoc, List.append_assoc]
    refine Attempt.yields_bind_ok.mpr ⟨opening, _, (), rfl, opened, ?_⟩
    refine Attempt.yields_bind_ok.mpr ⟨searching, _, existing, rfl, searched, ?_⟩
    rw [if_neg absent]
    refine Attempt.yields_bind_ok.mpr ⟨adding, _, (), rfl, added, ?_⟩
    rw [Attempt.yields_log_bind]
    exact Attempt.yields_bind_ok.mpr ⟨_, [], uuidRead other, (List.append_nil _).symm,
      Attempt.yields_lift.mpr (fetch_yields.mpr ⟨other, rfl, rfl⟩),
      Attempt.yields_pure.mpr ⟨rfl, rfl⟩⟩

theorem create_read_back {service : Service} {person created : Person}
    {referrer base name entryUuid : String} {history : List Exchange}
    (yielded : (service.attempt "create_lehrer"
      (service.createTeacherOnce person referrer base name entryUuid)).run.Yields history
      (.ok (some created))) :
    ∃ earlier answer, history = earlier ++ [⟨readBack base referrer, answer⟩] ∧
      ∀ other, (service.attempt "create_lehrer"
        (service.createTeacherOnce person referrer base name entryUuid)).run.Yields
        (earlier ++ [⟨readBack base referrer, other⟩])
        (.ok (some { person with entryUuid := uuidRead other })) := by
  obtain ⟨earlier, last, number, rfl, succeeded, replaced⟩ :=
    RetryPolicy.retry_yields_success yielded
  obtain ⟨own, answer, rfl, reread⟩ := create_once_read_back succeeded
  refine ⟨earlier ++ own, answer, (List.append_assoc earlier own _).symm, fun other => ?_⟩
  rw [List.append_assoc]
  exact replaced _ _ (reread other)

end Service

end TeacherDirectory
