import Mathlib.Data.List.Forall2
import TeacherDirectory.Proofs.Program.Effects
import TeacherDirectory.Service.Attributes
import TeacherDirectory.Service.Credentials
import TeacherDirectory.Service.Teacher

/-!
# Tasks of the service

Everything that can be asked of the service is a task, with its arguments. Tasks are performed one
after the other, whatever becomes of each of them. A run of many tasks is cut into the runs of the
single ones, so what every task keeps holds after all of them.
-/

namespace TeacherDirectory

set_option autoImplicit false

namespace Service

/-- What can be asked of the service. Renaming in groups works on the connection that is open; all
other tasks open connections of their own. -/
inductive Task
  | teacherExists (referrer domain : String)
  | createTeacher (person : Person) (domain schoolCode : String) (entryUuid : Option String)
  | deleteTeacher (person : Person) (schoolCode domain : String)
  | deleteByReferrer (referrer : String)
  | modifyAttributes (referrer : String) (givenName surname newUsername : Option String)
  | attributes (personId referrer domain : String)
  | changeAddress (personId referrer address : String)
  | changePassword (personId referrer : String)
  | checkConnection
  | joinGroup (referrer schoolCode personName : String)
  | leaveGroup (username schoolCode personName : String)
  | leaveGroupByUsername (username schoolCode domain : String)
  | groups (personId referrer : String)
  | renameInGroups (oldReferrer newReferrer oldName : String)

namespace Task

abbrev Value : Task → Type
  | teacherExists .. => Bool
  | createTeacher .. => Person
  | deleteTeacher .. => Person
  | attributes .. => PersonAttributes
  | checkConnection => Unit
  | joinGroup .. => Bool
  | leaveGroup .. => Bool
  | leaveGroupByUsername .. => Bool
  | groups .. => List String
  | _ => String

def perform (service : Service) : (task : Task) → Attempt task.Value
  | teacherExists referrer domain => service.teacherExists referrer domain
  | createTeacher person domain schoolCode entryUuid =>
      service.createTeacher person domain schoolCode entryUuid
  | deleteTeacher person schoolCode domain => service.deleteTeacher person schoolCode domain
  | deleteByReferrer referrer => service.deleteByReferrer referrer
  | modifyAttributes referrer givenName surname newUsername =>
      service.modifyAttributes referrer givenName surname newUsername
  | attributes personId referrer domain => service.attributes personId referrer domain
  | changeAddress personId referrer address => service.changeAddress personId referrer address
  | changePassword personId referrer => service.changePassword personId referrer
  | checkConnection => service.checkConnection
  | joinGroup referrer schoolCode personName => service.joinGroup referrer schoolCode personName
  | leaveGroup username schoolCode personName => service.leaveGroup username schoolCode personName
  | leaveGroupByUsername username schoolCode domain =>
      service.leaveGroupByUsername username schoolCode domain
  | groups personId referrer => service.groups personId referrer
  | renameInGroups oldReferrer newReferrer oldName =>
      service.renameInGroups oldReferrer newReferrer oldName

end Task

structure Performed where
  task : Task
  outcome : Except ServiceError task.Value

def performAll (service : Service) : List Task → Program (List Performed)
  | [] => return []
  | task :: rest => do
      let outcome ← (task.perform service).run
      return ⟨task, outcome⟩ :: (← service.performAll rest)

variable {service : Service} {State : Type}

theorem performed_takes {tasks : List Task} {steps : List Step} {performed : List Performed}
    (taken : (service.performAll tasks).Takes steps performed) :
    performed.map Performed.task = tasks ∧ ∃ parts : List (List Step), steps = parts.flatten ∧
      List.Forall₂ (fun done part => (done.task.perform service).run.Takes part done.outcome)
        performed parts := by
  induction tasks generalizing steps performed with
  | nil =>
      rcases taken with ⟨rfl, rfl⟩
      exact ⟨rfl, [], rfl, .nil⟩
  | cons task rest induction =>
      obtain ⟨first, others, outcome, rfl, firstTaken, othersTaken⟩ :=
        (Program.takes_bind _ _ _ _).mp taken
      obtain ⟨later, ended, outcomes, rfl, laterTaken, rfl, rfl⟩ :=
        (Program.takes_bind _ _ _ _).mp othersTaken
      obtain ⟨rfl, parts, rfl, each⟩ := induction laterTaken
      exact ⟨rfl, first :: parts, by simp, .cons firstTaken each⟩

theorem perform_all_takes {tasks : List Task} {steps : List Step} {performed : List Performed}
    (taken : (service.performAll tasks).Takes steps performed) :
    ∃ parts : List (List Step), steps = parts.flatten ∧
      List.Forall₂ (fun task part => ∃ outcome, (task.perform service).run.Takes part outcome)
        tasks parts := by
  obtain ⟨rfl, parts, flat, each⟩ := performed_takes taken
  exact ⟨parts, flat, List.forall₂_map_left_iff.mpr
    (each.imp fun done _ own => ⟨done.outcome, own⟩)⟩

theorem ensures_perform_all {rule : CallRule State} {invariant : State → Prop} {tasks : List Task}
    {before : State}
    (each : ∀ task ∈ tasks, ∀ state, invariant state →
      (task.perform service).EndsIn rule invariant state)
    (start : invariant before) :
    (service.performAll tasks).Ensures rule (fun _ => invariant) before := by
  induction tasks generalizing before with
  | nil => exact Program.ensures_pure.mpr start
  | cons task rest induction =>
      unfold performAll
      rw [Program.ensures_bind]
      have first := Attempt.ends_in_iff.mp (each task List.mem_cons_self before start)
      refine first.weaken fun outcome between kept => ?_
      rw [Program.ensures_bind]
      exact (induction (fun later member => each later (List.mem_cons_of_mem task member))
        kept).weaken fun _ _ all => Program.ensures_pure.mpr all

section Runs

variable {world : World State} {state : State} {task : Task} {tasks : List Task}

def stateAfter (service : Service) (world : World State) (state : State) (tasks : List Task) :
    State :=
  ((service.performAll tasks).run world state).state

@[simp] theorem state_after_nil : service.stateAfter world state [] = state := rfl

@[simp] theorem state_after_cons :
    service.stateAfter world state (task :: tasks) =
      service.stateAfter world ((task.perform service).run.run world state).state tasks := by
  simp only [stateAfter, performAll, Program.run_bind]
  rfl

theorem state_after_append {more : List Task} :
    service.stateAfter world state (tasks ++ more) =
      service.stateAfter world (service.stateAfter world state tasks) more := by
  induction tasks generalizing state with
  | nil => rfl
  | cons task rest induction => rw [List.cons_append, state_after_cons, state_after_cons, induction]

/-- What holds at the start and is lost later was lost in one of the tasks. -/
theorem kept_or_lost (kept : State → Prop) (start : kept state) :
    kept (service.stateAfter world state tasks) ∨
      ∃ earlier task later, tasks = earlier ++ task :: later ∧
        kept (service.stateAfter world state earlier) ∧
        ¬kept (service.stateAfter world state (earlier ++ [task])) := by
  induction tasks generalizing state with
  | nil => exact .inl start
  | cons task rest induction =>
      by_cases still : kept ((task.perform service).run.run world state).state
      · rw [state_after_cons]
        refine (induction still).imp_right ?_
        rintro ⟨earlier, lost, later, rfl, before, after⟩
        exact ⟨task :: earlier, lost, later, rfl, by rwa [state_after_cons],
          by rwa [List.cons_append, state_after_cons]⟩
      · exact .inr ⟨[], task, rest, rfl, start, by rwa [List.nil_append, state_after_cons]⟩

end Runs

end Service

end TeacherDirectory
