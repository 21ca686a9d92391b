import TeacherDirectory.Proofs.Directory.Catalogue
import TeacherDirectory.Proofs.Service.RepeatedJoins

/-!
# Operations that a lost answer makes no difference to

The same operation is run against two directories that hold the same. One answers every call, the other
may keep silent about one write that it carried out. If the first run succeeds, so does the second one,
and both directories hold the same in the end; of a new password each holds the one that its own run
gave back.
-/

namespace TeacherDirectory.Service

set_option autoImplicit false

namespace Task

/-- The tasks that can be repeated. Names are changed here without a new username. -/
def Repeatable : Task → Prop
  | deleteTeacher .. | joinGroup .. | changePassword .. | attributes .. => True
  | modifyAttributes _ _ _ newUsername => newUsername = none
  | _ => False

/-- The stores after two runs are the same, up to the password that each run gave. -/
def Agree (base : String) (start plain lossy : Store) : (task : Task) → task.Value → task.Value → Prop
  | changePassword _ referrer, value, again => ∃ name record,
      Identified base referrer name record start ∧ plain = withPassword name record start value ∧
        lossy = withPassword name record start again
  | _, _, _ => lossy = plain

def Ends (base : String) (start : Store) : (task : Task) → (task.Value → Store) → Prop
  | changePassword _ referrer, stores => HoldsPassword base referrer start stores
  | _, stores => IsConstant stores

variable {service : Service} {start : Store} {task : Task}

theorem Ends.agree {base : String} {stores : task.Value → Store}
    (ends : task.Ends base start stores) (value again : task.Value) :
    task.Agree base start (stores value) (stores again) value again := by
  cases task with
  | changePassword personId referrer =>
      rcases ends with ⟨name, record, identified, rfl⟩
      exact ⟨name, record, identified, rfl, rfl⟩
  | _ =>
      rcases ends with ⟨store, rfl⟩
      rfl

theorem converges (repeatable : task.Repeatable) (orderly : Orderly service.base start)
    (retries : 1 ≤ service.policy.maxRetries.toNat) :
    Converges (task.perform service) start (task.Ends service.base start) := by
  cases task with
  | deleteTeacher person schoolCode domain => exact converges_delete orderly retries
  | joinGroup referrer schoolCode personName => exact converges_join orderly.groups retries
  | changePassword personId referrer => exact converges_password orderly retries
  | attributes personId referrer domain => exact converges_attributes orderly retries
  | modifyAttributes referrer givenName surname newUsername =>
      obtain rfl : newUsername = none := repeatable
      exact converges_names orderly retries
  | _ => exact repeatable.elim

end Task

/-- Whatever succeeds while all calls are answered succeeds while one write is not, and leaves the
same behind. -/
theorem lost_answer_makes_no_difference {Plain Lossy : Type} {plain : World Plain}
    {lossy : World Lossy} {kept : Plain → Store} {held : Lossy → Journal} {first : Plain}
    {second : Lossy} {service : Service} {task : Task} {value : task.Value}
    (repeatable : task.Repeatable) (answers : plain.Obeys (Store.answering False) kept)
    (obeys : lossy.Obeys Journal.silence held) (begins : held second = ⟨kept first, []⟩)
    (orderly : Orderly service.base (kept first))
    (retries : 1 ≤ service.policy.maxRetries.toNat)
    (succeeded : ((task.perform service).run.run plain first).result = .ok value) :
    let after := ((task.perform service).run.run plain first).state
    let again := (task.perform service).run.run lossy second
    ∃ other, again.result = .ok other ∧
      task.Agree service.base (kept first) (kept after) (held again.state).store value other := by
  -- A directory that answers every call is one that may lose an answer and does not.
  have wider : plain.Obeys Journal.silence fun state => ⟨kept state, []⟩ :=
    answers.weaken fun _ _ _ _ => Journal.losing_of_answering []
  rcases task.converges repeatable orderly retries with ⟨stores, ends, ensured⟩ | fails
  · have ended : Attempt.Ending _ _ ((task.perform service).run.run plain first).result _ :=
      Program.Ensures.of_run wider ensured
    rw [succeeded] at ended
    have same : kept ((task.perform service).run.run plain first).state = stores value := ended
    rw [← begins] at ensured
    obtain ⟨other, result, store⟩ := ensured.succeeds obeys
    refine ⟨other, result, ?_⟩
    rw [same, store]
    exact ends.agree value other
  · obtain ⟨failure, failed, -⟩ := Attempt.Ensures.fails wider fails
    rw [succeeded] at failed
    cases failed

theorem orderly_empty (base : String) : Orderly base Catalogue.empty.store where
  users := fun stored => nomatch stored
  groups := fun isGroup => nomatch isGroup.stored

/-- A teacher joins the first group of a school while the answer to a write is lost. -/
theorem joins_without_answer :
    let service : Service :=
      ⟨⟨"", "cn=admin", none, "dc=schule", none, none, none, none, none, none⟩, .immediate 1⟩
    let joining : Task := .joinGroup "anna" "0705" "uid=anna,dc=schule"
    let plain := (joining.perform service).run.run Catalogue.world Catalogue.empty
    let again := (joining.perform service).run.run (Catalogue.forgetful Call.isWrite)
      (Catalogue.empty, [])
    (∃ request, request.isWrite = true ∧ again.state.2 = [⟨request, true⟩]) ∧
      ∃ value other, plain.result = .ok value ∧ again.result = .ok other ∧
        again.state.1.store = plain.state.store := by
  intro service joining plain again
  have answers := Catalogue.world_obeys False
  have obeys : (Catalogue.forgetful Call.isWrite).Obeys Journal.silence Catalogue.journal :=
    Catalogue.forgetful_obeys fun _ writes => ⟨rfl, rfl, writes⟩
  have nothing {name : String} {record : Record} : Catalogue.empty.store name ≠ some record := nofun
  have ensured : (joining.perform service).Ensures (Store.answering False)
      (JoinEnds service "0705" "uid=anna,dc=schule" Catalogue.empty.store) (fun _ _ => False)
      Catalogue.empty.store := by
    refine ensures_join_store.weaken (fun _ _ ended => ended) fun _ _ failed => ?_
    rcases failed.2.2 with impossible | blocked | blocked
    · exact impossible
    · exact blocked fun _ stored => (nothing stored).elim
    · exact blocked fun _ stored => (nothing stored).elim
  obtain ⟨value, succeeded, ended⟩ := ensured.succeeds answers
  obtain ⟨other, result, same⟩ : ∃ other, again.result = .ok other ∧
      joining.Agree service.base Catalogue.empty.store plain.state.store
        (Catalogue.journal again.state).store value other :=
    lost_answer_makes_no_difference trivial answers obeys rfl (orderly_empty service.base)
      (by decide) succeeded
  have changed : plain.state.store ≠ Catalogue.empty.store := by
    intro unchanged
    rw [unchanged] at ended
    cases value with
    | false =>
        obtain ⟨-, _, _, isGroup, -⟩ := ended
        exact nothing isGroup.stored
    | true =>
        have isMember := Joined.is_member ended (fun isGroup => (nothing isGroup.stored).elim)
          fun _ stored => (nothing stored).elim
        obtain ⟨_, _, isGroup⟩ := isMember.exist
        exact nothing isGroup.stored
  have losses : (again.state.2 = [] ∧ again.state.1.store = Catalogue.empty.store) ∨
      ∃ request, Call.isWrite request = true ∧ again.state.2 = [⟨request, true⟩] :=
    Catalogue.forgetful_writes
  refine ⟨losses.resolve_left fun unlost => changed ?_, value, other, succeeded, result, same⟩
  exact same.symm.trans unlost.2

end TeacherDirectory.Service
