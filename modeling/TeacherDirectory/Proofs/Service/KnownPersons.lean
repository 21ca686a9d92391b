import TeacherDirectory.Proofs.Directory.Calls
import TeacherDirectory.Proofs.Service.Grounds
import TeacherDirectory.Proofs.Service.Usernames

/-!
# Operations on a person with one entry

A directory that carries out what it can needs no second attempt from an operation. Where a person has
one entry below the unit of a realm, the operations on teachers agree about it, from every domain of
the realm: the teacher exists, is not created again, and deleting the teacher deletes the entry.
-/

namespace TeacherDirectory.Service

set_option autoImplicit false

open Function (update)

variable {service : Service} {realm : Realm} {person : Person} {Result : Type}
  {personId referrer username domain schoolCode base name : String} {record : Record}
  {store target : Store}

def writesAmong (calls : List Exchange) : List Exchange :=
  calls.filter fun exchange => exchange.request.isWrite

/-- Where every call is carried out that can be, the operation succeeds with such a value, makes these
writes and leads to this store. -/
def Achieves (attempt : Attempt Result) (good : Result → Prop) (writes : List Exchange)
    (store target : Store) : Prop :=
  attempt.Ensures (Store.answering False).noting
    (fun value after => good value ∧ writesAmong after.2 = writes ∧ after.1 = target)
    (fun _ _ => False) (store, [])

structure Succeeded {State : Type} (held : State → Store)
    (run : Run State (Except ServiceError Result)) (good : Result → Prop) (writes : List Exchange)
    (target : Store) : Prop where
  given : ∃ value, run.result = .ok value ∧ good value
  written : writesAmong (exchanges run.steps) = writes
  stored : held run.state = target

theorem Achieves.run {State : Type} {world : World State} {held : State → Store} {state : State}
    {attempt : Attempt Result} {good : Result → Prop} {writes : List Exchange}
    (achieves : Achieves attempt good writes (held state) target)
    (obeys : world.Obeys (Store.answering False) held) :
    Succeeded held (attempt.run.run world state) good writes target := by
  have ended := Program.Ensures.of_noted_run obeys achieves
  cases same : (attempt.run.run world state).result with
  | error failure =>
      rw [same] at ended
      exact ended.elim
  | ok value =>
      rw [same] at ended
      rcases ended with ⟨given, written, stored⟩
      exact ⟨⟨value, same, given⟩, written, stored⟩

section Calls

variable {history : List Exchange} {good : Result → Store × List Exchange → Prop}
  {bad : ServiceError → Store × List Exchange → Prop}

theorem ensures_opened_noted {good : Unit → Store × List Exchange → Prop}
    (opened : good () (store, history ++ service.opening)) :
    service.bind.Ensures (Store.answering False).noting good bad (store, history) := by
  have binds : store.write (.bind service.settings.bindName service.settings.bindPassword) =
      some store := rfl
  unfold Service.bind
  refine Attempt.ensures_bind.mpr ((Store.ensures_carried_out_noted rfl).mpr ⟨?_, False.elim⟩)
  intro _ _
  refine Attempt.ensures_bind.mpr ((Store.ensures_carried_out_noted binds).mpr ⟨?_, False.elim⟩)
  intro _ _
  simp only [Attempt.ensures_lift, Program.ensures_log, List.append_assoc]
  exact opened

/-- An operation that looks for the entries of a username goes on with what its first attempt finds. -/
theorem ensures_finding {operation : String} {names : List String}
    {next : List Entry → Attempt Result}
    (rest : ∀ entries, store.Finds base .subtree (.byUsername username) names entries →
      (next entries).Ensures (Store.answering False).noting good (fun _ _ => False)
        (store, service.opening ++
          [⟨.search base .subtree (.byUsername username) names, .ok entries⟩])) :
    (service.attempt operation (service.bind >>= fun _ =>
        findUsers base username names >>= next)).Ensures (Store.answering False).noting good
      (fun _ _ => False) (store, []) := by
  apply RetryPolicy.ensures_retry_certain
  intro _
  refine Attempt.ensures_bind.mpr (ensures_opened_noted ?_)
  exact Attempt.ensures_bind.mpr ((Store.ensures_carried_out_noted rfl).mpr ⟨rest, False.elim⟩)

end Calls

section Operations

variable {entryUuid : Option String}

theorem achieves_exists (placed : Identified (service.realmName realm) referrer name record store)
    (known : service.settings.realm? domain = some realm) :
    Achieves (service.teacherExists referrer domain) (· = true) [] store store := by
  apply ensures_accepted known
  apply ensures_finding
  intro entries finds
  obtain ⟨entry, rfl, -⟩ := placed.find finds
  exact Attempt.ensures_pure.mpr ⟨rfl, rfl, rfl⟩

theorem achieves_kept (placed : Identified (service.realmName realm) referrer name record store)
    (known : service.settings.realm? domain = some realm)
    (named : person.referrer = some referrer) :
    Achieves (service.createTeacher person domain schoolCode entryUuid) (· = person) []
      store store := by
  apply ensures_accepted known
  apply ensures_named named
  have found : Achieves (service.attempt "create_lehrer" (service.createTeacherOnce person referrer
      (service.realmName realm) (service.teacherName referrer realm)
      (entryUuid.getD person.id))) (· = none) [] store store := by
    apply ensures_finding
    intro entries finds
    obtain ⟨entry, rfl, -⟩ := placed.find finds
    simp only [List.isEmpty_cons, Bool.not_false, if_true, Attempt.ensures_bind,
      Attempt.ensures_lift, Attempt.ensures_pure, Program.ensures_log]
    exact ⟨trivial, rfl, trivial⟩
  apply Attempt.Ensures.bind found
  rintro _ after ⟨rfl, quiet⟩
  exact Attempt.ensures_pure.mpr ⟨rfl, quiet⟩

theorem achieves_deleted (placed : Identified (service.realmName realm) referrer name record store)
    (known : service.settings.realm? domain = some realm)
    (named : person.referrer = some referrer) :
    Achieves (service.deleteTeacher person schoolCode domain) (· = person)
      [⟨.delete name, .ok ()⟩] store (update store name none) := by
  apply ensures_accepted known
  apply ensures_named named
  apply ensures_finding
  intro entries finds
  obtain ⟨entry, rfl, rfl, -⟩ := placed.find finds
  have written := Store.write_delete placed.stored
  refine Attempt.ensures_bind.mpr ((Store.ensures_carried_out_noted written).mpr ⟨?_, False.elim⟩)
  intro _ _
  simp only [Attempt.ensures_bind, Attempt.ensures_lift, Attempt.ensures_pure, Program.ensures_log]
  exact ⟨trivial, rfl, trivial⟩

end Operations

end TeacherDirectory.Service
