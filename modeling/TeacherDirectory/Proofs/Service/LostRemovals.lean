import TeacherDirectory.Proofs.Service.GroupWrites
import TeacherDirectory.Proofs.Service.PersonCalls
import TeacherDirectory.Proofs.Service.Tasks

/-!
# Removals whose answer was lost

Deleting the teacher of a username and taking a person out of a group are tried again after a
failure, and every attempt looks at the directory anew. An attempt that was carried out and reported
as failed leaves nothing to remove, and that is what the next attempt reports. As long as no such
answer is lost, an operation that removed something never reports that it was missing.
-/

namespace TeacherDirectory.Service

set_option autoImplicit false

open Function (update)

def MissingMember (username schoolCode : String) (failure : ServiceError) : Prop :=
  failure = .groupNotFound (groupId schoolCode) ∨
    failure = .notInGroup username (groupId schoolCode)

namespace Task

def Missing : Task → ServiceError → Prop
  | deleteByReferrer _, failure => failure = .teacherNotFound
  | leaveGroup username schoolCode _, failure => MissingMember username schoolCode failure
  | _, _ => False

/-- The task is a removal. There is something to remove, the one entry of a username or a member of
the one group of a school, and this is the store without it. -/
def Removes (service : Service) (start target : Store) : Task → Prop
  | deleteByReferrer referrer => ∃ name record,
      Identified service.base referrer name record start ∧ target = update start name none
  | leaveGroup _ schoolCode person =>
      OneGroup service.base schoolCode start ∧ Left service schoolCode person start target
  | _ => False

end Task

section Attempts

variable {Result : Type} {once : Attempt Result} {missing : ServiceError → Prop}
  {start target : Store} {retries : Nat} {journal before after : Journal}

/-- The last loss is that of a write that was carried out, and attempts were left after it. -/
def WriteLostLast (retries : Nat) (losses : List Loss) : Prop :=
  ∃ earlier loss, losses = earlier ++ [loss] ∧ loss.wrote = true ∧ earlier.length < retries

structure FailsFirst (missing : ServiceError → Prop) (start target : Store) (before : Journal)
    (failure : ServiceError) (after : Journal) : Prop where
  present : ¬missing failure
  lost : ∃ loss, after.losses = before.losses ++ [loss] ∧
    ((loss.wrote = false ∧ after.store = start) ∨ (loss.wrote = true ∧ after.store = target))

/-- An attempt after the removal reports that nothing was there, or loses a call that writes
nothing. -/
structure FailsLater (missing : ServiceError → Prop) (before : Journal) (failure : ServiceError)
    (after : Journal) : Prop where
  store : after.store = before.store
  cause : (missing failure ∧ after.losses = before.losses) ∨
    ∃ loss, loss.wrote = false ∧ after.losses = before.losses ++ [loss]

structure Removing (once : Attempt Result) (missing : ServiceError → Prop) (start target : Store) :
    Prop where
  first : ∀ before : Journal, before.store = start →
    once.Ensures (Journal.losing Loss.anything) (fun _ after => after = ⟨target, before.losses⟩)
      (FailsFirst missing start target before) before
  later : ∀ before : Journal, before.store = target →
    once.Ensures (Journal.losing Loss.anything) (fun _ _ => False) (FailsLater missing before)
      before

/-- How a removal ends. -/
structure RemovalEnds (missing : ServiceError → Prop) (start target : Store) (retries : Nat)
    (result : Except ServiceError Result) (journal : Journal) : Prop where
  kept : (∀ loss ∈ journal.losses, loss.wrote = false) →
    ((∃ value, result = .ok value) ∧ journal.store = target) ∨
      ((∃ failure, result = .error failure ∧ ¬missing failure) ∧ journal.store = start ∧
        journal.losses.length = retries + 1)
  lost : (∃ loss ∈ journal.losses, loss.wrote = true) →
    (∃ failure, result = .error failure) ∧ journal.store = target
  missed : WriteLostLast retries journal.losses →
    ∃ failure, result = .error failure ∧ missing failure

theorem WriteLostLast.wrote {losses : List Loss} (last : WriteLostLast retries losses) :
    ∃ loss ∈ losses, loss.wrote = true := by
  rcases last with ⟨earlier, loss, rfl, wrote, -⟩
  exact ⟨loss, List.mem_append_right earlier List.mem_cons_self, wrote⟩

theorem not_wrote {losses : List Loss} (harmless : ∀ loss ∈ losses, loss.wrote = false)
    (wrote : ∃ loss ∈ losses, loss.wrote = true) {anything : Prop} : anything := by
  rcases wrote with ⟨loss, member, written⟩
  rw [harmless loss member] at written
  cases written

theorem removal_ends_harmless {result : Except ServiceError Result}
    (harmless : ∀ loss ∈ journal.losses, loss.wrote = false)
    (ended : ((∃ value, result = .ok value) ∧ journal.store = target) ∨
      ((∃ failure, result = .error failure ∧ ¬missing failure) ∧ journal.store = start ∧
        journal.losses.length = retries + 1)) :
    RemovalEnds missing start target retries result journal where
  kept _ := ended
  lost wrote := not_wrote harmless wrote
  missed last := not_wrote harmless last.wrote

theorem removal_ends_lost {failure : ServiceError} (removed : journal.store = target)
    (wrote : ∃ loss ∈ journal.losses, loss.wrote = true)
    (reported : WriteLostLast retries journal.losses → missing failure) :
    RemovalEnds missing start target retries (.error failure : Except ServiceError Result)
      journal where
  kept harmless := not_wrote harmless wrote
  lost _ := ⟨⟨failure, rfl⟩, removed⟩
  missed last := ⟨failure, rfl, reported last⟩

/-- Before each attempt, the removal is still to be made and every attempt so far has lost a call,
or it was made and its answer was lost. -/
def Pending (start target : Store) (retries left : Nat) (journal : Journal) : Prop :=
  (journal.store = start ∧ (∀ loss ∈ journal.losses, loss.wrote = false) ∧
      journal.losses.length + left = retries + 1) ∨
    (journal.store = target ∧ ∃ loss ∈ journal.losses, loss.wrote = true)

/-- Whatever calls get lost, the attempts together end in one of three ways: the removal was made
and reported, every attempt lost a call before it, or the answer to the removal was lost. -/
theorem ensures_removal {service : Service} {operation : String}
    (removing : Removing once missing start target) :
    (service.attempt operation once).Ensures (Journal.losing Loss.anything)
      (fun value => RemovalEnds missing start target service.policy.maxRetries.toNat
        (.ok value : Except ServiceError Result))
      (fun failure => RemovalEnds missing start target service.policy.maxRetries.toNat
        (.error failure : Except ServiceError Result)) ⟨start, []⟩ := by
  refine RetryPolicy.ensures_retry_counted
    (Pending start target service.policy.maxRetries.toNat)
    (.inl ⟨rfl, List.forall_mem_nil _, Nat.zero_add _⟩) fun _ left before pending => ?_
  rcases pending with ⟨atStart, harmless, counted⟩ | ⟨atTarget, wrote⟩
  case inl =>
    refine (removing.first before atStart).weaken ?_ fun failure after failed => ?_
    · rintro value _ rfl
      exact removal_ends_harmless harmless (.inl ⟨⟨value, rfl⟩, rfl⟩)
    obtain ⟨loss, longer, ⟨unwritten, same⟩ | ⟨written, removed⟩⟩ := failed.lost
    · have stillHarmless : ∀ loss ∈ after.losses, loss.wrote = false := longer ▸
        List.forall_mem_append.mpr ⟨harmless, List.forall_mem_singleton.mpr unwritten⟩
      have length : after.losses.length = before.losses.length + 1 := by simp [longer]
      exact ⟨.inl ⟨same, stillHarmless, by omega⟩, fun none =>
        removal_ends_harmless stillHarmless
          (.inr ⟨⟨failure, rfl, failed.present⟩, same, by omega⟩)⟩
    · have lost : ∃ loss ∈ after.losses, loss.wrote = true :=
        ⟨loss, longer ▸ List.mem_append_right _ List.mem_cons_self, written⟩
      refine ⟨.inr ⟨removed, lost⟩, fun none => removal_ends_lost removed lost fun last => ?_⟩
      -- No attempt is left after this one.
      rcases last with ⟨earlier, _, same, -, early⟩
      have lengths := congrArg List.length (longer.symm.trans same)
      simp only [List.length_append, List.length_singleton] at lengths
      omega
  case inr =>
    refine (removing.later before atTarget).weaken (fun _ _ impossible => impossible.elim) ?_
    intro failure after failed
    have removed : after.store = target := failed.store.trans atTarget
    rcases failed.cause with ⟨told, same⟩ | ⟨loss, unwritten, longer⟩
    · have lost : ∃ loss ∈ after.losses, loss.wrote = true := same ▸ wrote
      exact ⟨.inr ⟨removed, lost⟩, fun _ => removal_ends_lost removed lost fun _ => told⟩
    · have lost : ∃ loss ∈ after.losses, loss.wrote = true := by
        rcases wrote with ⟨earlier, member, written⟩
        exact ⟨earlier, longer ▸ List.mem_append_left _ member, written⟩
      refine ⟨.inr ⟨removed, lost⟩, fun _ => removal_ends_lost removed lost fun last => ?_⟩
      -- The loss that came last wrote nothing.
      rcases last with ⟨_, other, same, written, -⟩
      obtain ⟨-, alike⟩ := List.append_inj' (longer.symm.trans same) rfl
      rw [← List.singleton_inj.mp alike, unwritten] at written
      cases written

section Calls

variable {request : Call} {failure : ServiceError}

theorem stumbles_harmless {may : List Loss → Loss → Prop} (stumbles : before.Stumbles may after) :
    ∃ loss, loss.wrote = false ∧ after.losses = before.losses ++ [loss] := by
  rcases stumbles with ⟨request, read, loses⟩
  obtain ⟨applied, -, recorded⟩ := loses.recorded
  exact ⟨_, by simp [Loss.wrote, read], recorded⟩

theorem fails_first_stumbling (present : ¬missing failure)
    (stumbles : before.Stumbles Loss.anything after) :
    FailsFirst missing before.store target before failure after := by
  obtain ⟨loss, unwritten, longer⟩ := stumbles_harmless stumbles
  exact ⟨present, loss, longer, .inl ⟨unwritten, stumbles.same_store⟩⟩

theorem fails_first_losing (present : ¬missing failure) (writes : request.isWrite = true)
    (written : before.store.write request = some target)
    (loses : before.Loses Loss.anything request after) :
    FailsFirst missing before.store target before failure after := by
  cases loses with
  | undone permitted => exact ⟨present, _, rfl, .inl ⟨rfl, rfl⟩⟩
  | applied permitted carriedOut =>
      rw [written] at carriedOut
      cases carriedOut
      exact ⟨present, _, rfl, .inr ⟨(Bool.true_and _).trans writes, rfl⟩⟩

theorem fails_later_stumbling (stumbles : before.Stumbles Loss.anything after) :
    FailsLater missing before failure after :=
  ⟨stumbles.same_store, .inr (stumbles_harmless stumbles)⟩

theorem outage_not_missing_teacher (outage : IsOutage failure) : failure ≠ .teacherNotFound := by
  rintro rfl
  exact outage

end Calls

/-- The search of a first attempt finds the entry; that of a later one finds none. -/
theorem removing_teacher {service : Service} {username name : String} {record : Record}
    (identified : Identified service.base username name record start) :
    Removing (service.deleteByReferrerOnce username) (· = .teacherNotFound) start
      (update start name none) where
  first before same := by
    subst same
    have written := Store.write_delete identified.stored
    unfold deleteByReferrerOnce requirePerson
    simp only [Attempt.ensures_bind]
    refine ensures_answered (fun failure after outage =>
      fails_first_stumbling (outage_not_missing_teacher outage)) fun entries finds => ?_
    obtain ⟨entry, rfl, rfl, -⟩ := identified.find finds
    rw [Attempt.ensures_pure, Journal.ensures_admitted written]
    simp only [Attempt.ensures_lift, Attempt.ensures_pure, Program.ensures_log, undeleted,
      Program.ensures_bind, Program.ensures_pure]
    exact ⟨fun _ _ => trivial, fun failure after =>
      fails_first_losing (fun same => by cases same) rfl written⟩
  later before same := by
    have gone : Unidentified service.base username before.store := same ▸ identified.deleted
    exact ensures_unidentified gone (fun _ _ => fails_later_stumbling)
      ⟨rfl, .inl ⟨rfl, rfl⟩⟩

theorem ensures_group_answered {service : Service} {schoolCode : String}
    {refused : DirectoryError → Program ServiceError} {good : Option Entry → Journal → Prop}
    {bad : ServiceError → Journal → Prop}
    (onOutage : ∀ failure after, IsOutage failure → before.Stumbles Loss.anything after →
      bad failure after)
    (onLoss : ∀ failure after, before.Stumbles Loss.anything after →
      (refused failure).Ensures (Journal.losing Loss.anything) bad after)
    (present : ∀ entry record, IsGroup service.base before.store schoolCode entry.name record →
      entry.values "member" = record "member" → good (some entry) before)
    (absent : (∀ name record, ¬IsGroup service.base before.store schoolCode name record) →
      good none before) :
    service.bind.Ensures (Journal.losing Loss.anything)
      (fun _ between => (service.findGroup (groupId schoolCode) refused).Ensures
        (Journal.losing Loss.anything) good bad between) bad before := by
  refine ensures_opened_losing.weaken ?_ fun failure after failed =>
    onOutage failure after failed.1 failed.2
  intro _ between same
  subst same
  unfold findGroup
  rw [Attempt.ensures_bind]
  refine Journal.ensures_search (fun groups finds => Attempt.ensures_pure.mpr ?_) onLoss
  exact group_found finds (good · between) present absent

section Members

variable {service : Service} {username schoolCode person : String}

theorem outage_not_missing_member {failure : ServiceError} (outage : IsOutage failure) :
    ¬MissingMember username schoolCode failure := by
  rintro (rfl | rfl) <;> exact outage

theorem Left.group_exists (gone : Left service schoolCode person start target) :
    ¬∀ name record, ¬IsGroup service.base start schoolCode name record := by
  intro none
  cases gone with
  | member isGroup => exact none _ _ isGroup
  | group isGroup => exact none _ _ isGroup

theorem Left.unlisted (one : OneGroup service.base schoolCode start)
    (gone : Left service schoolCode person start target) {name : String} {record : Record}
    (isGroup : IsGroup service.base target schoolCode name record) : person ∉ record "member" := by
  cases gone with
  | member earlier listed others =>
      rcases is_group_set.mp isGroup with ⟨-, same, -⟩ | ⟨different, other⟩
      · cases same
        simp
      · exact (different (one other earlier)).elim
  | group earlier sole =>
      rcases is_group_set.mp isGroup with ⟨-, impossible, -⟩ | ⟨different, other⟩
      · cases impossible
      · exact (different (one other earlier)).elim

theorem removing_member (one : OneGroup service.base schoolCode start)
    (gone : Left service schoolCode person start target) :
    Removing (service.leaveGroupOnce username schoolCode person)
      (MissingMember username schoolCode) start target where
  first before same := by
    subst same
    have refusing (failure : DirectoryError) :
        ¬MissingMember username schoolCode (.leaveGroup (groupId schoolCode) failure.message) := by
      rintro (impossible | impossible) <;> cases impossible
    unfold leaveGroupOnce
    simp only [Attempt.ensures_bind]
    refine ensures_group_answered
      (fun _ _ outage => fails_first_stumbling (outage_not_missing_member outage))
      (fun failure _ stumbles =>
        Program.ensures_logged.mpr (fails_first_stumbling (refusing failure) stumbles))
      (fun entry content isGroup read => ?_) fun none => (gone.group_exists none).elim
    cases gone with
    | @member group record earlier listed others =>
        obtain rfl := one isGroup earlier
        obtain rfl := Option.some.inj (isGroup.stored.symm.trans earlier.stored)
        have written := Store.write_modify isGroup.stored (delete_member listed)
        dsimp only
        rw [read, if_neg (by simpa using listed), if_neg others, Attempt.ensures_bind,
          Journal.ensures_admitted written]
        simp only [Attempt.ensures_bind, Attempt.ensures_lift, Attempt.ensures_pure,
          Program.ensures_bind, Program.ensures_log, Program.ensures_pure]
        exact ⟨fun _ _ => trivial, fun failure after =>
          fails_first_losing (refusing failure) rfl written⟩
    | @group group record earlier sole =>
        obtain rfl := one isGroup earlier
        obtain rfl := Option.some.inj (isGroup.stored.symm.trans earlier.stored)
        have written := Store.write_delete isGroup.stored
        dsimp only
        rw [read, sole, if_neg (by simp), if_pos List.length_singleton, Attempt.ensures_bind,
          Journal.ensures_admitted written]
        simp only [Attempt.ensures_bind, Attempt.ensures_lift, Attempt.ensures_pure,
          Program.ensures_bind, Program.ensures_log, Program.ensures_pure]
        exact ⟨fun _ _ => trivial, fun failure after =>
          fails_first_losing (refusing failure) rfl written⟩
  later before same := by
    unfold leaveGroupOnce
    simp only [Attempt.ensures_bind]
    refine ensures_group_answered (fun _ _ _ => fails_later_stumbling)
      (fun _ _ stumbles => Program.ensures_logged.mpr (fails_later_stumbling stumbles)) ?_ ?_
    · intro entry record isGroup read
      have unlisted := gone.unlisted one (same ▸ isGroup)
      dsimp only
      rw [read, if_pos (by simpa using unlisted)]
      exact Attempt.ensures_refuse.mpr ⟨rfl, .inl ⟨.inr rfl, rfl⟩⟩
    · intro _
      exact Attempt.ensures_refuse.mpr ⟨rfl, .inl ⟨.inl rfl, rfl⟩⟩

end Members

end Attempts

section Runs

variable {State : Type} {world : World State} {held : State → Journal} {target : Store} {task : Task}

theorem ensures_removed {service : Service} {start : Store}
    (removes : task.Removes service start target) :
    (task.perform service).Ensures (Journal.losing Loss.anything)
      (fun value => RemovalEnds task.Missing start target service.policy.maxRetries.toNat
        (.ok value : Except ServiceError task.Value))
      (fun failure => RemovalEnds task.Missing start target service.policy.maxRetries.toNat
        (.error failure : Except ServiceError task.Value)) ⟨start, []⟩ := by
  cases task with
  | deleteByReferrer referrer =>
      rcases removes with ⟨name, record, identified, rfl⟩
      exact ensures_removal (removing_teacher identified)
  | leaveGroup username schoolCode person =>
      exact ensures_removal (removing_member removes.1 removes.2)
  | _ => exact removes.elim

/-- A removal in a directory where any call may get lost. Without the loss of a write that was
carried out, it is made and reported, or every attempt lost a call and nothing was removed; it is
never reported as missing. With such a loss it was made and is reported as failed, and as missing if
attempts were left and lost nothing. -/
theorem removal_missed_only_if_lost (service : Service) (state : State)
    (obeys : world.Obeys (Journal.losing Loss.anything) held)
    (begins : (held state).losses = []) (removes : task.Removes service (held state).store target) :
    let run := (task.perform service).run.run world state
    RemovalEnds task.Missing (held state).store target service.policy.maxRetries.toNat run.result
      (held run.state) := by
  intro run
  have start : held state = ⟨(held state).store, []⟩ := by rw [← begins]
  have ensured := ensures_removed removes
  rw [← start] at ensured
  have ended := Program.Ensures.of_run obeys ensured
  revert ended
  change Attempt.Ending _ _ run.result _ → _
  cases run.result with
  | ok value => exact id
  | error failure => exact id

/-- The answer to the deletion is lost: the teacher is gone and is reported as not found. -/
theorem lost_deletion_reported_missing :
    let service : Service :=
      ⟨⟨"", "cn=admin", none, "dc=schule", none, none, none, none, none, none⟩, .immediate 1⟩
    let name := "uid=anna,ou=oeffentlicheSchulen,dc=schule"
    let attributes : Attributes := [("objectclass", ["inetOrgPerson"]), ("uid", ["anna"])]
    let record := Record.ofAttributes attributes
    let start := Catalogue.empty.put name (Record.keyed_by_attributes attributes)
    let run := (service.deleteByReferrer "anna").run.run (Catalogue.forgetful Call.isWrite)
      (start, [])
    Identified service.base "anna" name record start.store ∧
      run.result = .error .teacherNotFound ∧ run.state.1.store = update start.store name none := by
  intro service name attributes record start run
  have usernames : record "uid" = ["anna"] := by decide +kernel
  have inRealm : name = service.teacherName "anna" .publicSchools := by decide +kernel
  have identified : Identified service.base "anna" name record start.store :=
    Unidentified.identified (fun _ _ stored => nomatch stored) (inRealm ▸ teacher_name_within)
      (usernames ▸ List.mem_singleton.mpr rfl)
  have obeys : (Catalogue.forgetful Call.isWrite).Obeys (Journal.losing Loss.anything)
      Catalogue.journal := Catalogue.forgetful_obeys fun _ _ => trivial
  let deletion : Task := .deleteByReferrer "anna"
  have removes : deletion.Removes service start.store (update start.store name none) :=
    ⟨name, record, identified, rfl⟩
  have ended : RemovalEnds (· = .teacherNotFound) start.store (update start.store name none) 1
      run.result (Catalogue.journal run.state) :=
    removal_missed_only_if_lost service (start, []) obeys rfl removes
  refine ⟨identified, ?_⟩
  have losses : (run.state.2 = [] ∧ run.state.1.store = start.store) ∨
      ∃ request, Call.isWrite request = true ∧ run.state.2 = [⟨request, true⟩] :=
    Catalogue.forgetful_writes
  rcases losses with ⟨none, same⟩ | ⟨request, writes, alone⟩
  · -- Without a loss the entry was deleted, and the store is another one.
    have harmless : ∀ loss ∈ run.state.2, loss.wrote = false := none ▸ List.forall_mem_nil _
    rcases ended.kept harmless with ⟨-, removed⟩ | ⟨-, -, counted⟩
    · have there := congrArg (fun store => store name) (same.symm.trans removed)
      simp only [identified.stored, Function.update_self, reduceCtorEq] at there
    · rw [show (Catalogue.journal run.state).losses = [] from none] at counted
      cases counted
  · have written : (Loss.mk request true).wrote = true := (Bool.true_and _).trans writes
    have last : WriteLostLast 1 run.state.2 := ⟨[], _, alone, written, Nat.one_pos⟩
    obtain ⟨failure, failed, missing⟩ := ended.missed last
    obtain ⟨-, removed⟩ := ended.lost last.wrote
    exact ⟨missing ▸ failed, removed⟩

end Runs

end TeacherDirectory.Service
