import TeacherDirectory.Proofs.Service.GroupUpdates
import TeacherDirectory.Proofs.Service.Renaming

/-!
# Renaming while one answer gets lost

A new username renames the entry first and then the person in the groups. Where a single call gets
lost, the second attempt makes it good: the groups list the new name, but for one whose own change was
lost. This fails for the answer to the rename itself. Then the second attempt looks for the old
username, which nobody has any more, and the groups are left with a name without an entry.
-/

namespace TeacherDirectory

set_option autoImplicit false

open DistinguishedName
open Function (update)

def Store.moved (store : Store) (name leaf : String) (record : Record) : Store :=
  update (update store name none) (movedName name leaf) (some (record.renamed
    (readComponent? ((split? name).map Prod.fst |>.getD name)) (readComponent? leaf)))

namespace Service

variable {service : Service} {may : List Loss → Loss → Prop} {name username new : String}
  {givenName surname : Option String} {record content : Record} {start : Store}
  {before after : Journal}

def LostOne (may : List Loss → Loss → Prop) (kind : Loss → Prop) (before after : Journal) : Prop :=
  ∃ loss, may before.losses loss ∧ kind loss ∧ after.losses = before.losses ++ [loss]

theorem not_lost_again {kind : Loss → Prop} (lost : before.losses ≠ []) :
    ¬LostOne Loss.once kind before after := by
  rintro ⟨_, none, -⟩
  exact lost none

section Naming

def namedRecord (givenName surname : Option String) (new : String) (record : Record) : Record :=
  record.replaced (nameChanges givenName surname (some new))

def renamedStore (name new : String) (givenName surname : Option String) (record : Record)
    (start : Store) : Store :=
  start.moved name (userComponent new) (namedRecord givenName surname new record)

theorem moved_name_user : Store.movedName name (userComponent new) = renameUser name new := rfl

/-- No other entry has the name that an entry would get with a username. -/
def RenameFree (name new : String) (store : Store) : Prop :=
  (update store name none) (renameUser name new) = none

theorem rename_free_iff : RenameFree name new start ↔
    renameUser name new ≠ name → start (renameUser name new) = none := by
  unfold RenameFree
  by_cases same : renameUser name new = name
  · simp [same]
  · rw [Function.update_of_ne same]
    exact ⟨fun free _ => free, fun free => free same⟩

theorem write_rename_free {changed : Record} (free : RenameFree name new start) :
    Store.write (update start name (some changed)) (.rename name (userComponent new)) =
      some (start.moved name (userComponent new) changed) := by
  have freeThen : (update (update start name (some changed)) name none)
      (Store.movedName name (userComponent new)) = none := by
    rw [Function.update_idem]
    exact free
  rw [Store.write_rename (Function.update_self _ _ _) freeThen, Function.update_idem]
  rfl

theorem write_rename_taken {changed : Record} (taken : ¬RenameFree name new start) :
    Store.write (update start name (some changed)) (.rename name (userComponent new)) = none := by
  obtain ⟨other, stored⟩ := Option.ne_none_iff_exists'.mp taken
  have storedThen : (update (update start name (some changed)) name none)
      (Store.movedName name (userComponent new)) = some other := by
    rw [Function.update_idem]
    exact stored
  simp [Store.write, storedThen]

theorem write_user_rename {changed : Record} (free : start (renameUser name new) = none) :
    Store.write (update start name (some changed)) (.rename name (userComponent new)) =
      some (start.moved name (userComponent new) changed) :=
  write_rename_free (rename_free_iff.mpr fun _ => free)

/-- One attempt renames the entry as its last call. If it fails, the names are changed or not, and
the entry is renamed only if the answer to the rename was lost. -/
theorem ensures_rename_once (identified : Identified service.base username name record start)
    (free : start (renameUser name new) = none)
    (replacing : Replacing name record (nameChanges givenName surname (some new)) start
      before.store) :
    (service.modifyAttributesOnce username givenName surname (some new)).Ensures
      (Journal.losing may)
      (fun renamed after => renamed = some name ∧ after.losses = before.losses ∧
        after.store = renamedStore name new givenName surname record start)
      (fun _ after =>
        (LostOne may (Loss.occupied (renameUser name new) · = false) before after ∧
          Replacing name record (nameChanges givenName surname (some new)) start after.store) ∨
        (LostOne may (Loss.occupied (renameUser name new) · = true) before after ∧
          after.store = renamedStore name new givenName surname record start)) before := by
  obtain ⟨current, here⟩ := replacing.identified identified names_replaced_usernames
  have written := replacing.write identified.stored
    fun change member => (name_changes_replace change member).1
  have some : (nameChanges givenName surname (some new)).isEmpty = false := rfl
  unfold modifyAttributesOnce
  refine ensures_identified here (fun _ after stumbles => .inl ⟨?_, ?_⟩) fun entry entryNamed _ => ?_
  · obtain ⟨request, read, loses⟩ := stumbles
    obtain ⟨applied, permitted, recorded⟩ := loses.recorded
    exact ⟨_, permitted, Loss.read_not_occupied read applied, recorded⟩
  · exact stumbles.same_store ▸ replacing
  dsimp only
  rw [some, if_neg Bool.false_ne_true, entryNamed, Attempt.ensures_bind,
    Journal.ensures_admitted written]
  refine ⟨fun _ _ => ?_, fun _ after loses => ?_⟩
  · rw [Attempt.ensures_bind, Attempt.ensures_lift, Program.ensures_log, Attempt.ensures_bind,
      Journal.ensures_admitted (write_user_rename free)]
    refine ⟨fun _ _ => ?_, fun _ after loses => ?_⟩
    · simp only [Attempt.ensures_bind, Attempt.ensures_lift, Attempt.ensures_pure,
        Program.ensures_log]
      exact ⟨trivial, trivial, rfl⟩
    · refine Program.ensures_pure.mpr ?_
      cases loses with
      | undone permitted => exact .inl ⟨⟨_, permitted, rfl, rfl⟩, .inr rfl⟩
      | applied permitted written =>
          obtain rfl := Option.some.inj ((write_user_rename free).symm.trans written)
          exact .inr ⟨⟨_, permitted, beq_iff_eq.mpr moved_name_user, rfl⟩, rfl⟩
  · refine Program.ensures_pure.mpr (.inl ?_)
    cases loses with
    | undone permitted => exact ⟨⟨_, permitted, rfl, rfl⟩, replacing⟩
    | applied permitted done =>
        exact ⟨⟨_, permitted, rfl, rfl⟩, .inr (Option.some.inj (written.symm.trans done)).symm⟩

structure NamedAfter (username name : String) (record : Record) : Prop where
  usernames : record "uid" = [username]
  leaf : ∃ parent, name = below (userComponent username) parent

/-- After such an entry was renamed nobody has the old username. -/
theorem NamedAfter.unidentified {base : String} (own : NamedAfter username name record)
    (identified : Identified base username name record start)
    (free : start (renameUser name new) = none) :
    Unidentified base username (renamedStore name new givenName surname record start) := by
  obtain ⟨parent, rfl⟩ := own.leaf
  have different : username ≠ new := by
    rintro rfl
    rw [rename_user_below, identified.stored] at free
    cases free
  have folded : Entry.key "uid" = "uid" := by decide +kernel
  intro other content stored inside
  unfold renamedStore Store.moved at stored
  by_cases moved : other = Store.movedName (below (userComponent username) parent) (userComponent new)
  · rw [moved, Function.update_self] at stored
    obtain rfl := Option.some.inj stored
    unfold userComponent
    rw [split_below is_type_uid, Option.map_some, Option.getD_some, read_component is_type_uid,
      read_component is_type_uid, Record.renamed_single, folded, Function.update_self]
    · exact fun member => different (List.mem_singleton.mp member)
    · rw [folded, namedRecord, names_replaced_usernames, own.usernames]
  · rw [Function.update_of_ne moved] at stored
    by_cases same : other = below (userComponent username) parent
    · rw [same, Function.update_self] at stored
      cases stored
    · rw [Function.update_of_ne same] at stored
      exact fun member => same (identified.only other content stored inside member)

/-- How the first stage can end where one call may be lost: with the rename, or after the answer to
the rename was lost. -/
def NamingEnds (username name new : String) (givenName surname : Option String) (record : Record)
    (start : Store) (renamed : Option String) (after : Journal) : Prop :=
  (after.losses.any (Loss.occupied (renameUser name new)) = false ∧ renamed = some name ∧
      after.store = renamedStore name new givenName surname record start) ∨
    (after.losses.any (Loss.occupied (renameUser name new)) = true ∧
      ¬NamedAfter username name record)

def NamingLost (username name new : String) (givenName surname : Option String) (record : Record)
    (start : Store) (after : Journal) : Prop :=
  after.losses.any (Loss.occupied (renameUser name new)) = true ∧
    (NamedAfter username name record →
      after.store = renamedStore name new givenName surname record start)

theorem ensures_naming_losing (identified : Identified service.base username name record start)
    (free : start (renameUser name new) = none) (retries : 1 ≤ service.policy.maxRetries.toNat) :
    (service.naming username givenName surname (some new)).Ensures (Journal.losing Loss.once)
      (NamingEnds username name new givenName surname record start)
      (fun failure after => NamingLost username name new givenName surname record start after ∧
        (NamedAfter username name record → failure = .teacherNotFound)) ⟨start, []⟩ := by
  let pending (after : Journal) : Prop :=
    (after.losses ≠ [] ∧ after.losses.any (Loss.occupied (renameUser name new)) = false) ∧
      Replacing name record (nameChanges givenName surname (some new)) start after.store
  refine RetryPolicy.ensures_second_chance pending
    (NamingLost username name new givenName surname record start) retries ?first ?second ?further
  case first =>
    intro _
    refine (ensures_rename_once identified free (.inl rfl)).weaken ?_ ?_
    · rintro renamed after ⟨rfl, none, stored⟩
      exact .inl ⟨none ▸ rfl, rfl, stored⟩
    · rintro _ after (⟨⟨loss, -, plain, recorded⟩, replacing⟩ | ⟨⟨loss, -, lost, recorded⟩, stored⟩)
      · exact .inl ⟨by simpa [recorded] using plain, replacing⟩
      · exact .inr ⟨by simpa [recorded] using lost, fun _ => stored⟩
  case second =>
    rintro _ state ⟨⟨spent, plain⟩, replacing⟩
    refine (ensures_rename_once identified free replacing).weaken ?_ ?_
    · rintro renamed after ⟨rfl, same, stored⟩
      exact .inl ⟨same ▸ plain, rfl, stored⟩
    · rintro _ after (⟨lost, -⟩ | ⟨lost, -⟩)
      · exact not_lost_again spent lost
      · exact not_lost_again spent lost
  case further =>
    rintro _ state ⟨lost, stored⟩
    have spent : state.losses ≠ [] := by
      intro none
      rw [none] at lost
      cases lost
    by_cases own : NamedAfter username name record
    · have nobody : Unidentified service.base username
          (renamedStore name new givenName surname record start) := own.unidentified identified free
      rw [← stored own] at nobody
      exact ensures_unidentified nobody
        (fun _ _ stumbles => (Journal.not_stumbles_again spent stumbles).elim)
        ⟨⟨lost, stored⟩, ⟨lost, stored⟩, fun _ => rfl⟩
    · refine Program.Ensures.weaken (Program.ensures_kept Journal.losing_keeps_occupied lost) ?_
      rintro (_ | _) after still
      · have elsewhere : NamingLost username name new givenName surname record start after :=
          ⟨still, fun impossible => (own impossible).elim⟩
        exact ⟨elsewhere, elsewhere, fun impossible => (own impossible).elim⟩
      · exact .inr ⟨still, own⟩

end Naming

section Following

theorem GroupsFollow.since {base oldName newName : String} {between : Journal}
    (follow : GroupsFollow base oldName newName between after) (same : between.store = before.store)
    (unoccupied : ∀ name,
      between.losses.any (Loss.occupied name) = before.losses.any (Loss.occupied name)) :
    GroupsFollow base oldName newName before after where
  followed := same ▸ follow.followed
  same := same ▸ follow.same
  unoccupied := fun name => (follow.unoccupied name).trans (unoccupied name)

theorem ensures_following_losing (retries : 1 ≤ service.policy.maxRetries.toNat) :
    (service.following username new name).Ensures (Journal.losing Loss.once)
      (fun _ => GroupsFollow service.base name (renameUser name new) before) (fun _ _ => False)
      before := by
  let pending (after : Journal) : Prop :=
    after.losses ≠ [] ∧ after.store = before.store ∧ ∀ name,
      after.losses.any (Loss.occupied name) = before.losses.any (Loss.occupied name)
  refine RetryPolicy.ensures_second_chance pending (fun _ => False) retries ?first ?second nofun
  case first =>
    intro _
    refine ensures_groups_once.weaken (fun _ _ follow => follow) fun _ after stumbles => .inl ?_
    obtain ⟨request, read, loses⟩ := stumbles
    obtain ⟨applied, -, recorded⟩ := loses.recorded
    refine ⟨by simp [recorded], Journal.Stumbles.same_store ⟨request, read, loses⟩, fun name => ?_⟩
    rw [recorded, List.any_append, List.any_cons, Loss.read_not_occupied read, List.any_nil,
      Bool.or_false, Bool.or_false]
  case second =>
    rintro _ state ⟨spent, same, unoccupied⟩
    exact ensures_groups_once.weaken (fun _ _ follow => follow.since same unoccupied)
      fun _ _ stumbles => Journal.not_stumbles_again spent stumbles

theorem ensures_follow_losing (retries : 1 ≤ service.policy.maxRetries.toNat) :
    (service.followRename username new name).Ensures (Journal.losing Loss.once)
      (fun _ => GroupsFollow service.base name (renameUser name new) before) (fun _ _ => False)
      before := by
  unfold followRename
  rw [Attempt.ensures_mk, Program.ensures_bind]
  refine Program.Ensures.weaken (ensures_following_losing retries) ?_
  rintro (_ | _) after ended
  · exact ended.elim
  · exact Program.ensures_pure.mpr ended

end Following

section Runs

structure RenameFollowed (base name new : String) (start : Store) (after : Journal) : Prop where
  answered : after.losses.any (Loss.occupied (renameUser name new)) = false
  gone : after.store name = none
  present : after.store (renameUser name new) ≠ none
  groups : ∀ group content, group ≠ name → start group = some content → Within base group →
    name ∈ content "member" → Followed name (renameUser name new) group content after

structure RenameUnfollowed (name new : String) (start : Store) (after : Journal) : Prop where
  gone : after.store name = none
  present : after.store (renameUser name new) ≠ none
  groups : ∀ group content, group ≠ name → start group = some content →
    after.store group = some content

theorem renamed_store_gone (stored : start name ≠ none)
    (free : start (renameUser name new) = none) :
    renamedStore name new givenName surname record start name = none := by
  have elsewhere : name ≠ renameUser name new := fun same => stored (same ▸ free)
  unfold renamedStore Store.moved
  rw [moved_name_user, Function.update_of_ne elsewhere, Function.update_self]

theorem renamed_store_present :
    renamedStore name new givenName surname record start (renameUser name new) ≠ none := by
  unfold renamedStore Store.moved
  rw [moved_name_user, Function.update_self]
  exact Option.some_ne_none _

theorem renamed_store_other {group : String} (free : start (renameUser name new) = none)
    (different : group ≠ name) (stored : start group = some content) :
    renamedStore name new givenName surname record start group = some content := by
  have elsewhere : group ≠ renameUser name new := by
    rintro rfl
    rw [free] at stored
    cases stored
  unfold renamedStore Store.moved
  rw [moved_name_user, Function.update_of_ne elsewhere, Function.update_of_ne different, stored]

theorem ensures_modify_losing (givenName surname : Option String)
    (identified : Identified service.base username name record start)
    (free : start (renameUser name new) = none) (retries : 1 ≤ service.policy.maxRetries.toNat) :
    (service.modifyAttributes username givenName surname (some new)).Ensures
      (Journal.losing Loss.once)
      (fun value after => (value = username ∧ RenameFollowed service.base name new start after) ∨
        (after.losses.any (Loss.occupied (renameUser name new)) = true ∧
          ¬NamedAfter username name record))
      (fun failure after => NamingLost username name new givenName surname record start after ∧
        (NamedAfter username name record → failure = .teacherNotFound)) ⟨start, []⟩ := by
  have taken : start name ≠ none := identified.stored ▸ Option.some_ne_none record
  unfold modifyAttributes
  refine (ensures_naming_losing identified free retries).bind ?_
  rintro renamed between (⟨plain, rfl, stored⟩ | ⟨lost, foreign⟩)
  · dsimp only
    rw [Attempt.ensures_bind]
    refine (ensures_follow_losing retries).weaken (fun _ after follow => ?_)
      fun _ _ impossible => impossible.elim
    refine Attempt.ensures_pure.mpr
      (.inl ⟨rfl, ?_, ?_, ?_, fun group content different there => ?_⟩)
    · rw [follow.unoccupied, plain]
    · exact (follow.same name).mpr (stored ▸ renamed_store_gone taken free)
    · exact mt (follow.same _).mp (stored ▸ renamed_store_present)
    · exact follow.followed group content (stored ▸ renamed_store_other free different there)
  · -- Nothing is said of an entry that is named otherwise, but that the rename was lost.
    refine Program.Ensures.weaken (Program.ensures_kept Journal.losing_keeps_occupied lost) ?_
    rintro (_ | _) after still
    · exact ⟨⟨still, fun own => (foreign own).elim⟩, fun own => (foreign own).elim⟩
    · exact .inr ⟨still, foreign⟩

variable {State : Type} {world : World State} {held : State → Journal} {state : State}

/-- A change of username in a directory where one call may get lost. The groups follow, unless it was
the answer to the rename that was lost. Then an entry that is named by its username has the new name,
the operation fails because nobody has the old username, and the groups list a name without an
entry. -/
theorem groups_follow_unless_lost (obeys : world.Obeys (Journal.losing Loss.once) held)
    (begins : (held state).losses = [])
    (identified : Identified service.base username name record (held state).store)
    (free : (held state).store (renameUser name new) = none)
    (retries : 1 ≤ service.policy.maxRetries.toNat) :
    let run :=
      (service.modifyAttributes username givenName surname (some new)).run.run world state
    (run.result = .ok username ∧
        RenameFollowed service.base name new (held state).store (held run.state)) ∨
      ((held run.state).losses.any (Loss.occupied (renameUser name new)) = true ∧
        (NamedAfter username name record → run.result = .error .teacherNotFound ∧
          RenameUnfollowed name new (held state).store (held run.state))) := by
  intro run
  have start : held state = ⟨(held state).store, []⟩ := by rw [← begins]
  have ensured := ensures_modify_losing givenName surname identified free retries
  rw [← start] at ensured
  have ended : Attempt.Ending _ _ run.result (held run.state) :=
    Program.Ensures.of_run obeys ensured
  cases outcome : run.result with
  | ok value =>
      rw [outcome] at ended
      obtain ⟨rfl, followed⟩ | ⟨lost, foreign⟩ := ended
      · exact .inl ⟨rfl, followed⟩
      · exact .inr ⟨lost, fun own => (foreign own).elim⟩
  | error failure =>
      rw [outcome] at ended
      obtain ⟨⟨lost, stored⟩, absent⟩ := ended
      have taken : (held state).store name ≠ none := identified.stored ▸ Option.some_ne_none record
      refine .inr ⟨lost, fun own => ⟨by rw [absent own], ?_, ?_, ?_⟩⟩
      · exact stored own ▸ renamed_store_gone taken free
      · exact stored own ▸ renamed_store_present
      · exact fun group content different there =>
          stored own ▸ renamed_store_other free different there

/-- The answer to the rename is lost: the group lists a teacher who has no entry. -/
theorem lost_rename_leaves_group :
    let service : Service :=
      ⟨⟨"", "cn=admin", none, "dc=schule", none, none, none, none, none, none⟩, .immediate 1⟩
    let name := "uid=anna,ou=oeffentlicheSchulen,dc=schule"
    let newName := "uid=bert,ou=oeffentlicheSchulen,dc=schule"
    let group := "cn=lehrer-0705,cn=groups,ou=0705,dc=schule"
    let staff := Catalogue.empty.put name (Record.keyed_by_attributes [("uid", ["anna"])])
    let start := staff.put group (Record.keyed_by_attributes [("member", [name])])
    let run := (service.modifyAttributes "anna" none none (some "bert")).run.run
      (Catalogue.forgetful (Call.occupies newName)) (start, [])
    run.result = .error .teacherNotFound ∧ run.state.1.store name = none ∧
      run.state.1.store newName ≠ none ∧
      run.state.1.store group = some (.ofAttributes [("member", [name])]) := by
  intro service name newName group staff start run
  have renamed : renameUser name "bert" = newName := by decide +kernel
  have inRealm : name = service.teacherName "anna" .publicSchools := by decide +kernel
  have usernames : Record.ofAttributes [("uid", ["anna"])] "uid" = ["anna"] := by decide +kernel
  have nameless : Record.ofAttributes [("member", [name])] "uid" = [] := by decide +kernel
  have identified : Identified service.base "anna" name (.ofAttributes [("uid", ["anna"])])
      start.store := by
    refine Identified.beside (Unidentified.identified (fun _ _ stored => nomatch stored) ?_ ?_) ?_ ?_
    · exact inRealm ▸ teacher_name_within
    · rw [usernames]
      exact List.mem_singleton.mpr rfl
    · rw [nameless]
      exact List.not_mem_nil
    · decide +kernel
  have own : NamedAfter "anna" name (.ofAttributes [("uid", ["anna"])]) :=
    ⟨usernames, "ou=oeffentlicheSchulen,dc=schule", by decide +kernel⟩
  have free : start.store newName = none := by decide +kernel
  have obeys : (Catalogue.forgetful (Call.occupies newName)).Obeys (Journal.losing Loss.once)
      Catalogue.journal := Catalogue.forgetful_obeys fun _ _ => rfl
  have outcome : (run.result = .ok "anna" ∧ RenameFollowed service.base name "bert" start.store
        (Catalogue.journal run.state)) ∨
      (run.state.2.any (Loss.occupied (renameUser name "bert")) = true ∧
        (NamedAfter "anna" name (.ofAttributes [("uid", ["anna"])]) →
          run.result = .error .teacherNotFound ∧
            RenameUnfollowed name "bert" start.store (Catalogue.journal run.state))) :=
    groups_follow_unless_lost obeys rfl identified (renamed ▸ free) (by decide)
  have losses : (run.state.2 = [] ∧ run.state.1.store newName = none) ∨
      ∃ request, Call.occupies newName request = true ∧ run.state.2 = [⟨request, true⟩] :=
    Catalogue.forgetful_losses (· newName = none) free fun _ _ _ => Store.write_keeps_free
  have lost : ¬RenameFollowed service.base name "bert" start.store (Catalogue.journal run.state) := by
    intro followed
    have answered : run.state.2.any (Loss.occupied newName) = false := renamed ▸ followed.answered
    rcases losses with ⟨-, absent⟩ | ⟨request, occupies, alone⟩
    · exact followed.present (renamed ▸ absent)
    · rw [alone, List.any_cons, Loss.occupied, occupies] at answered
      cases answered
  obtain ⟨result, unfollowed⟩ := (outcome.resolve_left fun given => lost given.2).2 own
  exact ⟨result, unfollowed.gone, renamed ▸ unfollowed.present,
    unfollowed.groups group _ (by decide +kernel) (Function.update_self group _ staff.store)⟩

end Runs

end Service

end TeacherDirectory
