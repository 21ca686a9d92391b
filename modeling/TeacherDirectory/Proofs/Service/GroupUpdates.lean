import TeacherDirectory.Proofs.Service.GroupStore
import TeacherDirectory.Proofs.Service.PersonCalls

/-!
# A member gets a new name

The groups that list a name are found by one search and then changed one after the other; a lost
answer stops nothing. So afterwards each of them lists the new name in the place of the old one, but
for a group whose own change was lost, and no other entry was touched.
-/

namespace TeacherDirectory.Service

set_option autoImplicit false

open DistinguishedName
open Function (update)

variable {service : Service} {may : List Loss → Loss → Prop}
  {oldName newName base name username new : String} {content : Record} {store : Store}
  {before after : Journal} {groups : List Entry} {found : Entry}

def withRenamed (oldName newName : String) (content : Record) : Record :=
  update content "member" (renameMember oldName newName (content "member"))

/-- A group lists the new name in the place of the old one, or its own change was lost and it is as
it was. -/
def Followed (oldName newName group : String) (content : Record) (after : Journal) : Prop :=
  after.store group = some (withRenamed oldName newName content) ∨
    (after.store group = some content ∧
      ∃ loss ∈ after.losses, ∃ changes, loss.request = .modify group changes)

structure GroupsUpdated (oldName newName : String) (groups : List Entry) (before after : Journal) :
    Prop where
  followed : ∀ group ∈ groups, ∀ content, before.store group.name = some content →
    Followed oldName newName group.name content after
  others : ∀ name, name ∉ groups.map Entry.name → after.store name = before.store name
  remembered : ∀ loss ∈ before.losses, loss ∈ after.losses
  unoccupied : ∀ name,
    after.losses.any (Loss.occupied name) = before.losses.any (Loss.occupied name)

theorem groups_updated_nil : GroupsUpdated oldName newName [] before before :=
  ⟨fun _ impossible => (List.not_mem_nil impossible).elim, fun _ _ => rfl, fun _ member => member,
    fun _ => rfl⟩

theorem GroupsUpdated.cons {between : Journal}
    (first : GroupsUpdated oldName newName [found] before between)
    (rest : GroupsUpdated oldName newName groups between after)
    (apart : found.name ∉ groups.map Entry.name) :
    GroupsUpdated oldName newName (found :: groups) before after where
  followed := fun group member content stored => by
    rcases List.mem_cons.mp member with rfl | later
    · rw [Followed, rest.others _ apart]
      refine (first.followed _ (List.mem_singleton.mpr rfl) content stored).imp_right ?_
      exact fun ⟨same, loss, lost, own⟩ => ⟨same, loss, rest.remembered loss lost, own⟩
    · have different : group.name ∉ [found].map Entry.name := fun same =>
        apart (List.mem_singleton.mp same ▸ List.mem_map_of_mem later)
      exact rest.followed group later content ((first.others _ different).trans stored)
  others := fun name absent => by
    rw [List.map_cons, List.mem_cons, not_or] at absent
    exact (rest.others name absent.2).trans
      (first.others name fun same => absent.1 (List.mem_singleton.mp same))
  remembered := fun loss lost => rest.remembered loss (first.remembered loss lost)
  unoccupied := fun name => (rest.unoccupied name).trans (first.unoccupied name)

theorem write_renamed (stored : store name = some content) :
    store.write (.modify name
        [.replace "member" (renameMember oldName newName (content "member"))]) =
      some (update store name (some (withRenamed oldName newName content))) :=
  Store.write_modify stored replace_members

theorem groups_updated_one {losses : List Loss} (stored : before.store found.name = some content)
    (written : after.store =
        update before.store found.name (some (withRenamed oldName newName content)) ∨
      (after.store = before.store ∧ ∃ loss ∈ losses, ∃ changes,
        loss.request = .modify found.name changes))
    (recorded : after.losses = before.losses ++ losses)
    (unoccupied : ∀ name, losses.any (Loss.occupied name) = false) :
    GroupsUpdated oldName newName [found] before after where
  followed := fun group member other present => by
    obtain rfl := List.mem_singleton.mp member
    obtain rfl := Option.some.inj (stored.symm.trans present)
    refine written.imp (fun updated => ?_) fun given => ?_
    · rw [updated, Function.update_self]
    · rcases given with ⟨same, loss, lost, own⟩
      exact ⟨same ▸ stored, loss, recorded ▸ List.mem_append_right _ lost, own⟩
  others := fun name absent => by
    rcases written with updated | ⟨same, -⟩
    · rw [updated, Function.update_of_ne fun same => absent (List.mem_singleton.mpr same)]
    · rw [same]
  remembered := fun _ lost => recorded ▸ List.mem_append_left _ lost
  unoccupied := fun name => by rw [recorded, List.any_append, unoccupied name, Bool.or_false]

theorem groups_updated_lost (stored : before.store found.name = some content)
    (loses : before.Loses may (.modify found.name
      [.replace "member" (renameMember oldName newName (content "member"))]) after) :
    GroupsUpdated oldName newName [found] before after := by
  cases loses with
  | undone permitted =>
      exact groups_updated_one stored (.inr ⟨rfl, _, List.mem_singleton.mpr rfl, _, rfl⟩) rfl
        fun _ => rfl
  | applied permitted written =>
      have later := Option.some.inj ((write_renamed stored).symm.trans written)
      exact groups_updated_one stored (.inl later.symm) rfl fun _ => rfl

/-- All groups are updated, and a lost answer stops nothing. The induction is on the groups that are
left; the ones found later are as they were, since no two have one name. -/
theorem ensures_groups_updated (distinct : (groups.map Entry.name).Nodup)
    (listed : ∀ group ∈ groups, ∃ content, before.store group.name = some content ∧
      group.values "member" = content "member") :
    (updateGroups oldName newName groups).Ensures (Journal.losing may)
      (fun _ => GroupsUpdated oldName newName groups before) before := by
  induction groups generalizing before with
  | nil => exact Program.ensures_pure.mpr groups_updated_nil
  | cons found rest induction =>
      obtain ⟨content, stored, read⟩ := listed found List.mem_cons_self
      rw [List.map_cons, List.nodup_cons] at distinct
      have onward (between : Journal)
          (first : GroupsUpdated oldName newName [found] before between) :
          (updateGroups oldName newName rest).Ensures (Journal.losing may)
            (fun _ => GroupsUpdated oldName newName (found :: rest) before) between := by
        have still : ∀ group ∈ rest, ∃ content, between.store group.name = some content ∧
            group.values "member" = content "member" := by
          intro group member
          have different : group.name ∉ [found].map Entry.name := fun same =>
            distinct.1 (List.mem_singleton.mp same ▸ List.mem_map_of_mem member)
          rw [first.others _ different]
          exact listed group (List.mem_cons_of_mem found member)
        exact (induction distinct.2 still).weaken fun _ after rested =>
          first.cons rested distinct.1
      unfold updateGroups
      rw [read, Program.ensures_bind, Journal.ensures_call, write_renamed stored]
      simp only [Program.ensures_bind, Program.ensures_log, Program.ensures_pure]
      refine ⟨fun _ later _ same => ?_, nofun, fun _ after loses => ?_⟩
      · exact onward _ (groups_updated_one stored (.inl (Option.some.inj same).symm)
          (List.append_nil _).symm fun _ => rfl)
      · exact onward after (groups_updated_lost stored loses)

/-- Every group below a base that listed the old name was given the new one, unless its own change
was lost. No entry has gone, and no other name was given an entry. -/
structure GroupsFollow (base oldName newName : String) (before after : Journal) : Prop where
  followed : ∀ group content, before.store group = some content → Within base group →
    oldName ∈ content "member" → Followed oldName newName group content after
  same : ∀ name, after.store name = none ↔ before.store name = none
  unoccupied : ∀ name,
    after.losses.any (Loss.occupied name) = before.losses.any (Loss.occupied name)

theorem GroupsUpdated.follow
    (updated : GroupsUpdated oldName newName groups before after)
    (finds : before.store.Finds base .subtree (.byMember oldName) ["member"] groups) :
    GroupsFollow base oldName newName before after where
  followed := fun group content stored inside member => by
    obtain ⟨entry, listed, rfl⟩ :=
      finds.complete group content stored inside (Filter.matches_member.mpr member)
    exact updated.followed entry listed content stored
  same := fun name => by
    by_cases listed : name ∈ groups.map Entry.name
    · obtain ⟨entry, member, rfl⟩ := List.mem_map.mp listed
      obtain ⟨content, stored, -⟩ := finds.found entry member
      rw [stored]
      obtain written | ⟨same, -⟩ := updated.followed entry member content stored
      · rw [written]
        simp
      · rw [same]
    · rw [updated.others name listed]
  unoccupied := updated.unoccupied

theorem members_found {filter : Filter String}
    (finds : store.Finds base .subtree filter ["member"] groups) :
    ∀ group ∈ groups, ∃ content, store group.name = some content ∧
      group.values "member" = content "member" := by
  intro group member
  obtain ⟨content, stored, -, -, shown⟩ := finds.found group member
  exact ⟨content, stored, shown.members⟩

theorem ensures_groups_once :
    (service.renameInGroupsOnce username new name).Ensures (Journal.losing may)
      (fun _ => GroupsFollow service.base name (renameUser name new) before)
      (fun _ after => before.Stumbles may after) before := by
  unfold renameInGroupsOnce renameInGroups
  refine ensures_bound_losing.bind ?_
  rintro _ _ rfl
  rw [Attempt.ensures_bind]
  refine Journal.ensures_search (fun groups finds => ?_) fun _ after stumbles =>
    Program.ensures_logged.mpr stumbles
  split
  case isTrue none =>
    obtain rfl := List.isEmpty_iff.mp none
    simp only [Attempt.ensures_bind, Attempt.ensures_lift, Attempt.ensures_pure,
      Program.ensures_log]
    exact groups_updated_nil.follow finds
  case isFalse =>
    rw [Attempt.ensures_bind, Attempt.ensures_lift]
    refine (ensures_groups_updated finds.distinct (members_found finds)).weaken
      fun failures after updated => ?_
    split <;> simp only [Attempt.ensures_bind, Attempt.ensures_lift, Attempt.ensures_pure,
        Program.ensures_log] <;> exact updated.follow finds

end TeacherDirectory.Service
