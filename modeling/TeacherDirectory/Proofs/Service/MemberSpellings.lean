import TeacherDirectory.Proofs.Service.MemberLists
import TeacherDirectory.Script

/-!
# Other spellings of a member

A directory takes names for one that differ in the case of letters, so its search for a member finds
groups that spell the name in another way. The members of a group are compared letter by letter, and
another spelling is a name of its own there: the list that is written keeps it. So a group follows a
rename exactly if it spells the old name like the one that was searched for.
-/

namespace TeacherDirectory.Service

set_option autoImplicit false

open DistinguishedName

/-- Names that a directory takes for one: they differ in the case of ASCII letters at most. -/
def SameName (name other : String) : Prop :=
  name.toList.map Char.toLower = other.toList.map Char.toLower

instance (name other : String) : Decidable (SameName name other) :=
  decEq (name.toList.map Char.toLower) (other.toList.map Char.toLower)

/-- The members tell the new name and, for a directory, no longer the old one. -/
def Follows (oldName newName : String) (members : List String) : Prop :=
  newName ∈ members ∧ ∀ member ∈ members, ¬SameName member oldName

/-- Whoever a directory takes for the old name is spelled like it. -/
def SpelledLike (oldName : String) (members : List String) : Prop :=
  ∀ member ∈ members, SameName member oldName → member = oldName

variable {oldName newName : String} {read written : List String}

theorem MemberRenamed.mem_iff (renamed : MemberRenamed oldName newName read written)
    {member : String} :
    member ∈ written ↔ member ∈ read ∧ member ≠ oldName ∨ member = newName ∧ oldName ∈ read := by
  rw [renamed.unique]
  exact mem_rename_member

theorem MemberRenamed.follows_iff (renamed : MemberRenamed oldName newName read written)
    (listed : ∃ member ∈ read, SameName member oldName) :
    Follows oldName newName written ↔ ¬SameName newName oldName ∧ SpelledLike oldName read := by
  constructor
  · rintro ⟨new, none⟩
    refine ⟨none newName new, fun member present same => ?_⟩
    by_contra other
    exact none member (renamed.mem_iff.mpr (.inl ⟨present, other⟩)) same
  · rintro ⟨apart, alike⟩
    obtain ⟨member, present, same⟩ := listed
    have old : oldName ∈ read := alike member present same ▸ present
    refine ⟨renamed.mem_iff.mpr (.inr ⟨rfl, old⟩), fun value kept => ?_⟩
    rcases renamed.mem_iff.mp kept with ⟨other, different⟩ | ⟨rfl, -⟩
    · exact fun sameValue => different (alike value other sameValue)
    · exact apart

theorem rename_starts_with_search {State : Type} (world : World State) (state : State)
    (service : Service) (oldReferrer newReferrer oldName : String) :
    ∃ rest, ((service.renameInGroups oldReferrer newReferrer oldName).run.run world state).steps =
      ⟨.call (service.memberSearch oldName),
        (world.answer (.call (service.memberSearch oldName)) state).1⟩ :: rest :=
  ⟨_, rfl⟩

theorem searched_groups_updated {service : Service} {oldReferrer newReferrer : String}
    {groups : List Entry} {updates : List Exchange} {outcome : Except ServiceError String}
    (yielded : (service.renameInGroups oldReferrer newReferrer oldName).run.Yields
      (⟨service.memberSearch oldName, .ok groups⟩ :: updates) outcome) :
    List.Forall₂ (IsMemberUpdate oldName (renameUser oldName newReferrer)) groups updates := by
  obtain ⟨unsearched, next, same, -, going⟩ :=
    found_groups_yield service oldReferrer newReferrer oldName
  rw [same] at yielded
  rcases Attempt.yields_call_bind.mp yielded with
    ⟨found, later, cut, further⟩ | ⟨failure, later, error, cut, -, -⟩
  · cases cut
    exact ((going groups updates outcome).mp further).1
  · cases cut

theorem prepared_groups_found {service : Service} {key name : String} {groups : List Entry}
    (occurs : Text.occursIn key.toList
      (service.base ++ " " ++ (Filter.byMember name).render).toList = true) :
    (Stage.world.answer (.call (service.memberSearch name))
      ⟨{ Script.empty with searches := [⟨key, .ok groups, false⟩] }, 0, false, 0⟩).1 =
        .ok groups := by
  change (Stage.nextSearch _ [⟨key, .ok groups, false⟩]).1 = .ok groups
  unfold Stage.nextSearch
  rw [if_pos occurs]

theorem single_member_read (name member : String) :
    Entry.values ⟨name, [("member", .text member)]⟩ "member" = [member] := by
  unfold Entry.values Entry.get
  rw [Entry.key_member]
  rfl

theorem spelled_like_single_iff {member : String} :
    SpelledLike oldName [member] ↔ (SameName member oldName → member = oldName) :=
  List.forall_mem_singleton

/-- A directory that ignores the case of letters names the groups of a person. Each of them is written
once, and afterwards it lists the new name and not the old one exactly if the new name is another one
for the directory and the old one was spelled as in the search; every other spelling is written
back. -/
theorem respelled_members_stay {State : Type} (world : World State) (state : State)
    (service : Service) (oldReferrer newReferrer oldName : String) (groups : List Entry)
    (answered : (world.answer (.call (service.memberSearch oldName)) state).1 = .ok groups)
    (listed : ∀ group ∈ groups, ∃ member ∈ group.values "member", SameName member oldName) :
    let newName := renameUser oldName newReferrer
    let run := (service.renameInGroups oldReferrer newReferrer oldName).run.run world state
    ∃ updates, exchanges run.steps = ⟨service.memberSearch oldName, .ok groups⟩ :: updates ∧
      List.Forall₂ (fun group exchange => ∃ written,
        exchange.request = .modify group.name [.replace "member" written] ∧
          (Follows oldName newName written ↔
            ¬SameName newName oldName ∧ SpelledLike oldName (group.values "member")) ∧
          ∀ member ∈ group.values "member", member ≠ oldName → member ∈ written) groups updates := by
  intro newName run
  obtain ⟨rest, steps⟩ :=
    rename_starts_with_search world state service oldReferrer newReferrer oldName
  have taken := (Program.run_takes world
    (service.renameInGroups oldReferrer newReferrer oldName).run state).yields
  have first : exchanges run.steps =
      ⟨service.memberSearch oldName, .ok groups⟩ :: exchanges rest := by
    rw [show run.steps = _ from steps, answered]
    rfl
  refine ⟨exchanges rest, first, ?_⟩
  have each := searched_groups_updated (first ▸ taken)
  refine ((List.forall₂_and_left groups _).mpr ⟨listed, each⟩).imp ?_
  rintro group exchange ⟨lists, written, request, renamed⟩
  exact ⟨written, request, renamed.follows_iff lists,
    fun member present other => renamed.mem_iff.mpr (.inl ⟨present, other⟩)⟩

/-- One group spells the old name as the search does, another one in capitals: the first one follows
the rename, and in the second one the capitals stay. -/
theorem respelled_member_left_behind :
    let service : Service :=
      ⟨⟨"", "cn=admin", none, "dc=schule", none, none, none, none, none, none⟩, .immediate 0⟩
    let oldName := "uid=anna,ou=oeffentlicheSchulen,dc=schule"
    let newName := "uid=bert,ou=oeffentlicheSchulen,dc=schule"
    let respelled := "UID=anna,OU=oeffentlicheSchulen,DC=schule"
    let groups : List Entry :=
      [⟨"cn=lehrer-0705", [("member", .text oldName)]⟩,
        ⟨"cn=lehrer-0706", [("member", .text respelled)]⟩]
    let script := { Script.empty with searches := [⟨"(member=", .ok groups, false⟩] }
    let run := (service.renameInGroups "anna" "bert" oldName).run.run Stage.world
      ⟨script, 0, false, 0⟩
    ∃ first second exchange other,
      exchanges run.steps = [⟨service.memberSearch oldName, .ok groups⟩, exchange, other] ∧
        exchange.request = .modify "cn=lehrer-0705" [.replace "member" first] ∧
          Follows oldName newName first ∧
            other.request = .modify "cn=lehrer-0706" [.replace "member" second] ∧
              respelled ∈ second ∧ ¬Follows oldName newName second := by
  intro service oldName newName respelled groups script run
  have renamed : renameUser oldName "bert" = newName := by decide +kernel
  have apart : ¬SameName newName oldName := by decide +kernel
  have stale : SameName respelled oldName ∧ respelled ≠ oldName := by decide +kernel
  have listed : ∀ group ∈ groups, ∃ member ∈ group.values "member", SameName member oldName := by
    decide +kernel
  have occurs : Text.occursIn "(member=".toList
      (service.base ++ " " ++ (Filter.byMember oldName).render).toList = true := by decide +kernel
  obtain ⟨updates, cut, each⟩ := respelled_members_stay Stage.world ⟨script, 0, false, 0⟩ service
    "anna" "bert" oldName groups (prepared_groups_found occurs) listed
  obtain ⟨exchange, _, ⟨first, request, follows, -⟩, rest, rfl⟩ :=
    List.forall₂_cons_left_iff.mp each
  obtain ⟨other, _, ⟨second, request', follows', kept⟩, ended, rfl⟩ :=
    List.forall₂_cons_left_iff.mp rest
  obtain rfl := List.forall₂_nil_left_iff.mp ended
  rw [renamed, single_member_read, spelled_like_single_iff] at follows follows'
  rw [single_member_read] at kept
  refine ⟨first, second, exchange, other, cut, request, follows.mpr ⟨apart, fun _ => rfl⟩, request',
    kept respelled (List.mem_singleton.mpr rfl) stale.2, fun both => ?_⟩
  exact stale.2 ((follows'.mp both).2 stale.1)

end TeacherDirectory.Service
