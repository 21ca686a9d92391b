import TeacherDirectory.Proofs.Program.Interleaving
import TeacherDirectory.Proofs.Service.GroupWrites

/-!
# Joining a group that others join

A call of someone who joins adds the unit, adds the group, or adds this one person to an entry, and
takes nothing away. So an attempt to join fails among others only because one of them added the unit
or the group between a search and the addition that was based on it. Each of these happens once, so
two failed attempts are the most there can be.
-/

namespace TeacherDirectory.Service

set_option autoImplicit false

open DistinguishedName
open Function (update)

inductive JoinStep (service : Service) (schoolCode person : String) (before : Store) : Store → Prop
  | same : JoinStep service schoolCode person before before
  | unit (free : before (service.schoolName schoolCode) = none) :
      JoinStep service schoolCode person before
        (update before (service.schoolName schoolCode) (some (unitRecord schoolCode)))
  | group (free : before (service.groupName schoolCode) = none) :
      JoinStep service schoolCode person before
        (update before (service.groupName schoolCode) (some (groupRecord schoolCode person)))
  | member {name : String} {record : Record} (stored : before name = some record)
      (unlisted : person ∉ record "member") :
      JoinStep service schoolCode person before
        (update before name (some (update record "member" (record "member" ++ [person]))))

def IsJoinOf (service : Service) (schoolCode person : String) : Call → Prop
  | .connect => True
  | .bind .. => True
  | .search .. => True
  | .add name attributes =>
      (name = service.schoolName schoolCode ∧
          attributes = [("objectclass", ["organizationalUnit"]), ("ou", [schoolCode])]) ∨
        (name = service.groupName schoolCode ∧
          attributes = [("objectclass", ["groupOfNames"]), ("cn", [groupId schoolCode]),
            ("member", [person])])
  | .modify _ changes => changes = [.add "member" [person]]
  | _ => False

/-- The unit and the group of a school are each absent or at their place. -/
structure Home (service : Service) (schoolCode : String) (store : Store) : Prop where
  unit : UnitReady service schoolCode store
  group : GroupReady service schoolCode store
  single : ∀ name record, IsGroup service.base store schoolCode name record →
    name = service.groupName schoolCode

def members (service : Service) (schoolCode : String) (store : Store) : List String :=
  ((store (service.groupName schoolCode)).map (· "member")).getD []

/-- How many of the unit and the group of a school are still to be added. -/
def missing (service : Service) (schoolCode : String) (store : Store) : Nat :=
  (store (service.schoolName schoolCode)).isNone.toNat +
    (store (service.groupName schoolCode)).isNone.toNat

variable {service : Service} {schoolCode person other referrer name : String}
  {before between after : Store} {record : Record}

theorem join_step {request : Call} {answer : request.Answer}
    (asked : service.IsJoinOf schoolCode person request)
    (answered : Store.answering False before request answer after) :
    JoinStep service schoolCode person before after := by
  cases answer with
  | error failure =>
      obtain ⟨-, rfl⟩ := answered
      exact .same
  | ok reply =>
      have written : before.write request = some after := answered.2
      cases request with
      | connect => exact Option.some.inj written ▸ .same
      | bind admin password => exact Option.some.inj written ▸ .same
      | search base scope filter names => exact Option.some.inj written ▸ .same
      | add added attributes =>
          obtain ⟨free, rfl⟩ := Store.write_add_iff.mp written
          rcases asked with ⟨rfl, rfl⟩ | ⟨rfl, rfl⟩
          · exact .unit free
          · exact .group free
      | modify modified changes =>
          obtain rfl : changes = [.add "member" [person]] := asked
          obtain ⟨record, stored, changed, made, rfl⟩ := Store.write_modify_iff.mp written
          by_cases listed : person ∈ record "member"
          · simp [Record.change, Change.add, Entry.key_member, listed] at made
          · obtain rfl := Option.some.inj ((add_member listed).symm.trans made)
            exact .member stored listed
      | rename renamed leaf => exact asked.elim
      | delete deleted => exact asked.elim

theorem is_group_members (stored : before name = some record) {values : List String}
    {found : Record} {group : String} :
    IsGroup service.base (update before name (some (update record "member" values))) schoolCode group
        found →
      ∃ earlier, IsGroup service.base before schoolCode group earlier := by
  intro isGroup
  rcases is_group_set.mp isGroup with ⟨rfl, same, inside, matched⟩ | ⟨-, isGroup⟩
  · rw [← Option.some.inj same, group_matches_members] at matched
    exact ⟨record, stored, inside, matched⟩
  · exact ⟨found, isGroup⟩

theorem JoinStep.keeps (step : JoinStep service schoolCode person before after)
    (present : before name ≠ none) : after name ≠ none := by
  cases step with
  | same => exact present
  | unit _ => exact Store.update_keeps _ present
  | group _ => exact Store.update_keeps _ present
  | member _ _ => exact Store.update_keeps _ present

theorem JoinStep.home (step : JoinStep service schoolCode person before after)
    (home : Home service schoolCode before) : Home service schoolCode after := by
  obtain ⟨unit, group, single⟩ := home
  cases step with
  | same => exact ⟨unit, group, single⟩
  | unit free =>
      have added : UnitAdded service schoolCode before
          (update before (service.schoolName schoolCode) (some (unitRecord schoolCode))) :=
        .inr (with_unit_free free).symm
      exact ⟨added.unit_ready unit, added.group_ready group,
        fun name record isGroup => single name record (added.is_group.mp isGroup)⟩
  | group free =>
      refine ⟨fun record stored => ?_, fun record stored => ?_, fun name record isGroup => ?_⟩
      · rw [Function.update_of_ne school_name_ne_group] at stored
        exact unit record stored
      · rw [Function.update_self] at stored
        obtain rfl := Option.some.inj stored
        exact is_group_set.mpr (.inl ⟨rfl, rfl, group_name_within, group_record_matches.mpr rfl⟩)
      · rcases is_group_set.mp isGroup with ⟨named, -⟩ | ⟨-, isGroup⟩
        · exact named
        · exact single name record isGroup
  | @member changed content stored unlisted =>
      refine ⟨unit.members stored, fun record found => ?_, fun name record isGroup => ?_⟩
      · by_cases same : service.groupName schoolCode = changed
        · subst same
          rw [Function.update_self] at found
          obtain rfl := Option.some.inj found
          have isGroup := group content stored
          exact is_group_set.mpr
            (.inl ⟨rfl, rfl, isGroup.inside, group_matches_members.mpr isGroup.matched⟩)
        · rw [Function.update_of_ne same] at found
          exact is_group_set.mpr (.inr ⟨same, group record found⟩)
      · obtain ⟨earlier, isGroup⟩ := is_group_members stored isGroup
        exact single name earlier isGroup

theorem members_stored (stored : before (service.groupName schoolCode) = some record) :
    service.members schoolCode before = record "member" := by
  unfold members
  rw [stored]
  rfl

theorem members_set_other (different : service.groupName schoolCode ≠ name) :
    service.members schoolCode (update before name (some record)) =
      service.members schoolCode before := by
  unfold members
  rw [Function.update_of_ne different]

theorem JoinStep.members (step : JoinStep service schoolCode person before after) :
    service.members schoolCode after = service.members schoolCode before ∨
      (person ∉ service.members schoolCode before ∧
        service.members schoolCode after = service.members schoolCode before ++ [person]) := by
  cases step with
  | same => exact .inl rfl
  | unit _ => exact .inl (members_set_other school_name_ne_group.symm)
  | group free =>
      have none : service.members schoolCode before = [] := by
        unfold Service.members
        rw [free]
        rfl
      rw [none, members_stored (Function.update_self _ _ before), group_record_values.2.2]
      exact .inr ⟨List.not_mem_nil, rfl⟩
  | @member changed content stored unlisted =>
      by_cases same : service.groupName schoolCode = changed
      · subst same
        rw [members_stored stored, members_stored (Function.update_self _ _ before),
          Function.update_self]
        exact .inr ⟨unlisted, rfl⟩
      · exact .inl (members_set_other same)

/-- What a person who joins can rely on while others join. -/
structure Meanwhile (service : Service) (schoolCode person : String) (before after : Store) :
    Prop where
  keeps : ∀ name, before name ≠ none → after name ≠ none
  home : Home service schoolCode before → Home service schoolCode after
  unlisted : person ∉ service.members schoolCode before → person ∉ service.members schoolCode after
  listed : person ∈ service.members schoolCode before → person ∈ service.members schoolCode after

theorem Meanwhile.refl (store : Store) : Meanwhile service schoolCode person store store :=
  ⟨fun _ => id, id, id, id⟩

theorem Meanwhile.trans (first : Meanwhile service schoolCode person before between)
    (second : Meanwhile service schoolCode person between after) :
    Meanwhile service schoolCode person before after where
  keeps name present := second.keeps name (first.keeps name present)
  home home := second.home (first.home home)
  unlisted absent := second.unlisted (first.unlisted absent)
  listed present := second.listed (first.listed present)

theorem JoinStep.meanwhile (step : JoinStep service schoolCode other before after)
    (spares : service.members schoolCode after = service.members schoolCode before ∨
      other ≠ person) : Meanwhile service schoolCode person before after := by
  refine ⟨fun _ => step.keeps, step.home, fun absent => ?_, fun present => ?_⟩
  · rcases step.members with same | ⟨-, added⟩
    · rwa [same]
    · rcases spares with same | apart
      · rwa [same]
      · rw [added]
        simpa [apart.symm] using absent
  · rcases step.members with same | ⟨-, added⟩
    · rwa [same]
    · rw [added]
      exact List.mem_append_left [other] present

theorem missing_at_most : service.missing schoolCode before ≤ 2 :=
  Nat.add_le_add (Bool.toNat_le _) (Bool.toNat_le _)

theorem is_none_falls {first second : Option Record} (keeps : first ≠ none → second ≠ none) :
    second.isNone.toNat ≤ first.isNone.toNat := by
  cases first <;> cases second <;> simp_all

theorem Meanwhile.missing_le (relied : Meanwhile service schoolCode person before after) :
    service.missing schoolCode after ≤ service.missing schoolCode before :=
  Nat.add_le_add (is_none_falls (relied.keeps _)) (is_none_falls (relied.keeps _))

theorem Meanwhile.missing_lt (relied : Meanwhile service schoolCode person before after)
    (ours : name = service.schoolName schoolCode ∨ name = service.groupName schoolCode)
    (free : before name = none) (taken : after name ≠ none) :
    service.missing schoolCode after < service.missing schoolCode before := by
  have fell : (after name).isNone.toNat < (before name).isNone.toNat := by
    rw [free, Option.isNone_eq_false_iff.mpr (Option.isSome_iff_ne_none.mpr taken)]
    exact Nat.zero_lt_one
  rcases ours with rfl | rfl
  · exact Nat.add_lt_add_of_lt_of_le fell (is_none_falls (relied.keeps _))
  · exact Nat.add_lt_add_of_le_of_lt (is_none_falls (relied.keeps _)) fell

section Among

variable {rely : Store → Store → Prop} {request : Call} {bad : ServiceError → Store → Prop}
  {refused : DirectoryError → Program ServiceError}

theorem ensures_carried_out_among {good : request.Reply → Store → Prop}
    (carried : ∀ between, rely before between → ∃ later, between.write request = some later ∧
      ∀ reply, between.Replies request reply → good reply later) :
    (Attempt.call request refused).Ensures ((Store.answering False).among rely) good bad
      before := by
  refine Attempt.ensures_call_among.mpr fun between relied => ?_
  obtain ⟨later, written, holds⟩ := carried between relied
  refine ⟨fun reply after answered => ?_, fun failure after answered => ?_⟩
  · obtain rfl := Option.some.inj (written.symm.trans answered.2)
    exact holds reply answered.1
  · have impossible := answered.1.resolve_left id
    rw [written] at impossible
    cases impossible

theorem ensures_add_among {attributes : Attributes} {good : Unit → Store → Prop}
    (added : ∀ between, rely before between → between name = none →
      good () (update between name (some (Record.ofAttributes attributes))))
    (taken : ∀ between, rely before between → between name ≠ none → ∀ failure,
      (refused failure).Ensures ((Store.answering False).among rely) bad between) :
    @Attempt.Ensures (no_index _) _ ((Store.answering False).among rely)
      (Attempt.call (.add name attributes) refused) good bad before := by
  refine Attempt.ensures_call_among.mpr fun between relied => ?_
  by_cases free : between name = none
  · refine ⟨fun reply after answered => ?_, fun failure after answered => ?_⟩
    · obtain rfl := Option.some.inj ((Store.write_add free).symm.trans answered.2)
      exact added between relied free
    · have impossible := answered.1.resolve_left id
      rw [Store.write_add free] at impossible
      cases impossible
  · refine ⟨fun reply after answered => ?_, fun failure after answered => ?_⟩
    · have impossible := answered.2
      rw [Store.write_add_taken free] at impossible
      cases impossible
    · obtain rfl : after = between := answered.2
      exact taken after relied free failure

end Among

abbrev joinRule (service : Service) (schoolCode person : String) : CallRule Store :=
  (Store.answering False).among (service.Meanwhile schoolCode person)

theorem ensures_bound_shared :
    service.bind.Ensures (service.joinRule schoolCode person)
      (fun _ after => Meanwhile service schoolCode person before after) (fun _ _ => False)
      before := by
  unfold Service.bind
  simp only [Attempt.ensures_bind, Attempt.ensures_lift, Program.ensures_log]
  refine ensures_carried_out_among fun first relied => ⟨first, rfl, fun _ _ => ?_⟩
  exact ensures_carried_out_among fun second further => ⟨second, rfl, fun _ _ =>
    relied.trans further⟩

/-- The attempt is lost because someone else added what was missing. -/
def Overtaken (service : Service) (schoolCode person : String) (before after : Store) : Prop :=
  Meanwhile service schoolCode person before after ∧
    service.missing schoolCode after < service.missing schoolCode before

theorem Overtaken.since (relied : Meanwhile service schoolCode person before between)
    (overtaken : Overtaken service schoolCode person between after) :
    Overtaken service schoolCode person before after :=
  ⟨relied.trans overtaken.1, Nat.lt_of_lt_of_le overtaken.2 relied.missing_le⟩

theorem ensures_unit_shared {refused : DirectoryError → Program ServiceError}
    {bad : ServiceError → Store → Prop} (home : Home service schoolCode before)
    (refusing : ∀ failure after, Overtaken service schoolCode person before after →
      (refused failure).Ensures (service.joinRule schoolCode person) bad after) :
    (service.ensureSchool schoolCode refused).Ensures (service.joinRule schoolCode person)
      (fun _ after => Meanwhile service schoolCode person before after ∧
        after (service.schoolName schoolCode) ≠ none) bad before := by
  have asksForRole {state : Store} (relied : Meanwhile service schoolCode person before state)
      (present : state (service.schoolName schoolCode) ≠ none) :
      (service.lookForRole schoolCode refused).Ensures (service.joinRule schoolCode person)
        (fun _ after => Meanwhile service schoolCode person before after ∧
          after (service.schoolName schoolCode) ≠ none) bad state := by
    unfold lookForRole
    rw [Attempt.ensures_bind]
    refine ensures_carried_out_among fun later further => ⟨later, rfl, fun roles _ => ?_⟩
    have kept := And.intro (relied.trans further) (further.keeps _ present)
    split <;> simpa [Program.ensures_log] using kept
  unfold ensureSchool
  rw [Attempt.ensures_bind]
  refine ensures_carried_out_among fun searched relied => ⟨searched, rfl, fun units finds => ?_⟩
  dsimp only
  split
  case isFalse some => exact asksForRole relied (finds.base_taken (mt List.isEmpty_iff.mpr some))
  case isTrue empty =>
    obtain rfl := List.isEmpty_iff.mp empty
    have free : searched (service.schoolName schoolCode) = none :=
      finds.free fun record stored => ⟨rfl, (relied.home home).unit record stored⟩
    rw [Attempt.ensures_bind]
    refine ensures_add_among (fun adding further stillFree => ?_)
      fun adding further taken failure => ?_
    · have added : Meanwhile service schoolCode person adding
          (update adding (service.schoolName schoolCode) (some (unitRecord schoolCode))) :=
        (JoinStep.unit stillFree : JoinStep service schoolCode person adding _).meanwhile
          (.inl (members_set_other school_name_ne_group.symm))
      rw [Attempt.ensures_bind, Attempt.ensures_lift, Program.ensures_log]
      refine asksForRole ((relied.trans further).trans added) ?_
      rw [Function.update_self]
      exact Option.some_ne_none _
    · simp only [Program.ensures_bind, Program.ensures_log]
      exact refusing failure adding (Overtaken.since relied
        ⟨further, further.missing_lt (.inl rfl) free taken⟩)

def Listed (service : Service) (schoolCode person : String) (store : Store) : Prop :=
  store (service.schoolName schoolCode) ≠ none ∧ person ∈ service.members schoolCode store

theorem ensures_join_once_shared (home : Home service schoolCode before)
    (unlisted : person ∉ service.members schoolCode before) :
    (service.joinGroupOnce referrer schoolCode person).Ensures (service.joinRule schoolCode person)
      (fun changed after => changed = true ∧ Listed service schoolCode person after)
      (fun _ after => Overtaken service schoolCode person before after) before := by
  unfold joinGroupOnce findGroup
  refine ensures_bound_shared.bind_certain fun _ bound relied => ?_
  refine (ensures_unit_shared (relied.home home) fun failure after overtaken =>
    Program.ensures_pure.mpr (overtaken.since relied)).bind fun _ ready prepared => ?_
  have relied := relied.trans prepared.1
  rw [Attempt.ensures_bind, Attempt.ensures_bind]
  refine ensures_carried_out_among fun found further => ⟨found, rfl, fun groups finds => ?_⟩
  have relied := relied.trans further
  have home := relied.home home
  have unit := further.keeps _ prepared.2
  rw [Attempt.ensures_pure]
  cases groups with
  | cons entry rest =>
      obtain ⟨record, stored, covered, matched, shown⟩ := finds.found entry List.mem_cons_self
      have named : entry.name = service.groupName schoolCode :=
        home.single entry.name record ⟨stored, covered, matched⟩
      have absent : person ∉ record "member" := by
        have none := relied.unlisted unlisted
        rwa [members_stored (named ▸ stored)] at none
      dsimp only [List.head?_cons]
      rw [shown.members, if_neg (by simpa using absent), Attempt.ensures_bind]
      -- Others may have added members since the search, but not this person.
      refine ensures_carried_out_among fun adding last => ?_
      have present : adding entry.name ≠ none :=
        last.keeps _ (stored ▸ Option.some_ne_none record)
      obtain ⟨current, held⟩ := Option.ne_none_iff_exists'.mp present
      have stillAbsent : person ∉ current "member" := by
        have none := (relied.trans last).unlisted unlisted
        rwa [members_stored (named ▸ held)] at none
      refine ⟨_, Store.write_modify held (add_member stillAbsent), fun _ _ => ?_⟩
      simp only [Attempt.ensures_bind, Attempt.ensures_lift, Attempt.ensures_pure,
        Program.ensures_log]
      refine ⟨trivial, Store.update_keeps _ (last.keeps _ unit), ?_⟩
      rw [named, members_stored (Function.update_self _ _ adding), Function.update_self]
      exact List.mem_append_right _ (List.mem_singleton.mpr rfl)
  | nil =>
      have free : found (service.groupName schoolCode) = none := finds.free fun record stored =>
        ⟨(home.group record stored).inside, (home.group record stored).matched⟩
      dsimp only [List.head?_nil]
      rw [Attempt.ensures_bind]
      -- Where the name is taken now, someone else has added the group since the search.
      refine ensures_add_among (fun adding last stillFree => ?_) fun adding last taken failure => ?_
      · simp only [Attempt.ensures_bind, Attempt.ensures_lift, Attempt.ensures_pure,
          Program.ensures_log]
        refine ⟨trivial, Store.update_keeps _ (last.keeps _ unit), ?_⟩
        rw [members_stored (Function.update_self _ _ adding)]
        change person ∈ groupRecord schoolCode person "member"
        rw [group_record_values.2.2]
        exact List.mem_singleton.mpr rfl
      · exact Program.ensures_logged.mpr
          (Overtaken.since relied ⟨last, last.missing_lt (.inr rfl) free taken⟩)

/-- Three attempts are enough: each one that is lost leaves less to be added for the next. -/
theorem ensures_join_shared {policy : RetryPolicy} (patient : 2 ≤ policy.maxRetries.toNat)
    (home : Home service schoolCode before)
    (unlisted : person ∉ service.members schoolCode before) :
    ({ service with policy := policy }.joinGroup referrer schoolCode person).Ensures
      (service.joinRule schoolCode person)
      (fun changed after => changed = true ∧ Listed service schoolCode person after)
      (fun _ _ => False) before := by
  let ready (left : Nat) (state : Store) : Prop :=
    Home service schoolCode state ∧ person ∉ service.members schoolCode state ∧
      service.missing schoolCode state < left
  have enough : service.missing schoolCode before < policy.maxRetries.toNat + 1 :=
    Nat.lt_succ_of_le (missing_at_most.trans patient)
  apply RetryPolicy.ensures_retry_counted ready ⟨home, unlisted, enough⟩
  intro _ left state given
  obtain ⟨home, unlisted, fewer⟩ := given
  apply (ensures_join_once_shared home unlisted).weaken (fun _ _ ended => ended)
  intro _ after overtaken
  have less : service.missing schoolCode after < left := by
    have fell := overtaken.2
    omega
  refine ⟨⟨overtaken.1.home home, overtaken.1.unlisted unlisted, less⟩, fun last => ?_⟩
  omega

end TeacherDirectory.Service
