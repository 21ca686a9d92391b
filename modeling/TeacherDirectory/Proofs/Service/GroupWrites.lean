import TeacherDirectory.Proofs.Directory.Calls
import TeacherDirectory.Proofs.Retry.Invariant
import TeacherDirectory.Proofs.Service.GroupStore
import TeacherDirectory.Proofs.Service.JoiningCalls

/-!
# What joining and leaving a group write

One attempt to join a group writes at most the unit of the school and then the membership, and the
membership is its last write. So an attempt that fails has at most created the unit, and a retry
finds the groups as they were. One attempt to leave a group makes a single write. Without failing
calls both attempts do what they are asked for, unless an entry of another kind is in the way.
-/

namespace TeacherDirectory.Service

set_option autoImplicit false

open DistinguishedName
open Function (update)

variable {service : Service} {failing : Prop} {referrer username schoolCode person : String}
  {before between after : Store}

theorem ensures_bound_store :
    service.bind.Ensures (Store.answering failing) (fun _ after => after = before)
      (fun failure after => failing ∧ after = before ∧ ∃ source, failure = .bind source) before := by
  unfold Service.bind
  simp only [Attempt.ensures_bind, Store.ensures_connect, Store.ensures_bind, Attempt.ensures_lift,
    unbound, Program.ensures_bind, Program.ensures_log, Program.ensures_pure, true_and]
  have fails (mayFail : failing) (failure : DirectoryError) :
      failing ∧ ∃ source, ServiceError.bind failure = .bind source :=
    ⟨mayFail, failure, rfl⟩
  exact ⟨fails, fails⟩

/-- The name of a school's unit is free or that of a unit. -/
def UnitReady (service : Service) (schoolCode : String) (store : Store) : Prop :=
  ∀ record, store (service.schoolName schoolCode) = some record →
    (Filter.equal "objectClass" "organizationalUnit").Matches record

def GroupReady (service : Service) (schoolCode : String) (store : Store) : Prop :=
  ∀ record, store (service.groupName schoolCode) = some record →
    IsGroup service.base store schoolCode (service.groupName schoolCode) record

theorem unit_record_matches :
    (Filter.equal "objectClass" "organizationalUnit").Matches (unitRecord schoolCode) := by
  have folded : Entry.key "objectClass" = "objectclass" := by decide +kernel
  rw [Filter.matches_equal (by decide +kernel), folded, unit_record_class]
  exact List.mem_singleton.mpr rfl

theorem unit_matches_members {record : Record} {values : List String} :
    (Filter.equal "objectClass" "organizationalUnit").Matches (update record "member" values) ↔
      (Filter.equal "objectClass" "organizationalUnit").Matches record := by
  have folded : Entry.key "objectClass" = "objectclass" := by decide +kernel
  rw [Filter.matches_equal (by decide +kernel), Filter.matches_equal (by decide +kernel), folded,
    Function.update_of_ne (by decide)]

theorem UnitReady.members {name : String} {record : Record} {values : List String}
    (ready : UnitReady service schoolCode before) (stored : before name = some record) :
    UnitReady service schoolCode (update before name (some (update record "member" values))) := by
  intro content found
  by_cases same : service.schoolName schoolCode = name
  · rw [same, Function.update_self] at found
    rw [← Option.some.inj found, unit_matches_members]
    exact ready record (same ▸ stored)
  · rw [Function.update_of_ne same] at found
    exact ready content found

theorem UnitAdded.unit_ready (added : UnitAdded service schoolCode before after)
    (ready : UnitReady service schoolCode before) : UnitReady service schoolCode after := by
  rcases added with rfl | rfl
  · exact ready
  · intro record stored
    unfold withUnit at stored
    rw [Function.update_self] at stored
    obtain rfl := Option.some.inj stored
    cases taken : before (service.schoolName schoolCode) with
    | none => exact unit_record_matches
    | some record => exact ready record taken

theorem UnitAdded.group_name (added : UnitAdded service schoolCode before after) :
    after (service.groupName schoolCode) = before (service.groupName schoolCode) := by
  rcases added with rfl | rfl
  · rfl
  · exact with_unit_other school_name_ne_group.symm

theorem UnitAdded.group_ready (added : UnitAdded service schoolCode before after)
    (ready : GroupReady service schoolCode before) : GroupReady service schoolCode after := by
  intro record stored
  rw [added.group_name] at stored
  exact added.is_group.mpr (ready record stored)

theorem ensures_ensure_school_store {refused : DirectoryError → Program ServiceError}
    {bad : ServiceError → Store → Prop}
    (refusing : ∀ failure after, UnitAdded service schoolCode before after →
      failing ∨ ¬UnitReady service schoolCode before →
        (refused failure).Ensures (Store.answering failing) bad after) :
    (service.ensureSchool schoolCode refused).Ensures (Store.answering failing)
      (fun _ after => after = service.withUnit schoolCode before) bad before := by
  -- The search for the role changes nothing and decides nothing.
  have asksForRole {after : Store} (added : after = service.withUnit schoolCode before) :
      (service.lookForRole schoolCode refused).Ensures (Store.answering failing)
        (fun _ later => later = service.withUnit schoolCode before) bad after := by
    unfold lookForRole
    simp only [Attempt.ensures_bind, Store.ensures_search]
    refine ⟨fun roles _ => ?_, fun mayFail failure =>
      refusing failure after (.inr added) (.inl mayFail)⟩
    split <;> simpa [Program.ensures_log] using added
  unfold ensureSchool
  simp only [Attempt.ensures_bind, Store.ensures_search]
  refine ⟨fun units finds => ?_, fun mayFail failure =>
    refusing failure before (.inl rfl) (.inl mayFail)⟩
  split
  case isFalse some =>
    have taken : before (service.schoolName schoolCode) ≠ none :=
      finds.base_taken (mt List.isEmpty_iff.mpr some)
    exact asksForRole (with_unit_taken taken).symm
  case isTrue none =>
    obtain rfl := List.isEmpty_iff.mp none
    simp only [Attempt.ensures_bind, Store.ensures_add, Attempt.ensures_lift, Program.ensures_bind,
      Program.ensures_log]
    refine ⟨fun free => ?_, fun mayFail failure => ?_⟩
    · exact Attempt.ensures_bind.mp (asksForRole (with_unit_free free).symm)
    · apply refusing failure before (.inl rfl)
      apply mayFail.imp_right
      exact fun taken ready => taken (finds.free fun record stored => ⟨rfl, ready record stored⟩)

theorem ensures_find_group {refused : DirectoryError → Program ServiceError}
    {good : Option Entry → Store → Prop} {bad : ServiceError → Store → Prop}
    (present : ∀ entry record, IsGroup service.base before schoolCode entry.name record →
      entry.values "member" = record "member" → good (some entry) before)
    (absent : (∀ name record, ¬IsGroup service.base before schoolCode name record) →
      good none before)
    (refusing : failing → ∀ failure,
      (refused failure).Ensures (Store.answering failing) bad before) :
    (service.findGroup (groupId schoolCode) refused).Ensures (Store.answering failing) good bad
      before := by
  unfold findGroup
  simp only [Attempt.ensures_bind, Store.ensures_search, Attempt.ensures_pure]
  exact ⟨fun groups finds => group_found finds (good · before) present absent, refusing⟩

inductive Joined (service : Service) (schoolCode person : String) (before : Store) : Store → Prop
  | member {group : String} {record : Record}
      (isGroup : IsGroup service.base before schoolCode group record)
      (unlisted : person ∉ record "member") :
      Joined service schoolCode person before (update (service.withUnit schoolCode before) group
        (some (update record "member" (record "member" ++ [person]))))
  | group (noGroup : ∀ name record, ¬IsGroup service.base before schoolCode name record)
      (free : before (service.groupName schoolCode) = none) :
      Joined service schoolCode person before (update (service.withUnit schoolCode before)
        (service.groupName schoolCode) (some (groupRecord schoolCode person)))

def Lists (service : Service) (schoolCode person : String) (store : Store) : Prop :=
  ∃ group record, IsGroup service.base store schoolCode group record ∧ person ∈ record "member"

/-- What joining leaves behind when it succeeds; `changed` tells whether the person is new. -/
def JoinEnds (service : Service) (schoolCode person : String) (before : Store) (changed : Bool)
    (after : Store) : Prop :=
  if changed then Joined service schoolCode person before after
  else after = service.withUnit schoolCode before ∧ service.Lists schoolCode person before

def JoinFails (service : Service) (failing : Prop) (schoolCode : String) (before : Store)
    (failure : ServiceError) (after : Store) : Prop :=
  UnitAdded service schoolCode before after ∧ IsJoiningError schoolCode failure ∧
    (failing ∨ ¬UnitReady service schoolCode before ∨ ¬GroupReady service schoolCode before)

theorem ensures_join_once_store :
    (service.joinGroupOnce referrer schoolCode person).Ensures (Store.answering failing)
      (JoinEnds service schoolCode person before) (JoinFails service failing schoolCode before)
      before := by
  have refusing (failure : DirectoryError) (after : Store)
      (added : UnitAdded service schoolCode before after)
      (cause : failing ∨ ¬UnitReady service schoolCode before ∨
        ¬GroupReady service schoolCode before) :
      JoinFails service failing schoolCode before
        (.joinGroup (groupId schoolCode) failure.message) after :=
    ⟨added, rfl, cause⟩
  unfold joinGroupOnce
  simp only [Attempt.ensures_bind]
  refine ensures_bound_store.weaken ?bound ?unbound
  case unbound =>
    intro failure after given
    rcases given with ⟨mayFail, rfl, source, rfl⟩
    exact ⟨.inl rfl, trivial, .inl mayFail⟩
  intro _ _ same
  subst same
  refine (ensures_ensure_school_store fun failure after added cause => ?_).weaken ?_
    fun _ _ failed => failed
  · exact Program.ensures_pure.mpr (refusing failure after added (cause.imp_right .inl))
  -- From here on the school has its unit, whatever becomes of the membership.
  intro _ _ same
  subst same
  refine ensures_find_group (fun entry record present read => ?_) (fun noGroup => ?_)
    fun mayFail failure => Program.ensures_pure.mpr (refusing failure _ (.inr rfl) (.inl mayFail))
  · have isGroup := with_unit_is_group.mp present
    dsimp only
    rw [read]
    split
    case isTrue listed =>
      simp only [Attempt.ensures_bind, Attempt.ensures_lift, Attempt.ensures_pure,
        Program.ensures_log]
      exact ⟨rfl, entry.name, record, isGroup, List.contains_iff_mem.mp listed⟩
    case isFalse absent =>
      have unlisted : person ∉ record "member" := fun listed =>
        absent (List.contains_iff_mem.mpr listed)
      have written := Store.write_modify present.stored (add_member unlisted)
      rw [Attempt.ensures_bind, Store.ensures_carried_out written]
      simp only [Attempt.ensures_bind, Attempt.ensures_lift, Attempt.ensures_pure,
        Program.ensures_bind, Program.ensures_log, Program.ensures_pure]
      exact ⟨fun _ _ => .member isGroup unlisted,
        fun mayFail failure => refusing failure _ (.inr rfl) (.inl mayFail)⟩
  · have noGroup : ∀ name record, ¬IsGroup service.base _ schoolCode name record :=
      fun name record isGroup => noGroup name record (with_unit_is_group.mpr isGroup)
    simp only [Attempt.ensures_bind, Store.ensures_add, Attempt.ensures_lift, Attempt.ensures_pure,
      Program.ensures_bind, Program.ensures_log, Program.ensures_pure,
      UnitAdded.group_name (.inr rfl)]
    refine ⟨fun free => .group noGroup free, fun cause failure => ?_⟩
    refine refusing failure _ (.inr rfl) (cause.imp_right fun taken => .inr fun ready => ?_)
    obtain ⟨record, stored⟩ := Option.ne_none_iff_exists'.mp taken
    exact noGroup _ record (ready record stored)

theorem Joined.after_unit (added : UnitAdded service schoolCode before between)
    (joined : Joined service schoolCode person between after) :
    Joined service schoolCode person before after := by
  cases joined with
  | member isGroup unlisted =>
      rw [added.with_unit]
      exact .member (added.is_group.mp isGroup) unlisted
  | group noGroup free =>
      rw [added.with_unit]
      refine .group (fun name record isGroup =>
        noGroup name record (added.is_group.mpr isGroup)) ?_
      rwa [added.group_name] at free

theorem JoinEnds.after_unit {changed : Bool} (added : UnitAdded service schoolCode before between)
    (ended : JoinEnds service schoolCode person between changed after) :
    JoinEnds service schoolCode person before changed after := by
  cases changed with
  | true => exact Joined.after_unit added ended
  | false =>
      rcases ended with ⟨rfl, group, record, isGroup, listed⟩
      exact ⟨added.with_unit, group, record, added.is_group.mp isGroup, listed⟩

theorem JoinFails.after_unit {failure : ServiceError}
    (added : UnitAdded service schoolCode before between)
    (failed : JoinFails service failing schoolCode between failure after) :
    JoinFails service failing schoolCode before failure after := by
  rcases failed with ⟨addedLater, isJoiningError, cause⟩
  refine ⟨added.trans addedLater, isJoiningError, cause.imp_right ?_⟩
  exact Or.imp (mt added.unit_ready) (mt added.group_ready)

/-- Joining with retries ends as a single attempt does: what the failed attempts leave behind is at
most the unit, which the next attempt finds. -/
theorem ensures_join_store :
    (service.joinGroup referrer schoolCode person).Ensures (Store.answering failing)
      (JoinEnds service schoolCode person before) (JoinFails service failing schoolCode before)
      before := by
  apply RetryPolicy.ensures_retry (UnitAdded service schoolCode before) (.inl rfl)
  intro _ between added
  apply ensures_join_once_store.weaken (fun _ _ ended => ended.after_unit added)
  intro failure after failed
  exact ⟨added.trans failed.1, failed.after_unit added⟩

/-- The stores after a member left: the group of a sole member is deleted. -/
inductive Left (service : Service) (schoolCode person : String) (before : Store) : Store → Prop
  | member {group : String} {record : Record}
      (isGroup : IsGroup service.base before schoolCode group record)
      (listed : person ∈ record "member") (others : (record "member").length ≠ 1) :
      Left service schoolCode person before (update before group
        (some (update record "member" ((record "member").filter (· ≠ person)))))
  | group {group : String} {record : Record}
      (isGroup : IsGroup service.base before schoolCode group record)
      (sole : record "member" = [person]) :
      Left service schoolCode person before (update before group none)

def LeaveFails (service : Service) (failing : Prop) (username schoolCode person : String)
    (before : Store) (failure : ServiceError) (after : Store) : Prop :=
  after = before ∧ match failure with
    | .groupNotFound group => group = groupId schoolCode ∧
        ∀ name record, ¬IsGroup service.base before schoolCode name record
    | .notInGroup user group => user = username ∧ group = groupId schoolCode ∧
        ∃ name record, IsGroup service.base before schoolCode name record ∧
          person ∉ record "member"
    | .leaveGroup group _ => group = groupId schoolCode ∧ failing
    | .bind _ => failing
    | _ => False

theorem ensures_leave_once_store :
    (service.leaveGroupOnce username schoolCode person).Ensures (Store.answering failing)
      (fun changed after => changed = true ∧ Left service schoolCode person before after)
      (LeaveFails service failing username schoolCode person before) before := by
  have refusing (failure : DirectoryError) (mayFail : failing) :
      LeaveFails service failing username schoolCode person before
        (.leaveGroup (groupId schoolCode) failure.message) before :=
    ⟨rfl, rfl, mayFail⟩
  unfold leaveGroupOnce
  simp only [Attempt.ensures_bind]
  refine ensures_bound_store.weaken ?bound ?unbound
  case unbound =>
    intro failure after given
    rcases given with ⟨mayFail, rfl, source, rfl⟩
    exact ⟨rfl, mayFail⟩
  intro _ _ same
  subst same
  refine ensures_find_group (fun entry record isGroup read => ?_) (fun noGroup => ?_)
    fun mayFail failure => ?_
  · dsimp only
    rw [read]
    split
    case isTrue absent =>
      have unlisted : person ∉ record "member" := by simpa using absent
      refine Attempt.ensures_refuse.mpr ⟨rfl, rfl, rfl, entry.name, record, isGroup, unlisted⟩
    case isFalse present =>
      have listed : person ∈ record "member" := by simpa using present
      split
      case isTrue single =>
        obtain ⟨member, alone⟩ := List.length_eq_one_iff.mp single
        have sole : record "member" = [person] := by
          rw [alone, List.mem_singleton] at listed
          rw [alone, listed]
        rw [Attempt.ensures_bind, Store.ensures_carried_out (Store.write_delete isGroup.stored)]
        simp only [Attempt.ensures_bind, Attempt.ensures_lift, Attempt.ensures_pure,
          Program.ensures_bind, Program.ensures_log, Program.ensures_pure]
        exact ⟨fun _ _ => ⟨trivial, .group isGroup sole⟩,
          fun mayFail failure => refusing failure mayFail⟩
      case isFalse others =>
        have written := Store.write_modify isGroup.stored (delete_member listed)
        rw [Attempt.ensures_bind, Store.ensures_carried_out written]
        simp only [Attempt.ensures_bind, Attempt.ensures_lift, Attempt.ensures_pure,
          Program.ensures_bind, Program.ensures_log, Program.ensures_pure]
        exact ⟨fun _ _ => ⟨trivial, .member isGroup listed others⟩,
          fun mayFail failure => refusing failure mayFail⟩
  · exact Attempt.ensures_refuse.mpr ⟨rfl, rfl, noGroup⟩
  · exact Program.ensures_logged.mpr (refusing failure mayFail)

theorem ensures_leave_store :
    (service.leaveGroup username schoolCode person).Ensures (Store.answering failing)
      (fun changed after => changed = true ∧ Left service schoolCode person before after)
      (LeaveFails service failing username schoolCode person before) before :=
  RetryPolicy.ensures_retry_unmoved fun _ => ensures_leave_once_store

end TeacherDirectory.Service
