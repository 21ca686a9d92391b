import TeacherDirectory.Proofs.Service.GroupWrites
import TeacherDirectory.Proofs.Service.RepeatedWrites

/-!
# Joining a group again

Joining writes twice at most, the unit of the school and then the membership, and either answer may be
lost. An attempt after a lost unit finds the unit. One after a lost membership finds the person in
the group and leaves it alone. So the store is the one that a single attempt with all answers leads to.
-/

namespace TeacherDirectory.Service

set_option autoImplicit false

open Journal
open Function (update)

variable {service : Service} {referrer schoolCode person : String} {start later : Store}
  {before : Journal} {changed : Bool}

section Stores

/-- Nothing is in the way of the unit of a school, nor of the group of a school that has none. -/
structure Joinable (service : Service) (schoolCode : String) (store : Store) : Prop where
  unit : UnitReady service schoolCode store
  place : (∀ name record, ¬IsGroup service.base store schoolCode name record) →
    store (service.groupName schoolCode) = none

theorem UnitAdded.joinable (added : UnitAdded service schoolCode start later) :
    Joinable service schoolCode later ↔ Joinable service schoolCode start := by
  have place : ((∀ name record, ¬IsGroup service.base later schoolCode name record) →
        later (service.groupName schoolCode) = none) ↔
      ((∀ name record, ¬IsGroup service.base start schoolCode name record) →
        start (service.groupName schoolCode) = none) := by
    simp only [added.is_group, added.group_name]
  have unit : UnitReady service schoolCode later → UnitReady service schoolCode start := by
    intro ready record stored
    have kept : later = start := by
      rcases added with same | rfl
      · exact same
      · exact with_unit_taken (stored ▸ Option.some_ne_none record)
    exact ready record (kept ▸ stored)
  exact ⟨fun joinable => ⟨unit joinable.unit, place.mp joinable.place⟩,
    fun joinable => ⟨added.unit_ready joinable.unit, place.mpr joinable.place⟩⟩

structure Member (service : Service) (schoolCode person : String) (store : Store) : Prop where
  unit : UnitReady service schoolCode store
  ready : service.withUnit schoolCode store = store
  exist : ∃ name record, IsGroup service.base store schoolCode name record
  listed : ∀ name record, IsGroup service.base store schoolCode name record →
    person ∈ record "member"

/-- Putting the one group of a school in its place makes those members whom it lists. -/
theorem member_of_group {name : String} {record : Record}
    (isGroup : IsGroup service.base (update start name (some record)) schoolCode name record)
    (only : ∀ other content, IsGroup service.base start schoolCode other content → other = name)
    (unit : UnitReady service schoolCode (update start name (some record)))
    (present : start (service.schoolName schoolCode) ≠ none) (listed : person ∈ record "member") :
    Member service schoolCode person (update start name (some record)) where
  unit := unit
  ready := with_unit_taken (Store.update_keeps _ present)
  exist := ⟨name, record, isGroup⟩
  listed := fun other content found => by
    rcases is_group_set.mp found with ⟨-, same, -⟩ | ⟨different, earlier⟩
    · exact Option.some.inj same ▸ listed
    · exact (different (only other content earlier)).elim

theorem Joined.is_member (joined : Joined service schoolCode person start later)
    (one : OneGroup service.base schoolCode start) (unit : UnitReady service schoolCode start) :
    Member service schoolCode person later := by
  have extended : UnitReady service schoolCode (service.withUnit schoolCode start) :=
    UnitAdded.unit_ready (.inr rfl) unit
  cases joined with
  | @member name record isGroup unlisted =>
      have inExtended : IsGroup service.base (service.withUnit schoolCode start) schoolCode name
          record := with_unit_is_group.mpr isGroup
      refine member_of_group ?_ (fun other content found => ?_) (extended.members inExtended.stored)
        with_unit_present ?_
      · exact is_group_set.mpr
          (.inl ⟨rfl, rfl, isGroup.inside, group_matches_members.mpr isGroup.matched⟩)
      · exact one (with_unit_is_group.mp found) isGroup
      · rw [Function.update_self]
        exact List.mem_append_right _ (List.mem_singleton.mpr rfl)
  | group noGroup free =>
      refine member_of_group ?_ (fun other content found => ?_) (fun record stored => ?_)
        with_unit_present ?_
      · exact is_group_set.mpr (.inl ⟨rfl, rfl, group_name_within, group_record_matches.mpr rfl⟩)
      · exact (noGroup other content (with_unit_is_group.mp found)).elim
      · rw [Function.update_of_ne school_name_ne_group] at stored
        exact extended record stored
      · rw [group_record_values.2.2]
        exact List.mem_singleton.mpr rfl

theorem Member.joinable (isMember : Member service schoolCode person start) :
    Joinable service schoolCode start := by
  refine ⟨isMember.unit, fun none => ?_⟩
  obtain ⟨name, record, isGroup⟩ := isMember.exist
  exact (none name record isGroup).elim

theorem Member.not_joined (isMember : Member service schoolCode person start) :
    ¬Joined service schoolCode person start later := by
  intro joined
  cases joined with
  | member isGroup unlisted => exact unlisted (isMember.listed _ _ isGroup)
  | group noGroup free =>
      obtain ⟨name, record, isGroup⟩ := isMember.exist
      exact noGroup name record isGroup

theorem Member.join_ends (isMember : Member service schoolCode person start)
    (ended : JoinEnds service schoolCode person start changed later) : later = start := by
  cases changed with
  | true => exact (isMember.not_joined ended).elim
  | false => exact ended.1.trans isMember.ready

theorem JoinEnds.unique {other : Store} {otherwise : Bool}
    (one : OneGroup service.base schoolCode start)
    (first : JoinEnds service schoolCode person start changed later)
    (second : JoinEnds service schoolCode person start otherwise other) : later = other := by
  have unlisted {after : Store} (joined : Joined service schoolCode person start after) :
      ¬service.Lists schoolCode person start := by
    rintro ⟨name, record, isGroup, listed⟩
    cases joined with
    | member found absent =>
        obtain rfl := one isGroup found
        obtain rfl := Option.some.inj (isGroup.stored.symm.trans found.stored)
        exact absent listed
    | group noGroup free => exact noGroup name record isGroup
  cases changed with
  | false =>
      cases otherwise with
      | false => exact first.1.trans second.1.symm
      | true => exact (unlisted second first.2).elim
  | true =>
      cases otherwise with
      | false => exact (unlisted first second.2).elim
      | true =>
          cases first with
          | member isGroup absent =>
              cases second with
              | member found _ =>
                  obtain rfl := one isGroup found
                  obtain rfl := Option.some.inj (isGroup.stored.symm.trans found.stored)
                  rfl
              | group noGroup _ => exact (noGroup _ _ isGroup).elim
          | group noGroup free =>
              cases second with
              | member found _ => exact (noGroup _ _ found).elim
              | group _ _ => rfl

theorem Joinable.ends (joinable : Joinable service schoolCode start) :
    ∃ changed later, JoinEnds service schoolCode person start changed later := by
  by_cases found : ∃ name record, IsGroup service.base start schoolCode name record
  · rcases found with ⟨name, record, isGroup⟩
    by_cases listed : person ∈ record "member"
    · exact ⟨false, _, rfl, name, record, isGroup, listed⟩
    · exact ⟨true, _, .member isGroup listed⟩
  · push Not at found
    exact ⟨true, _, .group found (joinable.place found)⟩

end Stores

section Attempts

variable {refused : DirectoryError → Program ServiceError} {bad : ServiceError → Journal → Prop}

theorem ensures_unit_silence
    (onRefusal : ¬UnitReady service schoolCode before.store → ∀ failure,
      (refused failure).Ensures silence bad before)
    (onLoss : ∀ failure after, before.Silenced after →
      after.store = service.withUnit schoolCode before.store →
      (refused failure).Ensures silence bad after) :
    (service.ensureSchool schoolCode refused).Ensures silence
      (fun _ after => UnitReady service schoolCode before.store ∧
        after = ⟨service.withUnit schoolCode before.store, before.losses⟩) bad before := by
  -- The search for the role cannot be lost and decides nothing.
  have asksForRole {after : Journal} (ready : UnitReady service schoolCode before.store)
      (added : after = ⟨service.withUnit schoolCode before.store, before.losses⟩) :
      (service.lookForRole schoolCode refused).Ensures silence
        (fun _ last => UnitReady service schoolCode before.store ∧
          last = ⟨service.withUnit schoolCode before.store, before.losses⟩) bad after := by
    unfold lookForRole
    rw [Attempt.ensures_bind]
    refine ensures_search (fun roles _ => ?_) fun _ _ => Stumbles.not_silent
    split <;> simpa [Program.ensures_log] using ⟨ready, added⟩
  unfold ensureSchool
  rw [Attempt.ensures_bind]
  refine ensures_search (fun units finds => ?_) fun _ _ => Stumbles.not_silent
  split
  case isFalse some =>
    have nonempty : units ≠ [] := mt List.isEmpty_iff.mpr some
    have ready : UnitReady service schoolCode before.store := by
      intro record stored
      obtain ⟨content, found, matched⟩ := finds.base_matched nonempty
      exact Option.some.inj (found.symm.trans stored) ▸ matched
    refine asksForRole ready ?_
    rw [with_unit_taken (finds.base_taken nonempty)]
  case isTrue none =>
    obtain rfl := List.isEmpty_iff.mp none
    rw [Attempt.ensures_bind]
    by_cases free : before.store (service.schoolName schoolCode) = Option.none
    · have ready : UnitReady service schoolCode before.store := by
        intro record stored
        rw [free] at stored
        cases stored
      refine ensures_write_silence (Store.write_add free) (fun _ => ?_)
        fun failure after silenced written => ?_
      · simp only [Attempt.ensures_bind, Attempt.ensures_lift, Program.ensures_log]
        exact Attempt.ensures_bind.mp (asksForRole ready (by rw [with_unit_free free]; rfl))
      · rw [Program.ensures_bind, Program.ensures_log]
        exact onLoss failure after silenced (written.trans (with_unit_free free).symm)
    · refine ensures_refused_silence (Store.write_add_taken free) fun failure => ?_
      rw [Program.ensures_bind, Program.ensures_log]
      exact onRefusal (fun ready => free (finds.free fun record stored =>
        ⟨rfl, ready record stored⟩)) failure

theorem ensures_group_silence {good : Option Entry → Journal → Prop}
    (present : ∀ entry record, IsGroup service.base before.store schoolCode entry.name record →
      entry.values "member" = record "member" → good (some entry) before)
    (absent : (∀ name record, ¬IsGroup service.base before.store schoolCode name record) →
      good none before) :
    (service.findGroup (groupId schoolCode) refused).Ensures silence good bad before := by
  unfold findGroup
  rw [Attempt.ensures_bind]
  exact ensures_search (fun _ finds => Attempt.ensures_pure.mpr
    (group_found finds (good · before) present absent)) fun _ _ => Stumbles.not_silent

/-- What a failed attempt to join leaves behind. If nothing is in the way, it has written the unit or
the membership and was not told. -/
structure JoinStops (service : Service) (schoolCode person : String) (before after : Journal) :
    Prop where
  silenced : Joinable service schoolCode before.store → before.Silenced after
  left : UnitAdded service schoolCode before.store after.store ∨
    (Joinable service schoolCode before.store ∧
      Joined service schoolCode person before.store after.store)

theorem ensures_join_once_silence :
    (service.joinGroupOnce referrer schoolCode person).Ensures silence
      (fun changed after => Joinable service schoolCode before.store ∧
        JoinEnds service schoolCode person before.store changed after.store)
      (fun _ after => JoinStops service schoolCode person before after) before := by
  unfold joinGroupOnce
  simp only [Attempt.ensures_bind]
  refine ensures_bound_losing.weaken ?_ fun _ _ => Stumbles.not_silent
  intro _ after same
  subst after
  refine (ensures_unit_silence (fun blocked failure => ?_) fun failure after silenced written => ?_).weaken
    ?_ fun _ _ failed => failed
  · exact Program.ensures_pure.mpr ⟨fun joinable => (blocked joinable.unit).elim, .inl (.inl rfl)⟩
  · exact Program.ensures_pure.mpr ⟨fun _ => silenced, .inl (.inr written)⟩
  rintro _ _ ⟨unit, rfl⟩
  refine ensures_group_silence (fun entry record present read => ?_) fun noGroup => ?_
  · have isGroup := with_unit_is_group.mp present
    have joinable : Joinable service schoolCode before.store :=
      ⟨unit, fun none => (none _ _ isGroup).elim⟩
    dsimp only
    rw [read]
    split
    case isTrue listed =>
      simp only [Attempt.ensures_bind, Attempt.ensures_lift, Attempt.ensures_pure,
        Program.ensures_log]
      exact ⟨joinable, rfl, entry.name, record, isGroup, List.contains_iff_mem.mp listed⟩
    case isFalse absent =>
      have unlisted : person ∉ record "member" := fun listed =>
        absent (List.contains_iff_mem.mpr listed)
      have joined := Joined.member isGroup unlisted
      rw [Attempt.ensures_bind]
      refine ensures_write_silence (Store.write_modify present.stored (add_member unlisted))
        (fun _ => ?_) fun failure after silenced written => ?_
      · simp only [Attempt.ensures_bind, Attempt.ensures_lift, Attempt.ensures_pure,
          Program.ensures_log]
        exact ⟨joinable, joined⟩
      · exact Program.ensures_logged.mpr
          ⟨fun _ => silenced, .inr ⟨joinable, written ▸ joined⟩⟩
  · have noGroup : ∀ name record, ¬IsGroup service.base before.store schoolCode name record :=
      fun name record isGroup => noGroup name record (with_unit_is_group.mpr isGroup)
    have place := UnitAdded.group_name (.inr rfl : UnitAdded service schoolCode before.store _)
    rw [Attempt.ensures_bind]
    by_cases free : before.store (service.groupName schoolCode) = none
    · have joined : Joined service schoolCode person before.store _ := .group noGroup free
      refine ensures_write_silence (Store.write_add (place.trans free)) (fun _ => ?_)
        fun failure after silenced written => ?_
      · simp only [Attempt.ensures_bind, Attempt.ensures_lift, Attempt.ensures_pure,
          Program.ensures_log]
        exact ⟨⟨unit, fun _ => free⟩, joined⟩
      · exact Program.ensures_logged.mpr
          ⟨fun _ => silenced, .inr ⟨⟨unit, fun _ => free⟩, written ▸ joined⟩⟩
    · refine ensures_refused_silence (Store.write_add_taken (place ▸ free)) fun failure =>
        Program.ensures_logged.mpr ⟨fun joinable => (free (joinable.place noGroup)).elim,
          .inl (.inr rfl)⟩

/-- Between attempts to join, the school has got its unit or not, or the person is a member. -/
inductive JoinPending (service : Service) (schoolCode person : String) (start target : Store) :
    Store → Prop
  | prepared {store : Store} (added : UnitAdded service schoolCode start store) :
      JoinPending service schoolCode person start target store
  | joined (isMember : Member service schoolCode person target) :
      JoinPending service schoolCode person start target target

variable {target : Store}

theorem ensures_join_prepared (one : OneGroup service.base schoolCode start)
    (joinable : Joinable service schoolCode start)
    (ends : JoinEnds service schoolCode person start changed target)
    (added : UnitAdded service schoolCode start before.store) :
    (service.joinGroupOnce referrer schoolCode person).Ensures silence
      (fun _ after => after.store = target)
      (fun _ after => before.Silenced after ∧
        JoinPending service schoolCode person start target after.store) before := by
  have reached {store : Store} {changed : Bool}
      (ended : JoinEnds service schoolCode person before.store changed store) : store = target :=
    (ended.after_unit added).unique one ends
  refine ensures_join_once_silence.weaken (fun _ _ ended => reached ended.2) fun _ after stopped => ?_
  refine ⟨stopped.silenced (added.joinable.mpr joinable), ?_⟩
  rcases stopped.left with further | ⟨-, joined⟩
  · exact .prepared (added.trans further)
  · have asNew : JoinEnds service schoolCode person before.store true after.store := joined
    have same := reached asNew
    have isMember := (joined.after_unit added).is_member one joinable.unit
    rw [same] at isMember ⊢
    exact .joined isMember

theorem membership_reached (isMember : Member service schoolCode person before.store) :
    Reaches (service.joinGroupOnce referrer schoolCode person) before.store before := by
  refine ensures_join_once_silence.weaken (fun _ _ again => isMember.join_ends again.2)
    fun _ after stopped => ⟨stopped.silenced isMember.joinable, ?_⟩
  rcases stopped.left with (same | extended) | ⟨-, joined⟩
  · exact same
  · exact extended.trans isMember.ready
  · exact (isMember.not_joined joined).elim

theorem converges_join (one : OneGroup service.base schoolCode start)
    (retries : 1 ≤ service.policy.maxRetries.toNat) :
    Converges (service.joinGroup referrer schoolCode person) start IsConstant := by
  unfold joinGroup
  by_cases joinable : Joinable service schoolCode start
  · obtain ⟨changed, target, ends⟩ :
        ∃ changed target, JoinEnds service schoolCode person start changed target := joinable.ends
    refine converges_to target (ensures_repeated (fun _ store => store = target)
      (JoinPending service schoolCode person start target) retries (.prepared (.inl rfl)) ?_)
    rintro ⟨store, losses⟩ (added | isMember)
    · exact ensures_join_prepared one joinable ends added
    · refine (membership_reached isMember).weaken (fun _ _ same => same) fun _ after lost => ?_
      rw [lost.2]
      exact ⟨lost.1, .joined isMember⟩
  · refine .inr (ensures_blocked (UnitAdded service schoolCode start) (.inl rfl) fun before added => ?_)
    refine ensures_join_once_silence.weaken
      (fun _ _ ended => joinable (added.joinable.mp ended.1)) fun _ after stopped => ?_
    rcases stopped.left with further | ⟨possible, -⟩
    · exact added.trans further
    · exact (joinable (added.joinable.mp possible)).elim

end Attempts

end TeacherDirectory.Service
