import Mathlib.Data.Finset.Card
import TeacherDirectory.Proofs.Directory.Catalogue
import TeacherDirectory.Proofs.Service.GroupWrites

/-!
# Memberships over many requests

Joining and leaving groups is seen from outside as changing the map from schools to members: a
request adds a member, takes one away, or leaves the map alone, and its outcome tells which. This
holds for any list of requests, whatever their retry policies are and whichever calls fail, since
the store represents the map again after every request.
-/

namespace TeacherDirectory.Service

set_option autoImplicit false

open Function (update)

/-- A request to change a membership, with a retry policy of its own. -/
inductive Request
  | join (policy : RetryPolicy) (referrer schoolCode person : String)
  | leave (policy : RetryPolicy) (username schoolCode person : String)

namespace Request

def schoolCode : Request → String
  | join _ _ schoolCode _ => schoolCode
  | leave _ _ schoolCode _ => schoolCode

def policy : Request → RetryPolicy
  | join policy _ _ _ => policy
  | leave policy _ _ _ => policy

def service (settings : DirectorySettings) (request : Request) : Service :=
  ⟨settings, request.policy⟩

def perform (settings : DirectorySettings) : Request → Attempt Bool
  | join policy referrer schoolCode person =>
      (Service.mk settings policy).joinGroup referrer schoolCode person
  | leave policy username schoolCode person =>
      (Service.mk settings policy).leaveGroup username schoolCode person

end Request

def serve (settings : DirectorySettings) :
    List Request → Program (List (Except ServiceError Bool))
  | [] => return []
  | request :: rest => do
      let outcome ← (request.perform settings).run
      return outcome :: (← serve settings rest)

namespace Memberships

def after (map : Memberships) : Request → Except ServiceError Bool → Memberships
  | .join _ _ schoolCode person, .ok true => update map schoolCode (insert person (map schoolCode))
  | .leave _ _ schoolCode person, .ok true => update map schoolCode ((map schoolCode).erase person)
  | _, _ => map

/-- What the outcome of a request tells about the members before it. -/
def Tells (map : Memberships) : Request → Except ServiceError Bool → Prop
  | .join _ _ schoolCode person, .ok changed => changed = true ↔ person ∉ map schoolCode
  | .join _ _ schoolCode _, .error failure => IsJoiningError schoolCode failure
  | .leave _ _ schoolCode person, .ok changed => changed = true ∧ person ∈ map schoolCode
  | .leave _ username schoolCode person, .error failure =>
      match failure with
      | .groupNotFound group => group = groupId schoolCode ∧ map schoolCode = ∅
      | .notInGroup user group => user = username ∧ group = groupId schoolCode ∧
          map schoolCode ≠ ∅ ∧ person ∉ map schoolCode
      | .leaveGroup group _ => group = groupId schoolCode
      | .bind _ => True
      | _ => False

end Memberships

def TakesLast (map : Memberships) (request : Request) (outcome : Except ServiceError Bool) : Prop :=
  match request with
  | .join .. => False
  | .leave _ _ schoolCode person => outcome = .ok true ∧ map schoolCode = {person}

/-- What a request changes that changes no membership: joining may create the unit of the school. -/
def Spares (settings : DirectorySettings) (request : Request) (before after : Store) : Prop :=
  match request with
  | .join _ _ schoolCode _ => UnitAdded (request.service settings) schoolCode before after
  | .leave .. => after = before

/-- One request against a store that represents a map: the outcome is right about the map, the
store then represents the map that the outcome tells, and no other entries change. -/
structure Serves (settings : DirectorySettings) (map : Memberships) (request : Request)
    (outcome : Except ServiceError Bool) (before after : Store) : Prop where
  tells : map.Tells request outcome
  represents : Represents settings.base after (map.after request outcome)
  deletes : ∀ name, before name ≠ none → (after name = none ↔
    TakesLast map request outcome ∧
      ∃ record, IsGroup settings.base before request.schoolCode name record)
  keeps : ∀ name, name ≠ (request.service settings).schoolName request.schoolCode →
    (∀ record, ¬IsGroup settings.base before request.schoolCode name record) →
    (∀ record, ¬IsGroup settings.base after request.schoolCode name record) →
      after name = before name
  quiet : outcome ≠ .ok true → Spares settings request before after

section Steps

variable {settings : DirectorySettings} {policy : RetryPolicy} {referrer username schoolCode person
  : String} {map : Memberships} {before after : Store}

theorem Represents.with_unit {base : String} {service : Service}
    (represents : Represents base before map) :
    Represents base (service.withUnit schoolCode before) map :=
  represents.congr with_unit_is_group

theorem with_unit_eq_none {service : Service} {name : String}
    (missing : service.withUnit schoolCode before name = none) : before name = none := by
  by_cases same : name = service.schoolName schoolCode
  · exact (with_unit_present (same ▸ missing)).elim
  · rwa [with_unit_other same] at missing

theorem UnitAdded.serves {outcome : Except ServiceError Bool}
    (added : UnitAdded (Service.mk settings policy) schoolCode before after)
    (represents : Represents settings.base before map)
    (tells : map.Tells (.join policy referrer schoolCode person) outcome)
    (unchanged : outcome ≠ .ok true) :
    Serves settings map (.join policy referrer schoolCode person) outcome before after where
  tells := tells
  represents := by
    have same : map.after (.join policy referrer schoolCode person) outcome = map := by
      rcases outcome with failure | (_ | _)
      · rfl
      · rfl
      · exact (unchanged rfl).elim
    rw [same]
    exact represents.congr added.is_group
  deletes := fun name stored => by
    refine ⟨fun missing => ?_, fun taken => taken.1.elim⟩
    rcases added with rfl | rfl
    · exact (stored missing).elim
    · exact (stored (with_unit_eq_none missing)).elim
  keeps := fun name different _ _ => by
    rcases added with rfl | rfl
    · rfl
    · exact with_unit_other different
  quiet := fun _ => added

theorem serves_joined {group : String} {content : Record}
    (absent : person ∉ map schoolCode) (inside : Within settings.base group)
    (matched : (groupFilter (groupId schoolCode)).Matches content)
    (represents : Represents settings.base
      (update ((Service.mk settings policy).withUnit schoolCode before) group (some content))
      (update map schoolCode (insert person (map schoolCode)))) :
    Serves settings map (.join policy referrer schoolCode person) (.ok true) before
      (update ((Service.mk settings policy).withUnit schoolCode before) group (some content)) where
  tells := iff_of_true rfl absent
  represents := represents
  deletes := fun name stored => by
    refine ⟨fun missing => ?_, fun taken => taken.1.elim⟩
    by_cases same : name = group
    · rw [same, Function.update_self] at missing
      cases missing
    · rw [Function.update_of_ne same] at missing
      exact (stored (with_unit_eq_none missing)).elim
  keeps := fun name different _ noGroup => by
    have apart : name ≠ group := by
      intro equal
      subst equal
      exact noGroup content ⟨Function.update_self _ _ _, inside, matched⟩
    rw [Function.update_of_ne apart]
    exact with_unit_other different
  quiet := fun unchanged => (unchanged rfl).elim

theorem Joined.serves (joined : Joined (Service.mk settings policy) schoolCode person before after)
    (represents : Represents settings.base before map) :
    Serves settings map (.join policy referrer schoolCode person) (.ok true) before after := by
  have extended : Represents settings.base
      ((Service.mk settings policy).withUnit schoolCode before) map := represents.with_unit
  cases joined with
  | @member group record isGroup unlisted =>
      have inExtended : IsGroup settings.base
          ((Service.mk settings policy).withUnit schoolCode before) schoolCode group record :=
        with_unit_is_group.mpr isGroup
      have members : (record "member" ++ [person]).toFinset = insert person (map schoolCode) := by
        rw [← represents.members isGroup]
        ext member
        simp
      have distinct : (record "member" ++ [person]).Nodup := by
        rw [← List.concat_eq_append]
        exact (represents.distinct isGroup).concat unlisted
      apply serves_joined (mt (represents.mem_iff isGroup).mp unlisted) isGroup.inside
        (group_matches_members.mpr isGroup.matched)
      rw [← members]
      exact extended.setMembers inExtended (List.concat_ne_nil _ _) distinct
  | group noGroup free =>
      have empty : map schoolCode = ∅ := represents.absent noGroup
      have inside := @group_name_within (Service.mk settings policy) schoolCode
      apply serves_joined (empty ▸ Finset.notMem_empty person) inside
        (group_record_matches.mpr rfl)
      rw [empty, insert_empty_eq]
      refine extended.createGroup inside ?_ fun name record isGroup =>
        noGroup name record (with_unit_is_group.mp isGroup)
      rw [UnitAdded.group_name (.inr rfl), free]

theorem serves_left {group : String} {record : Record} {content : Option Record}
    (represents : Represents settings.base before map)
    (isGroup : IsGroup settings.base before schoolCode group record)
    (listed : person ∈ record "member")
    (deleted : content = none ↔ map schoolCode = {person})
    (represented : Represents settings.base (update before group content)
      (update map schoolCode ((map schoolCode).erase person))) :
    Serves settings map (.leave policy username schoolCode person) (.ok true) before
      (update before group content) where
  tells := ⟨rfl, (represents.mem_iff isGroup).mpr listed⟩
  represents := represented
  deletes := fun name stored => by
    constructor
    · intro missing
      by_cases same : name = group
      · subst same
        rw [Function.update_self] at missing
        exact ⟨⟨rfl, deleted.mp missing⟩, record, isGroup⟩
      · rw [Function.update_of_ne same] at missing
        exact (stored missing).elim
    · intro given
      rcases given with ⟨⟨-, alone⟩, other, isOther⟩
      rw [represents.single isOther isGroup, Function.update_self]
      exact deleted.mpr alone
  keeps := fun name _ noGroup _ => by
    refine Function.update_of_ne (fun equal => ?_) _ _
    subst equal
    exact noGroup record isGroup
  quiet := fun unchanged => (unchanged rfl).elim

theorem Left.serves (left : Left (Service.mk settings policy) schoolCode person before after)
    (represents : Represents settings.base before map) :
    Serves settings map (.leave policy username schoolCode person) (.ok true) before after := by
  cases left with
  | @member group record isGroup listed others =>
      have inMap : person ∈ map schoolCode := (represents.mem_iff isGroup).mpr listed
      -- Members are listed once, so the list has another entry only if there is another member.
      have several : map schoolCode ≠ {person} := by
        intro sole
        rw [← represents.members isGroup] at sole
        have counted := List.toFinset_card_of_nodup (represents.distinct isGroup)
        rw [sole, Finset.card_singleton] at counted
        exact others counted.symm
      have members : ((record "member").filter (· ≠ person)).toFinset =
          (map schoolCode).erase person := by
        rw [← represents.members isGroup]
        ext member
        simp [and_comm]
      have nonempty : (record "member").filter (· ≠ person) ≠ [] := by
        intro none
        rw [none, List.toFinset_nil] at members
        rcases (Finset.erase_eq_empty_iff _ _).mp members.symm with empty | sole
        · exact Finset.ne_empty_of_mem inMap empty
        · exact several sole
      apply serves_left represents isGroup listed (iff_of_false (Option.some_ne_none _) several)
      rw [← members]
      exact represents.setMembers isGroup nonempty ((represents.distinct isGroup).filter _)
  | @group group record isGroup sole =>
      have alone : map schoolCode = {person} := by
        rw [← represents.members isGroup, sole]
        rfl
      have listed : person ∈ record "member" := by
        rw [sole]
        exact List.mem_singleton_self person
      apply serves_left represents isGroup listed (iff_of_true rfl alone)
      rw [alone, Finset.erase_singleton]
      exact represents.removeGroup isGroup

theorem LeaveFails.serves {failure : ServiceError} {failing : Prop}
    (failed : LeaveFails (Service.mk settings policy) failing username schoolCode person before
      failure after)
    (represents : Represents settings.base before map) :
    Serves settings map (.leave policy username schoolCode person) (.error failure) before
      after := by
  rcases failed with ⟨rfl, cause⟩
  refine ⟨?_, represents, fun name stored => ⟨fun missing => (stored missing).elim, ?_⟩,
    fun _ _ _ _ => rfl, fun _ => rfl⟩
  · cases failure with
    | groupNotFound group => exact ⟨cause.1, represents.absent cause.2⟩
    | notInGroup user group =>
        rcases cause with ⟨sameUser, sameGroup, name, record, isGroup, unlisted⟩
        exact ⟨sameUser, sameGroup, represents.exists_group.mpr ⟨name, record, isGroup⟩,
          mt (represents.mem_iff isGroup).mp unlisted⟩
    | leaveGroup group _ => exact cause.1
    | bind _ => trivial
    | _ => exact cause.elim
  · intro given
    rcases given with ⟨⟨impossible, -⟩, -⟩
    cases impossible

end Steps

end TeacherDirectory.Service
