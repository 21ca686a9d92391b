import Mathlib.Data.Finset.Basic
import TeacherDirectory.Proofs.Directory.Changes
import TeacherDirectory.Proofs.Service.RenamingCalls

/-!
# The member lists of a renamed person

When a person was renamed, every group that the search finds is written once, in the order of the
answer, and whether one of these writes fails makes no difference to the others or to the result. A
list keeps its length and its order, and the new name stands in every place of the old one; sent as a
set, it holds the members other than the old name, and the new one if the old one was listed.
-/

namespace TeacherDirectory

set_option autoImplicit false

namespace Service

open DistinguishedName

section Lists

variable {oldName newName : String} {read written : List String}

/-- A list of members with a new name in the places of an old one, and the set that is sent for it. -/
structure MemberRenamed (oldName newName : String) (read written : List String) : Prop where
  length : written.length = read.length
  kept : ∀ (index : Nat) (member : String), read[index]? = some member → member ≠ oldName →
    written[index]? = some member
  renamed : ∀ index : Nat, read[index]? = some oldName → written[index]? = some newName
  distinct : (Change.replace "member" written).sent.values.Nodup
  members : (Change.replace "member" written).sent.values.toFinset =
    read.toFinset.erase oldName ∪ if oldName ∈ read then {newName} else ∅

theorem mem_rename_member {value : String} :
    value ∈ renameMember oldName newName read ↔
      value ∈ read ∧ value ≠ oldName ∨ value = newName ∧ oldName ∈ read := by
  unfold renameMember
  rw [List.mem_map]
  constructor
  · rintro ⟨member, listed, rfl⟩
    split
    case isTrue same => exact .inr ⟨rfl, same ▸ listed⟩
    case isFalse other => exact .inl ⟨listed, other⟩
  · rintro (⟨listed, other⟩ | ⟨rfl, listed⟩)
    · exact ⟨value, listed, if_neg other⟩
    · exact ⟨oldName, listed, if_pos rfl⟩

theorem member_renamed (oldName newName : String) (read : List String) :
    MemberRenamed oldName newName read (renameMember oldName newName read) where
  length := List.length_map _
  kept := fun index member listed other => by simp [renameMember, listed, other]
  renamed := fun index listed => by simp [renameMember, listed]
  distinct := value_set_nodup _
  members := by
    ext value
    have sent : value ∈ (Change.replace "member" (renameMember oldName newName read)).sent.values ↔
        value ∈ renameMember oldName newName read := mem_value_set
    rw [List.mem_toFinset, sent, mem_rename_member, Finset.mem_union, Finset.mem_erase,
      List.mem_toFinset, and_comm]
    by_cases listed : oldName ∈ read
    · rw [if_pos listed, Finset.mem_singleton, and_iff_left listed]
    · rw [if_neg listed]
      simp [listed]

example : renameMember "a" "b" ["a", "c", "b", "a"] = ["b", "c", "b", "b"] := by decide

theorem MemberRenamed.unique (first : MemberRenamed oldName newName read written) :
    written = renameMember oldName newName read := by
  apply List.ext_getElem?
  intro index
  unfold renameMember
  rw [List.getElem?_map]
  cases place : read[index]? with
  | none =>
      rw [List.getElem?_eq_none_iff] at place
      exact List.getElem?_eq_none (first.length ▸ place)
  | some member =>
      by_cases same : member = oldName
      · subst same
        simpa using first.renamed index place
      · simpa [same] using first.kept index member place same

end Lists

variable {Result : Type} {service : Service} {oldReferrer newReferrer oldName newName : String}
  {groups : List Entry} {group : Entry} {exchange : Exchange} {history : List Exchange}

def IsMemberUpdate (oldName newName : String) (group : Entry) (exchange : Exchange) : Prop :=
  ∃ written, exchange.request = .modify group.name [.replace "member" written] ∧
    MemberRenamed oldName newName (group.values "member") written

def groupsReport (oldReferrer : String) : Nat → String
  | 0 => s!"No groups found for person:{oldReferrer}"
  | count + 1 => s!"Updated member data for {count + 1} groups."

/-- What happens when the groups of a renamed person are updated. A failed search ends it; otherwise
each group is written once and in order, with any answers. -/
inductive UpdatesGroups (service : Service) (oldReferrer newReferrer oldName : String) :
    List Exchange → Except ServiceError String → Prop
  | unsearched (failure : DirectoryError) :
      UpdatesGroups service oldReferrer newReferrer oldName
        [⟨service.memberSearch oldName, .error failure⟩] (.error (.groupSearch oldReferrer))
  | searched {groups : List Entry} {updates : List Exchange}
      (each : List.Forall₂ (IsMemberUpdate oldName (renameUser oldName newReferrer)) groups updates) :
      UpdatesGroups service oldReferrer newReferrer oldName
        (⟨service.memberSearch oldName, .ok groups⟩ :: updates)
        (.ok (groupsReport oldReferrer groups.length))

theorem is_member_update_iff :
    IsMemberUpdate oldName newName group exchange ↔
      ∃ answer, exchange = ⟨.modify group.name
        [.replace "member" (renameMember oldName newName (group.values "member"))], answer⟩ := by
  constructor
  · rintro ⟨written, same, renamed⟩
    obtain ⟨request, answer⟩ := exchange
    obtain rfl : request = _ := same
    obtain rfl := renamed.unique
    exact ⟨answer, rfl⟩
  · rintro ⟨answer, rfl⟩
    exact ⟨_, rfl, member_renamed oldName newName _⟩

/-- Groups are written one after the other, and a failure is counted. The induction is on the groups
that are left. -/
theorem update_groups_yields {failures : Nat} :
    (updateGroups oldName newName groups).Yields history failures ↔
      List.Forall₂ (IsMemberUpdate oldName newName) groups history ∧
        failures = history.countP fun exchange => !exchange.succeeded := by
  induction groups generalizing history failures with
  | nil =>
      unfold updateGroups
      rw [Program.yields_pure, List.forall₂_nil_left_iff]
      constructor
      · rintro ⟨rfl, rfl⟩
        exact ⟨rfl, rfl⟩
      · rintro ⟨rfl, rfl⟩
        exact ⟨rfl, rfl⟩
  | cons group rest induction =>
      unfold updateGroups
      rw [Program.yields_call_bind]
      constructor
      · rintro ⟨answer, later, rfl, further⟩
        have update := is_member_update_iff.mpr ⟨answer, rfl⟩
        cases answer with
        | ok _ =>
            obtain ⟨_, rested, rfl⟩ :=
              Program.yields_bind_pure.mp (Program.yields_log_bind.mp further)
            obtain ⟨each, rfl⟩ := induction.mp rested
            exact ⟨.cons update each, Nat.zero_add _⟩
        | error failure =>
            obtain ⟨_, rested, rfl⟩ :=
              Program.yields_bind_pure.mp (Program.yields_log_bind.mp further)
            obtain ⟨each, rfl⟩ := induction.mp rested
            exact ⟨.cons update each, by rw [List.countP_cons_of_pos rfl, Nat.add_comm]⟩
      · rintro ⟨each, rfl⟩
        obtain ⟨exchange, later, update, further, rfl⟩ := List.forall₂_cons_left_iff.mp each
        obtain ⟨answer, rfl⟩ := is_member_update_iff.mp update
        have rested := induction.mpr ⟨further, rfl⟩
        refine ⟨answer, later, rfl, ?_⟩
        cases answer with
        | ok _ =>
            exact Program.yields_log_bind.mpr
              (Program.yields_bind_pure.mpr ⟨_, rested, (Nat.zero_add _).symm⟩)
        | error failure =>
            exact Program.yields_log_bind.mpr
              (Program.yields_bind_pure.mpr ⟨_, rested, by
                rw [List.countP_cons_of_pos rfl, Nat.add_comm]⟩)

theorem reported_yields {level : LogLevel} {message : String} {fields : List (String × String)}
    {value : Result} {outcome : Except ServiceError Result} :
    (do Program.log level message fields; return value : Attempt Result).run.Yields history
      outcome ↔ history = [] ∧ outcome = .ok value :=
  Attempt.yields_log_bind.trans Attempt.yields_pure

theorem found_groups_yield (service : Service) (oldReferrer newReferrer oldName : String) :
    ∃ (unsearched : DirectoryError → Program ServiceError) (next : List Entry → Attempt String),
      service.renameInGroups oldReferrer newReferrer oldName =
          (do next (← Attempt.call (service.memberSearch oldName) unsearched)) ∧
        (∀ failure later error, (unsearched failure).Yields later error ↔
          later = [] ∧ error = .groupSearch oldReferrer) ∧
        ∀ groups later outcome, (next groups).run.Yields later outcome ↔
          List.Forall₂ (IsMemberUpdate oldName (renameUser oldName newReferrer)) groups later ∧
            outcome = .ok (groupsReport oldReferrer groups.length) := by
  refine ⟨_, _, rfl, fun failure later error => ?_, fun groups later outcome => ?_⟩
  · exact Program.yields_log_bind.trans Program.yields_pure
  · cases groups with
    | nil => exact reported_yields.trans (and_congr_left' List.forall₂_nil_left_iff.symm)
    | cons group rest =>
        refine Attempt.yields_lift_bind.trans ⟨?_, ?_⟩
        · rintro ⟨updates, reporting, failures, rfl, updated, reported⟩
          have ended : reporting = [] ∧
              outcome = .ok (groupsReport oldReferrer (group :: rest).length) := by
            split at reported
            · exact reported_yields.mp (Attempt.yields_log_bind.mp reported)
            · exact reported_yields.mp reported
          obtain ⟨rfl, rfl⟩ := ended
          rw [List.append_nil]
          exact ⟨(update_groups_yields.mp updated).1, rfl⟩
        · rintro ⟨each, rfl⟩
          refine ⟨later, [], _, (List.append_nil later).symm,
            update_groups_yields.mpr ⟨each, rfl⟩, ?_⟩
          split
          · exact Attempt.yields_log_bind.mpr (reported_yields.mpr ⟨rfl, rfl⟩)
          · exact reported_yields.mpr ⟨rfl, rfl⟩

/-- Every group that the search finds is written once and in the order of the answer, whichever of
these writes fail, and nothing else is written; the result tells how many groups were found. Only a
failed search fails, and then nothing was written. -/
theorem found_groups_all_written (service : Service) (oldReferrer newReferrer oldName : String)
    (history : List Exchange) (outcome : Except ServiceError String) :
    (service.renameInGroups oldReferrer newReferrer oldName).run.Yields history outcome ↔
      service.UpdatesGroups oldReferrer newReferrer oldName history outcome := by
  obtain ⟨unsearched, next, same, failing, going⟩ :=
    found_groups_yield service oldReferrer newReferrer oldName
  rw [same, Attempt.yields_call_bind]
  constructor
  · rintro (⟨groups, later, rfl, further⟩ | ⟨failure, later, error, rfl, refused, rfl⟩)
    · obtain ⟨each, rfl⟩ := (going groups later outcome).mp further
      exact .searched each
    · obtain ⟨rfl, rfl⟩ := (failing failure later error).mp refused
      exact .unsearched failure
  · rintro (failure | each)
    · exact .inr ⟨failure, [], _, rfl, (failing failure _ _).mpr ⟨rfl, rfl⟩, rfl⟩
    · exact .inl ⟨_, _, rfl, (going _ _ _).mpr ⟨each, rfl⟩⟩

end Service

end TeacherDirectory
