import TeacherDirectory.Proofs.Directory.Store
import TeacherDirectory.Proofs.Retry.Invariant
import TeacherDirectory.Proofs.Service.BasicCalls
import TeacherDirectory.Service.Attributes

/-!
# Calls that change names

An attempt to change names looks for the username, replaces the names and, for a new username,
renames the entry as its last call; until then no rename is carried out. What follows a rename looks
for the groups that list the old name. The first answer to that search ends the retries, because the
groups are then written one after the other and a failure of one of them stops nothing.
-/

namespace TeacherDirectory

set_option autoImplicit false

def Call.isRename : Call → Bool
  | .rename .. => true
  | _ => false

/-- A search whose filter, as it is read from its text, asserts just this value of an attribute. -/
def Call.Asks (request : Call) (type value : String) : Prop :=
  ∃ base scope filter names, request = .search base scope filter names ∧
    Filter.read? filter.render = some (.equal type (Text.encode value))

def Exchange.renamed (exchange : Exchange) : Bool :=
  exchange.request.isRename && exchange.succeeded

theorem Exchange.not_renamed {exchange : Exchange} (other : exchange.request.isRename = false) :
    exchange.renamed = false := by
  unfold renamed
  rw [other, Bool.false_and]

/-- Whatever characters a value holds, a filter for it asserts this value and no other. -/
theorem asks_equal {base asserted value type other : String} {scope : SearchScope}
    {names : List String} (isName : Filter.IsName asserted) :
    (Call.search base scope (.equal asserted value) names).Asks type other ↔
      type = asserted ∧ other = value := by
  have read : Filter.read? (Filter.equal asserted value).render =
      some (.equal asserted (Text.encode value)) :=
    Filter.read_render (show (Filter.equal asserted value).WellNamed from isName)
  constructor
  · intro given
    rcases given with ⟨_, _, filter, _, same, asserts⟩
    cases same
    rw [read] at asserts
    obtain ⟨typeSame, valueSame⟩ := Filter.equal.inj (Option.some.inj asserts)
    exact ⟨typeSame.symm, Text.encode_injective valueSame.symm⟩
  · intro given
    rcases given with ⟨rfl, rfl⟩
    exact ⟨base, scope, _, names, rfl, read⟩

namespace Service

open DistinguishedName

def memberSearch (service : Service) (name : String) : Call :=
  .search service.base .subtree (.byMember name) ["member"]

def memberUpdate (name leaf : String) (group : Entry) : Call :=
  .modify group.name [.replace "member" ((group.values "member").map fun member =>
    if member = name then Store.movedName name leaf else member)]

theorem user_search_asks {base username type value : String} {names : List String} :
    (userSearch base username names).Asks type value ↔ type = "uid" ∧ value = username :=
  asks_equal (by decide +kernel)

theorem member_search_asks {service : Service} {name type value : String} :
    (service.memberSearch name).Asks type value ↔ type = "member" ∧ value = name :=
  asks_equal (by decide +kernel)

theorem not_asks {request : Call} {type value : String}
    (noSearch : ∀ base scope filter names, request ≠ .search base scope filter names) :
    ¬request.Asks type value := by
  intro given
  rcases given with ⟨base, scope, filter, names, same, -⟩
  exact noSearch base scope filter names same

section Naming

variable (service : Service) (username : String) (givenName surname newUsername : Option String)

def IsNamingCall : Call → Prop
  | .connect => True
  | .bind .. => True
  | .search base scope filter names =>
      Call.search base scope filter names = userSearch service.base username []
  | .modify _ changes =>
      changes = nameChanges givenName surname newUsername ∧ changes ≠ []
  | .rename _ leaf => ∃ new, newUsername = some new ∧ leaf = userComponent new
  | _ => False

def IsNaming (exchange : Exchange) : Prop :=
  service.IsNamingCall username givenName surname newUsername exchange.request ∧
    exchange.renamed = false

def Naming (history : List Exchange) : Prop :=
  ∀ exchange ∈ history, service.IsNaming username givenName surname newUsername exchange

/-- The rename of this name was carried out as the last call. -/
def RenamedLast (name : String) (history : List Exchange) : Prop :=
  ∃ earlier new, newUsername = some new ∧
    service.Naming username givenName surname newUsername earlier ∧
    history = earlier ++ [⟨.rename name (userComponent new), .ok ()⟩]

variable {service username givenName surname newUsername} {history : List Exchange}

theorem naming_nil : service.Naming username givenName surname newUsername [] :=
  List.forall_mem_nil _

theorem Naming.snoc {exchange : Exchange}
    (naming : service.Naming username givenName surname newUsername history)
    (next : service.IsNaming username givenName surname newUsername exchange) :
    service.Naming username givenName surname newUsername (history ++ [exchange]) :=
  List.forall_mem_append.mpr ⟨naming, List.forall_mem_singleton.mpr next⟩

theorem ensures_modify_once
    (naming : service.Naming username givenName surname newUsername history) :
    (service.modifyAttributesOnce username givenName surname newUsername).Ensures CallRule.recording
      (fun renamed after =>
        match renamed with
        | none => newUsername = none ∧ service.Naming username givenName surname newUsername after
        | some name => service.RenamedLast username givenName surname newUsername name after)
      (fun _ => service.Naming username givenName surname newUsername) history := by
  unfold modifyAttributesOnce
  rw [Attempt.ensures_bind]
  refine (ensures_opened (fun _ _ earlier => earlier.snoc ⟨trivial, rfl⟩)
    (fun _ _ _ _ earlier => earlier.snoc ⟨trivial, rfl⟩) naming).weaken (fun _ opened ready => ?_)
    fun _ _ failed => failed.1
  rw [Attempt.ensures_bind, ensures_require_person]
  have searched (answer : (userSearch service.base username []).Answer) :
      service.Naming username givenName surname newUsername
        (opened ++ [⟨userSearch service.base username [], answer⟩]) := ready.snoc ⟨rfl, rfl⟩
  refine ⟨fun entry rest => ?_, searched _, fun _ => searched _⟩
  dsimp only
  split
  case isTrue nothing =>
    simp only [Attempt.ensures_bind, Attempt.ensures_lift, Attempt.ensures_pure,
      Program.ensures_log]
    have noneGiven : newUsername = none ∧ givenName = none ∧ surname = none := by
      simpa [nameChanges] using nothing
    exact ⟨noneGiven.1, searched _⟩
  case isFalse given =>
    have changes : nameChanges givenName surname newUsername ≠ [] := by simpa using given
    have replaced (answer : (Call.modify entry.name
        (nameChanges givenName surname newUsername)).Answer) :
        service.Naming username givenName surname newUsername
          (opened ++ [⟨userSearch service.base username [], .ok (entry :: rest)⟩] ++
            [⟨.modify entry.name (nameChanges givenName surname newUsername), answer⟩]) :=
      (searched _).snoc ⟨⟨rfl, changes⟩, rfl⟩
    rw [Attempt.ensures_bind, Attempt.ensures_call_recorded]
    refine ⟨fun _ => ?_, fun _ => Program.ensures_pure.mpr (replaced _)⟩
    rw [Attempt.ensures_bind, Attempt.ensures_lift, Program.ensures_log]
    cases newUsername with
    | none => exact Attempt.ensures_pure.mpr ⟨rfl, replaced _⟩
    | some new =>
        dsimp only
        simp only [Attempt.ensures_bind, Attempt.ensures_call_recorded, Attempt.ensures_lift,
          Attempt.ensures_pure, Program.ensures_log, Program.ensures_pure]
        exact ⟨fun _ => ⟨_, new, rfl, replaced _, rfl⟩,
          fun _ => (replaced _).snoc ⟨⟨new, rfl, rfl⟩, rfl⟩⟩

end Naming

section Following

variable (service : Service) (name : String)

def IsFollowing (exchange : Exchange) : Prop :=
  match exchange.request with
  | .connect => True
  | .bind .. => True
  | .search base scope filter names =>
      Call.search base scope filter names = service.memberSearch name ∧ exchange.succeeded = false
  | _ => False

def Following (history : List Exchange) : Prop :=
  ∀ exchange ∈ history, service.IsFollowing name exchange

def GroupsWritten (leaf : String) (history : List Exchange) : Prop :=
  ∃ searching groups updates,
    history = searching ++ ⟨service.memberSearch name, .ok groups⟩ :: updates ∧
    service.Following name searching ∧
    updates.map Exchange.request = groups.map (memberUpdate name leaf)

variable {service name} {username leaf new : String} {history : List Exchange}

theorem following_nil : service.Following name [] := List.forall_mem_nil _

theorem Following.snoc {exchange : Exchange} (following : service.Following name history)
    (next : service.IsFollowing name exchange) :
    service.Following name (history ++ [exchange]) :=
  List.forall_mem_append.mpr ⟨following, List.forall_mem_singleton.mpr next⟩

/-- The induction is on the groups that are still to be written. -/
theorem ensures_update_groups {groups : List Entry} :
    (updateGroups name (renameUser name new) groups).Ensures CallRule.recording
      (fun _ after => ∃ updates, after = history ++ updates ∧
        updates.map Exchange.request = groups.map (memberUpdate name (userComponent new)))
      history := by
  induction groups generalizing history with
  | nil => exact Program.ensures_pure.mpr ⟨[], (List.append_nil history).symm, rfl⟩
  | cons group rest induction =>
      unfold updateGroups
      rw [Program.ensures_bind, Program.ensures_call]
      intro answer after same
      obtain rfl : after = _ := same
      have rested : (updateGroups name (renameUser name new) rest).Ensures CallRule.recording
          (fun _ after => ∃ updates, after = history ++ updates ∧ updates.map Exchange.request =
            (group :: rest).map (memberUpdate name (userComponent new)))
          (history ++ [⟨memberUpdate name (userComponent new) group, answer⟩]) := by
        refine induction.weaken fun _ after written => ?_
        rcases written with ⟨updates, rfl, requests⟩
        exact ⟨_ :: updates, List.append_assoc history [_] updates, congrArg (_ :: ·) requests⟩
      cases answer with
      | ok _ =>
          simp only [Program.ensures_bind, Program.ensures_log, Program.ensures_pure]
          exact rested
      | error failure =>
          simp only [Program.ensures_bind, Program.ensures_log, Program.ensures_pure]
          exact rested

theorem ensures_rename_in_groups (following : service.Following name history) :
    (service.renameInGroupsOnce username new name).Ensures CallRule.recording
      (fun _ => service.GroupsWritten name (userComponent new))
      (fun _ => service.Following name) history := by
  unfold renameInGroupsOnce renameInGroups
  rw [Attempt.ensures_bind]
  refine (ensures_opened (fun _ _ earlier => earlier.snoc trivial)
    (fun _ _ _ _ earlier => earlier.snoc trivial) following).weaken (fun _ opened ready => ?_)
    fun _ _ failed => failed.1
  rw [Attempt.ensures_bind, Attempt.ensures_call_recorded]
  refine ⟨fun groups => ?_, fun failure => ?_⟩
  · dsimp only
    split
    case isTrue none =>
      obtain rfl : groups = [] := List.isEmpty_iff.mp none
      simp only [Attempt.ensures_bind, Attempt.ensures_lift, Attempt.ensures_pure,
        Program.ensures_log]
      exact ⟨opened, [], [], rfl, ready, rfl⟩
    case isFalse =>
      simp only [Attempt.ensures_bind, Attempt.ensures_lift]
      refine ensures_update_groups.weaken fun failures after written => ?_
      rcases written with ⟨updates, rfl, requests⟩
      have settled : service.GroupsWritten name (userComponent new)
          (opened ++ [⟨service.memberSearch name, .ok groups⟩] ++ updates) :=
        ⟨opened, groups, updates, List.append_assoc opened [_] updates, ready, requests⟩
      split
      all_goals
        simp only [Attempt.ensures_bind, Attempt.ensures_lift, Attempt.ensures_pure,
          Program.ensures_log]
        exact settled
  · exact Program.ensures_logged.mpr (ready.snoc ⟨rfl, rfl⟩)

end Following

end Service

end TeacherDirectory
