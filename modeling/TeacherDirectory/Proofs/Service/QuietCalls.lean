import TeacherDirectory.Proofs.Service.AddressChanges
import TeacherDirectory.Proofs.Service.JoiningCalls
import TeacherDirectory.Proofs.Service.Tasks

/-!
# Calls that name nobody

Most of what the service writes has nothing to do with how a teacher is called: addresses and
passwords, members of groups, the units of schools. Such quiet requests give no entry a username or
a common name, add no teacher and rename nothing. Three kinds of tasks make other requests; all
others make quiet ones and deletions, on connections that they open.
-/

namespace TeacherDirectory

set_option autoImplicit false

def Call.Opens : Call → Prop
  | .connect => True
  | .bind .. => True
  | _ => False

def Call.IsRequest (request : Call) : Prop := ¬request.Opens

/-- A request that deletes nothing, gives nobody a name and makes nothing a teacher. -/
def Call.Quiet : Call → Prop
  | .search .. => True
  | .add _ attributes => ∀ pair ∈ attributes,
      Entry.key pair.1 ≠ "uid" ∧ (Entry.key pair.1 = "objectclass" → "inetOrgPerson" ∉ pair.2)
  | .modify _ changes =>
      ∀ change ∈ changes, Entry.key change.name ∉ ["objectclass", "uid", "cn"]
  | _ => False

def Call.Sparing : Call → Prop
  | .delete _ => True
  | request => request.Quiet

def Call.Opening (calls : Call → Prop) (request : Call) : Prop := request.Opens ∨ calls request

theorem Call.Quiet.sparing {request : Call} (quiet : request.Quiet) : request.Sparing := by
  cases request with
  | delete name => trivial
  | _ => exact quiet

theorem Call.Sparing.quiet_or_delete {request : Call} (sparing : request.Sparing) :
    request.Quiet ∨ ∃ name, request = .delete name := by
  cases request with
  | delete name => exact .inr ⟨name, rfl⟩
  | _ => exact .inl sparing

theorem Call.Sparing.is_request {request : Call} (sparing : request.Sparing) :
    request.IsRequest := by
  cases request with
  | connect => exact sparing.elim
  | bind name password => exact sparing.elim
  | _ => exact id

namespace Service

variable {service : Service} {username other base name schoolCode domain personId : String}

theorem quiet_member (name : String) {change : Change} (named : change.name = "member") :
    (Call.modify name [change]).Quiet := by
  intro found listed
  obtain rfl := List.mem_singleton.mp listed
  rw [named, Entry.key_member]
  decide

theorem quiet_names (name : String) {givenName surname : Option String} :
    (Call.modify name (nameChanges givenName surname none)).Quiet := by
  have folded : Entry.key "givenName" = "givenname" ∧ Entry.key "sn" = "sn" := by decide +kernel
  intro change member
  simp only [nameChanges, List.mem_append, List.mem_map, Option.mem_toList, Option.toList_none,
    List.map_nil, List.nil_append] at member
  rcases member with ⟨_, -, rfl⟩ | ⟨_, -, rfl⟩ <;> simp [Change.replace, folded]

section Attempts

theorem exists_opens_first :
    service.OpensFirst (Effect.Only Call.Sparing) (service.teacherExistsOnce base username) :=
  ⟨_, rfl, Attempt.performs_bind (performs_find_users trivial) fun _ => trivial⟩

theorem performs_undeleted {failure : DirectoryError} :
    (undeleted name failure).Performs (Effect.Only Call.Sparing) :=
  Program.performs_bind (Program.performs_ask trivial) fun _ => trivial

theorem delete_opens_first {person : Person} :
    service.OpensFirst (Effect.Only Call.Sparing)
      (service.deleteTeacherOnce person username base schoolCode) := by
  refine ⟨_, rfl, Attempt.performs_bind (performs_find_users trivial) fun entries => ?_⟩
  cases entries with
  | nil => exact Attempt.performs_bind (Attempt.performs_log _ _ _) fun _ => trivial
  | cons entry rest =>
      refine Attempt.performs_bind (Attempt.performs_call trivial fun _ => performs_undeleted)
        fun _ => ?_
      exact Attempt.performs_bind (Attempt.performs_log _ _ _) fun _ => trivial

theorem delete_by_referrer_opens_first :
    service.OpensFirst (Effect.Only Call.Sparing) (service.deleteByReferrerOnce username) := by
  refine ⟨_, rfl, Attempt.performs_bind (performs_require_person trivial) fun entry => ?_⟩
  refine Attempt.performs_bind (Attempt.performs_call trivial fun _ => performs_undeleted)
    fun _ => ?_
  exact Attempt.performs_bind (Attempt.performs_log _ _ _) fun _ => trivial

theorem names_open_first {givenName surname : Option String} :
    service.OpensFirst (Effect.Only Call.Sparing)
      (service.modifyAttributesOnce username givenName surname none) := by
  refine ⟨_, rfl, Attempt.performs_bind (performs_require_person trivial) fun entry => ?_⟩
  dsimp only
  split
  · exact Attempt.performs_bind (Attempt.performs_log _ _ _) fun _ => trivial
  · refine Attempt.performs_bind
      (Attempt.performs_call (quiet_names entry.name) fun _ => trivial) fun _ => ?_
    exact Attempt.performs_bind (Attempt.performs_log _ _ _) fun _ => trivial

theorem performs_update_groups {oldName newName : String} (groups : List Entry) :
    (updateGroups oldName newName groups).Performs (Effect.Only Call.Quiet) := by
  induction groups with
  | nil => trivial
  | cons group rest induction =>
      apply Program.performs_bind (Program.performs_ask (quiet_member group.name rfl))
      intro answer
      have counted (failures : Nat) :
          (do return failures + (← updateGroups oldName newName rest) : Program Nat).Performs
            (Effect.Only Call.Quiet) :=
        Program.performs_bind induction fun _ => trivial
      cases answer with
      | ok _ =>
          exact Program.performs_bind (Program.performs_ask trivial) fun _ => counted 0
      | error failure =>
          exact Program.performs_bind (Program.performs_ask trivial) fun _ => counted 1

theorem performs_rename_in_groups :
    (service.renameInGroups username other name).Performs (Effect.Only Call.Quiet) := by
  refine Attempt.performs_bind (Attempt.performs_call trivial fun _ => ?_) fun groups => ?_
  · exact Program.performs_bind (Program.performs_ask trivial) fun _ => trivial
  · dsimp only
    split
    · exact Attempt.performs_bind (Attempt.performs_log _ _ _) fun _ => trivial
    · refine Attempt.performs_bind (Attempt.performs_lift (performs_update_groups groups))
        fun failures => ?_
      have told : (do
          Program.log .info s!"LDAP: Updated member data for {groups.length} groups." []
          return s!"Updated member data for {groups.length} groups." : Attempt String).Performs
            (Effect.Only Call.Quiet) :=
        Attempt.performs_bind (Attempt.performs_log _ _ _) fun _ => trivial
      split
      · exact Attempt.performs_bind (Attempt.performs_log _ _ _) fun _ => told
      · exact told

theorem rename_in_groups_opens_first :
    service.OpensFirst (Effect.Only Call.Quiet)
      (service.renameInGroupsOnce username other name) :=
  ⟨_, rfl, performs_rename_in_groups⟩

theorem address_sparing {address : String} :
    service.OpensFirst (Effect.Only Call.Sparing)
      (service.changeAddressOnce personId username address) := by
  have folded : Entry.key "mailPrimaryAddress" = "mailprimaryaddress" ∧
      Entry.key "mailAlternativeAddress" = "mailalternativeaddress" := by decide +kernel
  refine address_opens_first trivial fun name alternative change member => ?_
  simp only [List.mem_cons, List.not_mem_nil, or_false] at member
  rcases member with rfl | rfl <;> simp [Change.replace, folded]

theorem password_opens_first :
    service.OpensFirst (Effect.Calling Call.Sparing)
      (service.changePasswordOnce personId username) := by
  have folded : Entry.key "userPassword" = "userpassword" := by decide +kernel
  have replaces (entry : Entry) (password : String) :
      (Call.modify entry.name [.replace "userPassword" [password]]).Quiet := by
    intro change member
    obtain rfl := List.mem_singleton.mp member
    simp [Change.replace, folded]
  have found {absence : String} :
      (service.requirePerson username [] absence).Performs (Effect.Calling Call.Sparing) :=
    (performs_require_person trivial).weaken fun _ => Effect.Only.calling
  refine ⟨_, rfl, Attempt.performs_bind found fun entry => ?_⟩
  refine Attempt.performs_bind (Attempt.performs_lift (Program.performs_ask trivial))
    fun draws => ?_
  refine Attempt.performs_bind (Attempt.performs_call (replaces entry _) fun _ => ?_) fun _ => ?_
  · exact Program.performs_bind (Program.performs_ask trivial) fun _ => trivial
  · exact Attempt.performs_bind (Attempt.performs_lift (Program.performs_ask trivial))
      fun _ => trivial

theorem join_quiet :
    service.OpensFirst (Effect.Only Call.Quiet)
      (service.joinGroupOnce username schoolCode name) := by
  have folded : Entry.key "objectclass" = "objectclass" ∧ Entry.key "ou" = "ou" ∧
      Entry.key "cn" = "cn" ∧ Entry.key "member" = "member" := by decide +kernel
  refine join_opens_first (fun _ _ _ _ _ => trivial) ?unit ?group fun name =>
    quiet_member name rfl
  case unit =>
    intro pair member
    simp only [List.mem_cons, List.not_mem_nil, or_false] at member
    rcases member with rfl | rfl <;> simp [folded]
  case group =>
    intro pair member
    simp only [List.mem_cons, List.not_mem_nil, or_false] at member
    rcases member with rfl | rfl | rfl <;> simp [folded]

theorem leave_opens_first :
    service.OpensFirst (Effect.Only Call.Sparing)
      (service.leaveGroupOnce username schoolCode name) := by
  have refusing (failure : DirectoryError) : (do
      Program.log .error
        s!"LDAP: Failed to remove person from group {groupId schoolCode}, errMsg: {failure.message}"
        []
      return .leaveGroup (groupId schoolCode) failure.message : Program ServiceError).Performs
        (Effect.Only Call.Sparing) :=
    Program.performs_bind (Program.performs_ask trivial) fun _ => trivial
  refine ⟨_, rfl, Attempt.performs_bind (Attempt.performs_bind
    (Attempt.performs_call trivial refusing) fun _ => trivial) fun found => ?_⟩
  cases found with
  | none => exact Attempt.performs_refuse _ _
  | some entry =>
      dsimp only
      split
      · exact Attempt.performs_refuse _ _
      · split
        · refine Attempt.performs_bind (Attempt.performs_call trivial refusing) fun _ => ?_
          exact Attempt.performs_bind (Attempt.performs_log _ _ _) fun _ => trivial
        · refine Attempt.performs_bind
            (Attempt.performs_call (quiet_member entry.name rfl) refusing) fun _ => ?_
          exact Attempt.performs_bind (Attempt.performs_log _ _ _) fun _ => trivial

theorem groups_open_first :
    service.OpensFirst (Effect.Only Call.Sparing) (service.groupsOnce personId username) := by
  refine ⟨_, rfl, Attempt.performs_bind (performs_require_person trivial) fun person => ?_⟩
  refine Attempt.performs_bind (Attempt.performs_call trivial fun _ => ?_) fun groups => ?_
  · exact Program.performs_bind (Program.performs_ask trivial) fun _ => trivial
  · dsimp only
    split
    · exact Attempt.performs_bind (Attempt.performs_log _ _ _) fun _ => trivial
    · trivial

end Attempts

section Tasks

variable {calls : Call → Prop}

/-- The attempts at an operation open connections and make the requests that each of them makes. -/
theorem performs_attempts {Result : Type} {operation : String} {once : Attempt Result}
    (opens : service.OpensFirst (Effect.Calling calls) once) :
    (service.attempt operation once).Performs (Effect.Calling (Call.Opening calls)) := by
  have bound : service.bind.Performs (Effect.Only (Call.Opening calls)) :=
    performs_bound (.inl trivial) fun _ _ => .inl trivial
  have requesting : service.OpensFirst (Effect.Calling (Call.Opening calls)) once :=
    opens.weaken fun _ => Effect.Calling.weaken fun _ => .inr
  exact RetryPolicy.performs_retry_calling fun _ =>
    requesting.performs (bound.weaken fun _ => Effect.Only.calling)

theorem performs_plain_attempts {Result : Type} {operation : String} {once : Attempt Result}
    (opens : service.OpensFirst (Effect.Only calls) once) :
    (service.attempt operation once).Performs (Effect.Calling (Call.Opening calls)) :=
  performs_attempts (opens.weaken fun _ => Effect.Only.calling)

theorem performs_publish {event : PersonEvent} :
    (publish event).Performs (Effect.Calling calls) := by
  apply Program.performs_bind (Program.performs_ask trivial)
  intro answer
  cases answer with
  | ok _ => trivial
  | error failure => exact Program.performs_ask trivial

theorem performs_joining :
    (service.joinNewTeacher username schoolCode name).Performs
      (Effect.Calling (Call.Opening Call.Quiet)) := by
  apply Program.performs_bind (performs_plain_attempts join_quiet)
  intro outcome
  cases outcome with
  | ok changed => trivial
  | error failure =>
      apply Program.performs_bind (Program.performs_ask trivial)
      intro _
      cases failure <;> trivial

theorem performs_following :
    (service.followRename username other name).Performs
      (Effect.Calling (Call.Opening Call.Quiet)) := by
  apply Program.performs_bind (performs_plain_attempts rename_in_groups_opens_first)
  intro outcome
  cases outcome with
  | ok told => trivial
  | error failure => exact Program.performs_bind (Program.performs_ask trivial) fun _ => trivial

/-- The task creates no teacher and gives no new username. -/
def Task.isSparing : Task → Bool
  | createTeacher .. => false
  | attributes .. => false
  | modifyAttributes _ _ _ (some _) => false
  | _ => true

theorem performs_sparing {task : Task} (sparing : task.isSparing = true) :
    (task.perform service).Performs (Effect.Calling (Call.Opening Call.Sparing)) := by
  have calling {Result : Type} {attempt : Attempt Result}
      (plain : attempt.Performs (Effect.Only (Call.Opening Call.Sparing))) :
      attempt.Performs (Effect.Calling (Call.Opening Call.Sparing)) :=
    plain.weaken fun _ => Effect.Only.calling
  have quiet {effect : Effect} (only : effect.Only Call.Quiet) : effect.Only Call.Sparing :=
    only.weaken fun _ => Call.Quiet.sparing
  cases task with
  | teacherExists referrer domain =>
      exact Attempt.performs_bind (calling performs_realm) fun _ =>
        performs_plain_attempts exists_opens_first
  | createTeacher person domain schoolCode entryUuid => cases sparing
  | deleteTeacher person schoolCode domain =>
      exact Attempt.performs_bind (calling performs_realm) fun _ =>
        Attempt.performs_bind (calling performs_referrer) fun _ =>
          performs_plain_attempts delete_opens_first
  | deleteByReferrer referrer => exact performs_plain_attempts delete_by_referrer_opens_first
  | modifyAttributes referrer givenName surname newUsername =>
      cases newUsername with
      | none =>
          refine Attempt.performs_bind (performs_plain_attempts names_open_first) fun oldName => ?_
          cases oldName <;> trivial
      | some username => cases sparing
  | attributes personId referrer domain => cases sparing
  | changeAddress personId referrer address =>
      change (service.changeAddress personId referrer address).Performs _
      unfold changeAddress
      split
      · exact calling (Attempt.performs_refuse _ _)
      · refine Attempt.performs_bind (calling performs_realm) fun _ => ?_
        refine Attempt.performs_bind (performs_plain_attempts address_sparing) fun _ => ?_
        exact Attempt.performs_bind (Attempt.performs_lift performs_publish) fun _ => trivial
  | changePassword personId referrer =>
      refine Attempt.performs_bind (performs_attempts password_opens_first) fun _ => ?_
      exact Attempt.performs_bind (Attempt.performs_lift performs_publish) fun _ => trivial
  | checkConnection => exact calling (performs_bound (.inl trivial) fun _ _ => .inl trivial)
  | joinGroup referrer schoolCode personName =>
      exact performs_plain_attempts (join_quiet.weaken fun _ => quiet)
  | leaveGroup username schoolCode personName => exact performs_plain_attempts leave_opens_first
  | leaveGroupByUsername username schoolCode domain =>
      exact Attempt.performs_bind (calling performs_realm) fun _ =>
        performs_plain_attempts leave_opens_first
  | groups personId referrer => exact performs_plain_attempts groups_open_first
  | renameInGroups oldReferrer newReferrer oldName =>
      exact calling (performs_rename_in_groups.weaken fun _ only =>
        (quiet only).weaken fun _ => .inr)

end Tasks

end Service

end TeacherDirectory
