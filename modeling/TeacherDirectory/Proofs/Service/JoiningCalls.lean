import TeacherDirectory.Proofs.Retry.Invariant
import TeacherDirectory.Proofs.Service.BasicCalls
import TeacherDirectory.Service.Group

/-!
# Calls that join a group

Joining a school's group asks for the school's unit, role and group, and writes to these only; it
asks for no person. It fails without a connection or with the error of joining, which names the
group. Before it succeeds it has searched for the group.
-/

namespace TeacherDirectory.Service

set_option autoImplicit false

def groupSearch (service : Service) (schoolCode : String) : Call :=
  .search service.base .subtree (groupFilter (groupId schoolCode)) ["member"]

def IsJoiningCall (service : Service) (schoolCode : String) : Call → Prop
  | .connect => True
  | .bind .. => True
  | .search _ _ filter _ =>
      filter = .equal "objectClass" "organizationalUnit" ∨
        filter = .equal "objectClass" "organizationalRole" ∨
        filter = groupFilter (groupId schoolCode)
  | .add name _ => name = service.schoolName schoolCode ∨ name = service.groupName schoolCode
  | .modify .. => True
  | _ => False

/-- The end of `ensureSchool`: a missing role for the groups is reported. -/
def lookForRole (service : Service) (schoolCode : String)
    (refused : DirectoryError → Program ServiceError) : Attempt Unit := do
  let role := service.groupsName schoolCode
  let roles ← Attempt.call
    (.search role .base (.equal "objectClass" "organizationalRole") []) refused
  if roles.isEmpty then
    Program.log .warn s!"LDAP: Organizational role {role} not found" []

variable {service : Service} {referrer schoolCode personName : String}

theorem performs_ensure_school {calls : Call → Prop}
    {refused : DirectoryError → Program ServiceError}
    (searches : ∀ base scope filter names,
      filter = .equal "objectClass" "organizationalUnit" ∨
        filter = .equal "objectClass" "organizationalRole" →
      calls (.search base scope filter names))
    (adds : calls (.add (service.schoolName schoolCode)
      [("objectclass", ["organizationalUnit"]), ("ou", [schoolCode])]))
    (refusing : ∀ failure, (refused failure).Performs (Effect.Only calls)) :
    (service.ensureSchool schoolCode refused).Performs (Effect.Only calls) := by
  have asksForRole : (service.lookForRole schoolCode refused).Performs (Effect.Only calls) := by
    refine Attempt.performs_bind
      (Attempt.performs_call (searches _ _ _ _ (.inr rfl)) refusing) fun roles => ?_
    split
    · exact Attempt.performs_log _ _ _
    · trivial
  unfold ensureSchool
  refine Attempt.performs_bind
    (Attempt.performs_call (searches _ _ _ _ (.inl rfl)) refusing) fun units => ?_
  split
  · refine Attempt.performs_bind (Attempt.performs_call adds fun failure => ?_) fun _ => ?_
    · exact Program.performs_bind (Program.performs_ask trivial) fun _ => refusing failure
    · exact Attempt.performs_bind (Attempt.performs_log _ _ _) fun _ => asksForRole
  · exact asksForRole

/-- After opening a connection, an attempt to join makes searches, adds the unit and the group, and
adds the person to a group. -/
theorem join_opens_first {calls : Call → Prop}
    (searches : ∀ base scope filter names,
      filter = .equal "objectClass" "organizationalUnit" ∨
        filter = .equal "objectClass" "organizationalRole" ∨
        filter = groupFilter (groupId schoolCode) →
      calls (.search base scope filter names))
    (unit : calls (.add (service.schoolName schoolCode)
      [("objectclass", ["organizationalUnit"]), ("ou", [schoolCode])]))
    (group : calls (.add (service.groupName schoolCode) [("objectclass", ["groupOfNames"]),
      ("cn", [groupId schoolCode]), ("member", [personName])]))
    (member : ∀ name, calls (.modify name [.add "member" [personName]])) :
    service.OpensFirst (Effect.Only calls)
      (service.joinGroupOnce referrer schoolCode personName) := by
  refine ⟨_, rfl, ?_⟩
  refine Attempt.performs_bind (performs_ensure_school
    (fun _ _ _ _ asked => searches _ _ _ _ (asked.imp_right .inl)) unit fun _ => trivial)
    fun _ => ?_
  refine Attempt.performs_bind (Attempt.performs_bind
    (Attempt.performs_call (searches _ _ _ _ (.inr (.inr rfl))) fun _ => trivial)
    fun _ => trivial) fun found => ?_
  have logged (message : String) (failure : DirectoryError) (group : String) : (do
      Program.log .error message []
      pure (.joinGroup group failure.message) : Program ServiceError).Performs
        (Effect.Only calls) :=
    Program.performs_bind (Program.performs_ask trivial) fun _ => trivial
  cases found with
  | some entry =>
      dsimp only
      split
      · exact Attempt.performs_bind (Attempt.performs_log _ _ _) fun _ => trivial
      · refine Attempt.performs_bind (Attempt.performs_call (member _) fun _ => logged _ _ _)
          fun _ => ?_
        exact Attempt.performs_bind (Attempt.performs_log _ _ _) fun _ => trivial
  | none =>
      refine Attempt.performs_bind (Attempt.performs_call group fun _ => logged _ _ _)
        fun _ => ?_
      exact Attempt.performs_bind (Attempt.performs_log _ _ _) fun _ => trivial

theorem performs_join_calls {calls : Call → Prop} (connects : calls .connect)
    (binds : ∀ name password, calls (.bind name password))
    (searches : ∀ base scope filter names,
      filter = .equal "objectClass" "organizationalUnit" ∨
        filter = .equal "objectClass" "organizationalRole" ∨
        filter = groupFilter (groupId schoolCode) →
      calls (.search base scope filter names))
    (unit : calls (.add (service.schoolName schoolCode)
      [("objectclass", ["organizationalUnit"]), ("ou", [schoolCode])]))
    (group : calls (.add (service.groupName schoolCode) [("objectclass", ["groupOfNames"]),
      ("cn", [groupId schoolCode]), ("member", [personName])]))
    (member : ∀ name, calls (.modify name [.add "member" [personName]])) :
    (service.joinGroup referrer schoolCode personName).Performs (Effect.Only calls) :=
  RetryPolicy.performs_retry fun _ =>
    (join_opens_first searches unit group member).performs (performs_bound connects binds)

theorem performs_join :
    (service.joinGroup referrer schoolCode personName).Performs
      (Effect.Only (service.IsJoiningCall schoolCode)) :=
  performs_join_calls trivial (fun _ _ => trivial) (fun _ _ _ _ asked => asked) (.inl rfl)
    (.inr rfl) fun _ => trivial

def IsJoiningError (schoolCode : String) : ServiceError → Prop
  | .bind _ => True
  | .joinGroup group _ => group = groupId schoolCode
  | _ => False

theorem ensures_ensure_school {State : Type} {rule : CallRule State} {before : State}
    {refused : DirectoryError → Program ServiceError} {bad : ServiceError → State → Prop}
    (refusing : ∀ failure after, (refused failure).Ensures rule bad after) :
    (service.ensureSchool schoolCode refused).Ensures rule (fun _ _ => True) bad before := by
  unfold ensureSchool
  simp only [Attempt.ensures_bind, Attempt.ensures_call]
  refine ⟨fun units after _ => ?_, fun failure after _ => refusing failure after⟩
  split
  · simp only [Attempt.ensures_bind, Attempt.ensures_call, Attempt.ensures_lift,
      Program.ensures_bind, Program.ensures_log]
    refine ⟨fun _ _ _ => ⟨fun roles later _ => ?_, fun failure later _ => refusing failure later⟩,
      fun failure later _ => refusing failure later⟩
    split <;> simp [Program.ensures_log]
  · simp only [Attempt.ensures_bind, Attempt.ensures_call]
    refine ⟨fun roles later _ => ?_, fun failure later _ => refusing failure later⟩
    split <;> simp [Program.ensures_log]

theorem ensures_join :
    (service.joinGroup referrer schoolCode personName).Ensures CallRule.recording
      (fun _ after => ∃ answer, ⟨service.groupSearch schoolCode, answer⟩ ∈ after)
      (fun failure _ => IsJoiningError schoolCode failure) [] := by
  apply RetryPolicy.ensures_retry (fun _ => True) trivial
  intro _ before _
  unfold joinGroupOnce Service.bind findGroup
  simp only [Attempt.ensures_bind, Attempt.ensures_call, Attempt.ensures_lift,
    Attempt.ensures_pure, unbound, Program.ensures_bind, Program.ensures_log, Program.ensures_pure,
    CallRule.recording]
  refine ⟨fun _ _ _ => ⟨fun _ _ _ => ?_, fun _ _ _ => ⟨trivial, trivial⟩⟩,
    fun _ _ _ => ⟨trivial, trivial⟩⟩
  refine (ensures_ensure_school fun _ _ => Program.ensures_pure.mpr ⟨trivial, rfl⟩).weaken
    (fun _ after _ => ⟨?_, fun _ _ _ => ⟨trivial, rfl⟩⟩) fun _ _ ended => ended
  intro found searched same
  subst same
  have asked : ⟨service.groupSearch schoolCode, .ok found⟩ ∈
      after ++ [⟨service.groupSearch schoolCode, .ok found⟩] :=
    List.mem_append_right after (List.mem_singleton.mpr rfl)
  have answered (exchange : Exchange) :
      ∃ answer, ⟨service.groupSearch schoolCode, answer⟩ ∈
        after ++ [⟨service.groupSearch schoolCode, .ok found⟩] ++ [exchange] :=
    ⟨.ok found, List.mem_append_left [exchange] asked⟩
  split
  · split
    · simp only [Attempt.ensures_bind, Attempt.ensures_lift, Attempt.ensures_pure,
        Program.ensures_log]
      exact ⟨.ok found, asked⟩
    · simp only [Attempt.ensures_bind, Attempt.ensures_call, Attempt.ensures_lift,
        Attempt.ensures_pure, Program.ensures_bind, Program.ensures_log, Program.ensures_pure]
      refine ⟨?_, fun _ _ _ => ⟨trivial, rfl⟩⟩
      intro _ _ same
      subst same
      exact answered _
  · simp only [Attempt.ensures_bind, Attempt.ensures_call, Attempt.ensures_lift,
      Attempt.ensures_pure, Program.ensures_bind, Program.ensures_log, Program.ensures_pure]
    refine ⟨?_, fun _ _ _ => ⟨trivial, rfl⟩⟩
    intro _ _ same
    subst same
    exact answered _

end TeacherDirectory.Service
