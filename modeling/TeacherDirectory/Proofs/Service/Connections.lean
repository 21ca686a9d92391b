import TeacherDirectory.Proofs.Retry.Invariant
import TeacherDirectory.Proofs.Service.Creation
import TeacherDirectory.Proofs.Service.QuietCalls
import TeacherDirectory.Script

/-!
# Connections of a session

Every attempt opens one connection and binds on it before it asks for anything else, so the calls
of a session are those on its connections, one connection after the other. How many connections a
task opens follows from the retries alone; a task whose arguments are refused opens none.
-/

namespace TeacherDirectory.Service

set_option autoImplicit false

/-- All calls on one connection. It could not be opened, or the bind on it failed, or requests
follow the bind. The bind is that of the settings, with the empty password if there is none. -/
inductive OnConnection (settings : DirectorySettings) : List Exchange → Prop
  | unopened (failure : DirectoryError) : OnConnection settings [⟨.connect, .error failure⟩]
  | unbound (failure : DirectoryError) : OnConnection settings
      [⟨.connect, .ok ()⟩, ⟨.bind settings.bindName (settings.password.getD ""), .error failure⟩]
  | bound {requests : List Exchange} (plain : ∀ exchange ∈ requests, exchange.request.IsRequest) :
      OnConnection settings (⟨.connect, .ok ()⟩ ::
        ⟨.bind settings.bindName (settings.password.getD ""), .ok ()⟩ :: requests)

theorem OnConnection.nonempty {settings : DirectorySettings}
    {history : List Exchange} (connection : OnConnection settings history) : history ≠ [] := by
  cases connection <;> nofun

def Connected (settings : DirectorySettings) (least most : Nat) (history : List Exchange) : Prop :=
  ∃ blocks : List (List Exchange), history = blocks.flatten ∧
    (∀ block ∈ blocks, OnConnection settings block) ∧ least ≤ blocks.length ∧ blocks.length ≤ most

section Attempts

variable {service : Service} {settings : DirectorySettings} {least most : Nat}
  {history block : List Exchange} {Result : Type} {operation : String} {once : Attempt Result}

theorem connected_nil : Connected settings 0 0 [] :=
  ⟨[], rfl, List.forall_mem_nil _, Nat.le_refl 0, Nat.le_refl 0⟩

theorem Connected.weaken {fewer more : Nat} (connected : Connected settings least most history)
    (lower : fewer ≤ least) (upper : most ≤ more) : Connected settings fewer more history := by
  rcases connected with ⟨blocks, rfl, each, atLeast, atMost⟩
  exact ⟨blocks, rfl, each, lower.trans atLeast, atMost.trans upper⟩

theorem Connected.snoc (connected : Connected settings least most history)
    (next : OnConnection settings block) :
    Connected settings (least + 1) (most + 1) (history ++ block) := by
  rcases connected with ⟨blocks, rfl, each, atLeast, atMost⟩
  refine ⟨blocks ++ [block], by simp, ?_, by simpa using atLeast, by simpa using atMost⟩
  exact List.forall_mem_append.mpr ⟨each, List.forall_mem_singleton.mpr next⟩

theorem ensures_opening (connected : Connected service.settings least most history) :
    service.bind.Ensures CallRule.recording
      (fun _ after => after = history ++ [⟨.connect, .ok ()⟩,
        ⟨.bind service.settings.bindName (service.settings.password.getD ""), .ok ()⟩])
      (fun _ => Connected service.settings (least + 1) (most + 1)) history := by
  unfold Service.bind
  simp only [Attempt.ensures_bind, Attempt.ensures_call_recorded, Attempt.ensures_lift, unbound,
    Program.ensures_bind, Program.ensures_log, Program.ensures_pure, List.append_assoc]
  refine ⟨fun _ => ⟨fun _ => rfl, fun failure => ?_⟩, fun failure => ?_⟩
  · exact connected.snoc (.unbound failure)
  · exact connected.snoc (.unopened failure)

theorem ensures_connection
    (opens : service.OpensFirst (Effect.Calling Call.IsRequest) once)
    (connected : Connected service.settings least most history) :
    once.EndsIn CallRule.recording (Connected service.settings (least + 1) (most + 1)) history := by
  rcases opens with ⟨rest, rfl, requesting⟩
  refine (ensures_opening connected).bind ?_
  rintro _ _ rfl
  -- While the rest of the attempt runs, only requests are added to the open connection.
  let requested (state : List Exchange) : Prop :=
    ∃ requests : List Exchange, (∀ exchange ∈ requests, exchange.request.IsRequest) ∧
      state = history ++ (⟨.connect, .ok ()⟩ ::
        ⟨.bind service.settings.bindName (service.settings.password.getD ""), .ok ()⟩ :: requests)
  have ended (state : List Exchange) (holds : requested state) :
      Connected service.settings (least + 1) (most + 1) state := by
    rcases holds with ⟨requests, plain, rfl⟩
    exact connected.snoc (.bound plain)
  have kept : rest.EndsIn CallRule.recording requested _ :=
    requesting.keeps ?_ ⟨[], List.forall_mem_nil _, rfl⟩
  · exact kept.weaken (fun _ => ended) fun _ => ended
  rintro state request answer _ plain ⟨requests, earlier, rfl⟩ rfl
  refine ⟨requests ++ [⟨request, answer⟩], ?_, by simp⟩
  exact List.forall_mem_append.mpr ⟨earlier, List.forall_mem_singleton.mpr plain⟩

theorem ensures_connections
    (opens : service.OpensFirst (Effect.Calling Call.IsRequest) once)
    (connected : Connected service.settings least most history) :
    (service.attempt operation once).EndsIn CallRule.recording
      (Connected service.settings (least + 1) (most + (service.policy.maxRetries.toNat + 1)))
      history := by
  let invariant (left : Nat) (state : List Exchange) : Prop :=
    ∃ made, made + left = service.policy.maxRetries.toNat + 1 ∧
      Connected service.settings (least + made) (most + made) state
  refine RetryPolicy.ensures_retry_counted invariant ⟨0, by omega, connected⟩ ?_
  rintro _ left state ⟨made, counted, earlier⟩
  refine (ensures_connection opens earlier).weaken (fun _ after attempted => ?_)
    fun _ after attempted => ⟨⟨made + 1, by omega, attempted⟩, fun _ => ?_⟩
  · exact attempted.weaken (by omega) (by omega)
  · exact attempted.weaken (by omega) (by omega)

end Attempts

section Naming

variable {service : Service} {username personId domain : String}

theorem requests_of_sparing {Result : Type} {once : Attempt Result}
    (opens : service.OpensFirst (Effect.Only Call.Sparing) once) :
    service.OpensFirst (Effect.Calling Call.IsRequest) once :=
  opens.weaken fun _ only => only.calling.weaken fun _ => Call.Sparing.is_request

theorem requests_of_quiet {Result : Type} {once : Attempt Result}
    (opens : service.OpensFirst (Effect.Only Call.Quiet) once) :
    service.OpensFirst (Effect.Calling Call.IsRequest) once :=
  requests_of_sparing (opens.weaken fun _ only => only.weaken fun _ => Call.Quiet.sparing)

theorem creation_opens_first {person : Person} {base name uuid : String} :
    service.OpensFirst (Effect.Calling Call.IsRequest)
      (service.createTeacherOnce person username base name uuid) :=
  (create_opens_first (fun _ => id) id).weaken fun _ => Effect.Only.calling

theorem naming_opens_first {givenName surname : Option String} {new : String} :
    service.OpensFirst (Effect.Calling Call.IsRequest)
      (service.modifyAttributesOnce username givenName surname (some new)) := by
  refine OpensFirst.weaken ?_ fun _ => Effect.Only.calling
  refine ⟨_, rfl, Attempt.performs_bind (performs_require_person id) fun entry => ?_⟩
  dsimp only
  split
  · exact Attempt.performs_bind (Attempt.performs_log _ _ _) fun _ => trivial
  · refine Attempt.performs_bind (Attempt.performs_call id fun _ => trivial) fun _ => ?_
    refine Attempt.performs_bind (Attempt.performs_log _ _ _) fun _ => ?_
    refine Attempt.performs_bind (Attempt.performs_call id fun _ => trivial) fun _ => ?_
    exact Attempt.performs_bind (Attempt.performs_log _ _ _) fun _ => trivial

theorem performs_report_missing {calls : Call → Prop} (names : List String) :
    (reportMissing personId username names).Performs (Effect.Only calls) := by
  induction names with
  | nil => trivial
  | cons name rest induction =>
      exact Program.performs_bind (Program.performs_ask trivial) fun _ => induction

theorem attributes_open_first :
    service.OpensFirst (Effect.Calling Call.IsRequest)
      (service.attributesOnce personId username domain) := by
  refine OpensFirst.weaken ?_ fun _ => Effect.Only.calling
  refine ⟨_, rfl, Attempt.performs_bind (performs_find_users id) fun entries => ?_⟩
  cases entries with
  | nil =>
      refine Attempt.performs_bind (Attempt.performs_log _ _ _) fun _ => ?_
      refine Attempt.performs_bind performs_realm fun realm => ?_
      refine Attempt.performs_bind (Attempt.performs_call id fun _ => ?_) fun _ => ?_
      · exact Program.performs_bind (Program.performs_ask trivial) fun _ => trivial
      · refine Attempt.performs_bind (Attempt.performs_log _ _ _) fun _ => ?_
        exact Attempt.performs_bind (Attempt.performs_lift (performs_fetch id)) fun _ => trivial
  | cons entry rest =>
      exact Attempt.performs_bind (Attempt.performs_lift (performs_report_missing _))
        fun _ => trivial

end Naming

section Tasks

variable {service : Service} {task : Task}

def Task.connects : Task → Bool
  | renameInGroups .. => false
  | _ => true

def Task.Invalid (settings : DirectorySettings) : Task → Prop
  | teacherExists _ domain => settings.realm? domain = none
  | createTeacher person domain _ _ => settings.realm? domain = none ∨ person.referrer = none
  | deleteTeacher person _ domain => settings.realm? domain = none ∨ person.referrer = none
  | changeAddress _ _ address =>
      ∀ domain, addressDomain? address = some domain → settings.realm? domain = none
  | leaveGroupByUsername _ _ domain => settings.realm? domain = none
  | _ => False

/-- How many connections a task opens at most, with so many retries. A new teacher joins a group,
and a new username is followed up in all groups, with retries of their own. -/
def Task.mostConnections (retries : Nat) : Task → Nat
  | createTeacher .. => 2 * (retries + 1)
  | modifyAttributes _ _ _ (some _) => 2 * (retries + 1)
  | checkConnection => 1
  | _ => retries + 1

structure ConnectsFor (service : Service) (task : Task) (blocks : List (List Exchange)) : Prop where
  each : ∀ block ∈ blocks, OnConnection service.settings block
  most : blocks.length ≤ task.mostConnections service.policy.maxRetries.toNat
  refused : blocks = [] ↔ task.Invalid service.settings
  check : task = .checkConnection → blocks.length = 1

/-- A task has opened no connection, if its arguments are refused, and some otherwise. -/
def ConnectedFor (service : Service) (task : Task) (history : List Exchange) : Prop :=
  (task.Invalid service.settings ∧ history = []) ∨
    (¬task.Invalid service.settings ∧ Connected service.settings 1
      (task.mostConnections service.policy.maxRetries.toNat) history)

theorem ConnectedFor.blocks {history : List Exchange}
    (connected : service.ConnectedFor task history) :
    ∃ blocks : List (List Exchange),
      history = blocks.flatten ∧ service.ConnectsFor task blocks := by
  rcases connected with ⟨invalid, rfl⟩ | ⟨valid, blocks, rfl, each, atLeast, atMost⟩
  · refine ⟨[], rfl, List.forall_mem_nil _, Nat.zero_le _, iff_of_true rfl invalid, ?_⟩
    rintro rfl
    exact invalid.elim
  · have opened : blocks ≠ [] := List.ne_nil_of_length_pos atLeast
    refine ⟨blocks, rfl, each, atMost, iff_of_false opened valid, ?_⟩
    rintro rfl
    exact Nat.le_antisymm atMost atLeast

theorem ensures_connected_for {Result : Type} {operation : String} {once : Attempt Result}
    (opens : service.OpensFirst (Effect.Calling Call.IsRequest) once)
    (valid : ¬task.Invalid service.settings)
    (most : service.policy.maxRetries.toNat + 1 ≤
      task.mostConnections service.policy.maxRetries.toNat) :
    (service.attempt operation once).EndsIn CallRule.recording
      (service.ConnectedFor task) [] := by
  have within (state : List Exchange) (connected : Connected service.settings (0 + 1)
      (0 + (service.policy.maxRetries.toNat + 1)) state) : service.ConnectedFor task state :=
    .inr ⟨valid, connected.weaken (by omega) (by omega)⟩
  exact (ensures_connections opens connected_nil).weaken (fun _ => within) fun _ => within

theorem ensures_joined {username schoolCode name : String} {least most : Nat}
    {history : List Exchange} (connected : Connected service.settings least most history) :
    (service.joinNewTeacher username schoolCode name).EndsIn CallRule.recording
      (Connected service.settings (least + 1) (most + (service.policy.maxRetries.toNat + 1)))
      history := by
  unfold joinNewTeacher Attempt.EndsIn
  rw [Attempt.ensures_mk, Program.ensures_bind]
  refine Program.Ensures.weaken (ensures_connections (requests_of_quiet join_quiet) connected) ?_
  intro outcome after joined
  cases outcome with
  | ok changed => exact Program.ensures_pure.mpr joined
  | error failure =>
      rw [Program.ensures_bind, Program.ensures_log]
      cases failure <;> exact Program.ensures_pure.mpr joined

theorem ensures_followed {username new name : String} {least most : Nat} {history : List Exchange}
    (connected : Connected service.settings least most history) :
    (service.followRename username new name).EndsIn CallRule.recording
      (Connected service.settings (least + 1) (most + (service.policy.maxRetries.toNat + 1)))
      history := by
  unfold followRename Attempt.EndsIn
  rw [Attempt.ensures_mk, Program.ensures_bind]
  refine Program.Ensures.weaken
    (ensures_connections (requests_of_quiet rename_in_groups_opens_first) connected) ?_
  intro outcome after followed
  cases outcome with
  | ok told => exact Program.ensures_pure.mpr followed
  | error failure => exact Program.ensures_logged.mpr followed

theorem ensures_create_connected {person : Person} {domain schoolCode : String}
    {entryUuid : Option String} :
    (service.createTeacher person domain schoolCode entryUuid).EndsIn CallRule.recording
      (service.ConnectedFor (.createTeacher person domain schoolCode entryUuid)) [] := by
  unfold createTeacher
  refine Attempt.ensures_bind.mpr (ensures_realm.mpr
    ⟨fun realm found => ?known, fun none => ?unknown⟩)
  case unknown => exact .inl ⟨.inl none, rfl⟩
  refine Attempt.ensures_bind.mpr (ensures_referrer.mpr
    ⟨fun username named => ?named, fun none => ?nameless⟩)
  case nameless => exact .inl ⟨.inr none, rfl⟩
  have within {least upper : Nat} (some : 1 ≤ least)
      (few : upper ≤ 2 * (service.policy.maxRetries.toNat + 1)) (state : List Exchange)
      (connected : Connected service.settings least upper state) :
      service.ConnectedFor (.createTeacher person domain schoolCode entryUuid) state :=
    .inr ⟨by simp [Task.Invalid, found, named], connected.weaken some few⟩
  refine Attempt.ensures_bind.mpr ((ensures_connections creation_opens_first connected_nil).weaken
    (fun created after entered => ?_) fun _ => within (by omega) (by omega))
  cases created with
  | none => exact Attempt.ensures_pure.mpr (within (by omega) (by omega) after entered)
  | some created =>
      refine Attempt.ensures_bind.mpr ((ensures_joined entered).weaken (fun _ final joined => ?_)
        fun _ => within (by omega) (by omega))
      have ended := within (by omega) (by omega) final joined
      dsimp only
      split
      · exact Attempt.ensures_bind.mpr
          (Attempt.ensures_lift.mpr (Program.ensures_log.mpr (Attempt.ensures_pure.mpr ended)))
      · exact Attempt.ensures_pure.mpr ended

theorem ensures_modify_connected {username : String}
    {givenName surname newUsername : Option String} :
    (service.modifyAttributes username givenName surname newUsername).EndsIn CallRule.recording
      (service.ConnectedFor (.modifyAttributes username givenName surname newUsername)) [] := by
  unfold modifyAttributes Attempt.EndsIn
  rw [Attempt.ensures_bind]
  cases newUsername with
  | none =>
      refine (ensures_connected_for (requests_of_sparing names_open_first) id (Nat.le_refl _)).imp ?_
      intro oldName after ended
      cases oldName <;> exact Attempt.ensures_pure.mpr ended
  | some new =>
      have within {least upper : Nat} (some : 1 ≤ least)
          (few : upper ≤ 2 * (service.policy.maxRetries.toNat + 1)) (state : List Exchange)
          (connected : Connected service.settings least upper state) :
          service.ConnectedFor (.modifyAttributes username givenName surname (.some new)) state :=
        .inr ⟨id, connected.weaken some few⟩
      refine (ensures_connections naming_opens_first connected_nil).weaken
        (fun oldName after renamed => ?_) fun _ => within (by omega) (by omega)
      cases oldName with
      | none => exact Attempt.ensures_pure.mpr (within (by omega) (by omega) after renamed)
      | some oldName =>
          refine Attempt.ensures_bind.mpr ((ensures_followed renamed).weaken
            (fun _ final followed => ?_) fun _ => within (by omega) (by omega))
          exact Attempt.ensures_pure.mpr (within (by omega) (by omega) final followed)

theorem ensures_task_connected (own : task.connects = true) :
    (task.perform service).EndsIn CallRule.recording (service.ConnectedFor task) [] := by
  have once := Nat.le_refl (service.policy.maxRetries.toNat + 1)
  cases task with
  | teacherExists referrer domain =>
      refine Attempt.ensures_bind.mpr (ensures_realm.mpr ⟨fun realm found => ?_, fun none => ?_⟩)
      · exact ensures_connected_for (requests_of_sparing exists_opens_first)
          (by simp [Task.Invalid, found]) once
      · exact .inl ⟨none, rfl⟩
  | createTeacher person domain schoolCode entryUuid =>
      exact ensures_create_connected
  | deleteTeacher person schoolCode domain =>
      refine Attempt.ensures_bind.mpr (ensures_realm.mpr ⟨fun realm found => ?_, fun none => ?_⟩)
      · refine Attempt.ensures_bind.mpr
          (ensures_referrer.mpr ⟨fun username named => ?_, fun none => ?_⟩)
        · exact ensures_connected_for (requests_of_sparing delete_opens_first)
            (by simp [Task.Invalid, found, named]) once
        · exact .inl ⟨.inr none, rfl⟩
      · exact .inl ⟨.inl none, rfl⟩
  | deleteByReferrer referrer =>
      exact ensures_connected_for (requests_of_sparing delete_by_referrer_opens_first) id once
  | modifyAttributes referrer givenName surname newUsername =>
      exact ensures_modify_connected
  | attributes personId referrer domain =>
      exact ensures_connected_for attributes_open_first id once
  | changeAddress personId referrer address =>
      change (service.changeAddress personId referrer address).Ensures _ _ _ _
      unfold changeAddress
      cases parsed : addressDomain? address with
      | none => exact Attempt.ensures_refuse.mpr (.inl ⟨by simp [Task.Invalid, parsed], rfl⟩)
      | some domain =>
          refine Attempt.ensures_bind.mpr
            (ensures_realm.mpr ⟨fun realm found => ?_, fun none => ?_⟩)
          · simp only [Attempt.ensures_bind, Attempt.ensures_lift, ensures_publish,
              Attempt.ensures_pure]
            exact ensures_connected_for (requests_of_sparing address_sparing)
              (by simp [Task.Invalid, parsed, found]) once
          · exact .inl ⟨by simp [Task.Invalid, parsed, none], rfl⟩
  | changePassword personId referrer =>
      change (service.changePassword personId referrer).Ensures _ _ _ _
      simp only [changePassword, Attempt.ensures_bind, Attempt.ensures_lift, ensures_publish,
        Attempt.ensures_pure]
      refine ensures_connected_for (password_opens_first.weaken fun _ calling => ?_) id once
      exact calling.weaken fun _ => Call.Sparing.is_request
  | checkConnection =>
      have checked (state : List Exchange) (connected : Connected service.settings 1 1 state) :
          service.ConnectedFor .checkConnection state := .inr ⟨id, connected⟩
      refine (ensures_opening connected_nil).weaken ?_ fun _ => checked
      rintro _ _ rfl
      exact checked _ (connected_nil.snoc (.bound (List.forall_mem_nil _)))
  | joinGroup referrer schoolCode personName =>
      exact ensures_connected_for (requests_of_quiet join_quiet) id once
  | leaveGroup username schoolCode personName =>
      exact ensures_connected_for (requests_of_sparing leave_opens_first) id once
  | leaveGroupByUsername username schoolCode domain =>
      refine Attempt.ensures_bind.mpr (ensures_realm.mpr ⟨fun realm found => ?_, fun none => ?_⟩)
      · exact ensures_connected_for (requests_of_sparing leave_opens_first)
          (by simp [Task.Invalid, found]) once
      · exact .inl ⟨none, rfl⟩
  | groups personId referrer =>
      exact ensures_connected_for (requests_of_sparing groups_open_first) id once
  | renameInGroups oldReferrer newReferrer oldName => cases own

end Tasks

/-- The calls of a session are cut into those of its tasks, and these into the calls on one
connection after the other: each is a failed connect, a bind that failed, or a bind with the
requests after it, and no task opens more connections than its retries allow. Nothing is assumed
about the directory. -/
theorem sessions_split_into_connections {State : Type} (world : World State) (state : State)
    (service : Service) (tasks : List Task) (own : ∀ task ∈ tasks, task.connects = true) :
    ∃ parts : List (List (List Exchange)),
      exchanges ((service.performAll tasks).run world state).steps = parts.flatten.flatten ∧
        List.Forall₂ service.ConnectsFor tasks parts := by
  obtain ⟨steps, split, each⟩ :=
    perform_all_takes (Program.run_takes world (service.performAll tasks) state)
  rw [split]
  clear split
  induction each with
  | nil => exact ⟨[], rfl, .nil⟩
  | @cons task part rest others first later induction =>
      obtain ⟨outcome, taken⟩ := first
      have connected : service.ConnectedFor task (exchanges part) := by
        have ended := (ensures_task_connected (own task List.mem_cons_self)).of_takes taken
        cases outcome <;> exact ended
      obtain ⟨blocks, same, connects⟩ := connected.blocks
      obtain ⟨parts, sameLater, connectsLater⟩ :=
        induction fun other member => own other (List.mem_cons_of_mem task member)
      refine ⟨blocks :: parts, ?_, .cons connects connectsLater⟩
      rw [List.flatten_cons, exchanges_append, same, sameLater, List.flatten_cons,
        List.flatten_append]

/-- A check, an operation and refused arguments on a directory that turns the first bind away. -/
theorem three_tasks_connect :
    let service : Service :=
      ⟨⟨"", "cn=admin", some "secret", "dc=schule", none, none, none, none, none, none⟩,
        .immediate 1⟩
    let tasks : List Task :=
      [.checkConnection, .createTeacher ⟨"7", "Anna", "Ahrens", some "anna", none⟩ "schule-sh.de"
        "0705" none, .teacherExists "anna" "example.org"]
    let script : Script :=
      { Script.empty with binds := [⟨0, .error (.rejected 49 "invalid credentials")⟩] }
    let run := (service.performAll tasks).run Stage.world ⟨script, 0, false, 0⟩
    (∀ task ∈ tasks, task.connects = true) ∧
      ∃ parts : List (List (List Exchange)),
        exchanges run.steps = parts.flatten.flatten ∧
          List.Forall₂ service.ConnectsFor tasks parts := by
  intro service tasks script run
  have own : ∀ task ∈ tasks, task.connects = true := by decide +kernel
  exact ⟨own, sessions_split_into_connections Stage.world _ service tasks own⟩

end TeacherDirectory.Service
