import TeacherDirectory.Proofs.Service.Grounds
import TeacherDirectory.Proofs.Service.Renaming

/-!
# No write without a search

Over a whole session each write rests on a search on its own connection, however inconsistent the
answers are. The groups of a renamed person are looked for on a connection of their own; the name that
they list is one under which an entry was renamed on a connection before, by the same task.
-/

namespace TeacherDirectory.Service

set_option autoImplicit false

open DistinguishedName

def Task.aim (earlier : List Exchange) : Task → Aim
  | teacherExists referrer _ => .ofUsername referrer
  | createTeacher person _ schoolCode _ => ⟨person.referrer, some schoolCode, fun _ => False⟩
  | deleteTeacher person _ _ => ⟨person.referrer, none, fun _ => False⟩
  | deleteByReferrer referrer => .ofUsername referrer
  | modifyAttributes referrer _ _ newUsername =>
      ⟨some referrer, none, fun name => ∃ username, newUsername = some username ∧
        ⟨.rename name (userComponent username), .ok ()⟩ ∈ earlier⟩
  | attributes _ referrer _ => .ofUsername referrer
  | changeAddress _ referrer _ => .ofUsername referrer
  | changePassword _ referrer => .ofUsername referrer
  | checkConnection => .nothing
  | joinGroup _ schoolCode _ => .ofSchool schoolCode
  | leaveGroup _ schoolCode _ => .ofSchool schoolCode
  | leaveGroupByUsername _ schoolCode _ => .ofSchool schoolCode
  | groups _ referrer => .ofUsername referrer
  | renameInGroups _ _ oldName => .ofOldName oldName

/-- The calls of a task on one connection after the other. A task without connections of its own makes
all its calls on the one that is open. -/
structure GroundedFor (service : Service) (task : Task) (blocks : List (List Exchange)) : Prop where
  connections : task.connects = true → ∀ block ∈ blocks, OnConnection service.settings block
  shared : task.connects = false →
    ∃ requests, blocks = [requests] ∧ ∀ exchange ∈ requests, exchange.request.IsRequest
  grounds : ∀ before block after, blocks = before ++ block :: after →
    service.AllGrounded (task.aim before.flatten) block

def GroundedOn (service : Service) (aim : Aim) (history : List Exchange) : Prop :=
  ∃ blocks : List (List Exchange), history = blocks.flatten ∧
    ∀ block ∈ blocks, OnConnection service.settings block ∧ service.AllGrounded aim block

variable {service : Service} {task : Task} {aim wide : Aim} {history : List Exchange}
  {steps : List Step}

theorem grounded_on_nil : service.GroundedOn aim [] := ⟨[], rfl, List.forall_mem_nil _⟩

theorem GroundedOn.append {later : List Exchange} (first : service.GroundedOn aim history)
    (second : service.GroundedOn aim later) : service.GroundedOn aim (history ++ later) := by
  obtain ⟨blocks, rfl, each⟩ := first
  obtain ⟨others, rfl, eachOther⟩ := second
  exact ⟨blocks ++ others, List.flatten_append.symm, List.forall_mem_append.mpr ⟨each, eachOther⟩⟩

theorem GroundedOn.weaken (grounded : service.GroundedOn aim history) (within : aim.Within wide) :
    service.GroundedOn wide history := by
  obtain ⟨blocks, rfl, each⟩ := grounded
  exact ⟨blocks, rfl, fun block member => ⟨(each block member).1, (each block member).2.weaken within⟩⟩

theorem job_grounded {Result : Type} {job : Job Result} {outcome : Except ServiceError Result}
    (taken : (job.perform service).run.Takes steps outcome) :
    service.GroundedOn job.about (exchanges steps) := by
  obtain ⟨failed, last, tried, attempted, final⟩ := job_attempted taken
  refine ⟨failed.map exchanges ++ [exchanges last], ?_, List.forall_mem_append.mpr ⟨?_, ?_⟩⟩
  · rw [tried.calls, List.flatten_append, List.flatten_singleton, List.flatMap_def]
  · exact List.forall_mem_map.mpr fun own member =>
      ⟨(attempted own member).connection, (attempted own member).grounds⟩
  · exact List.forall_mem_singleton.mpr ⟨final.connection, final.grounds⟩

/-- What a job is about is what its task is about, apart from the names that a renaming makes known. -/
theorem Task.Runs.within {Result : Type} {job : Job Result} {earlier : List Exchange}
    (runs : task.Runs service job) (known : ∀ name, job.about.oldName name →
      (task.aim earlier).oldName name) : job.about.Within (task.aim earlier) := by
  refine ⟨?_, ?_, known⟩
  · cases runs with
    | createEntry found named => exact fun username same => named.trans same
    | deleteEntry found named => exact fun username same => named.trans same
    | joinNew found named => exact nofun
    | followRename => exact nofun
    | joinGroup => exact nofun
    | leaveGroup => exact nofun
    | leaveByUsername found => exact nofun
    | _ => exact fun _ => id
  · cases runs with
    | joinNew found named => exact fun _ => id
    | joinGroup => exact fun _ => id
    | leaveGroup => exact fun _ => id
    | leaveByUsername found => exact fun _ => id
    | _ => exact nofun

theorem task_grounded {outcome : Except ServiceError task.Value} {earlier : List Exchange}
    (own : task.connects = true)
    (other : ∀ referrer givenName surname newUsername,
      task ≠ .modifyAttributes referrer givenName surname newUsername)
    (taken : (task.perform service).run.Takes steps outcome) :
    service.GroundedOn (task.aim earlier) (exchanges steps) := by
  let grounded (steps : List Step) : Prop := service.GroundedOn (task.aim earlier) (exchanges steps)
  have compositional : Compositional fun _ program => program.Always grounded := by
    refine Program.always_compositional grounded_on_nil fun first second before after => ?_
    change service.GroundedOn _ (exchanges (first ++ second))
    rw [exchanges_append]
    exact before.append after
  refine perform_composed compositional ?logs ?jobs ?announcing ?checking ?following steps _ taken
  case logs => exact fun level message fields => Program.always_log grounded_on_nil
  case jobs =>
    intro Result job runs steps outcome taken
    refine (job_grounded taken).weaken (runs.within ?_)
    cases runs with
    | followRename => exact absurd rfl (other _ _ _ _)
    | _ => exact nofun
  case announcing =>
    intro _ event steps result taken
    change service.GroundedOn _ (exchanges steps)
    rw [(publish_traced taken).1]
    exact grounded_on_nil
  case checking =>
    intro _ steps outcome taken
    have attempted : service.Attempted .nothing steps := bind_attempted taken
    exact ⟨[exchanges steps], List.flatten_singleton.symm,
      List.forall_mem_singleton.mpr
        ⟨attempted.connection, attempted.grounds.weaken ⟨nofun, nofun, nofun⟩⟩⟩
  case following =>
    rintro oldReferrer newReferrer oldName rfl
    cases own

section Changing

variable {username : String} {givenName surname newUsername : Option String}

/-- The name that the groups are searched for is one under which an entry was renamed. -/
theorem naming_renamed {name : String}
    (taken : (service.naming username givenName surname newUsername).run.Takes steps
      (.ok (some name))) :
    (Task.aim (exchanges steps)
      (.modifyAttributes username givenName surname newUsername)).oldName name := by
  obtain ⟨earlier, new, given, -, calls⟩ := ensures_naming.of_takes taken
  exact ⟨new, given, calls ▸ List.mem_append_right _ (List.mem_singleton.mpr rfl)⟩

theorem naming_grounded {outcome : Except ServiceError (Option String)}
    (taken : (service.naming username givenName surname newUsername).run.Takes steps outcome) :
    service.GroundedOn (.ofUsername username) (exchanges steps) :=
  job_grounded (show ((Job.changeNames username givenName surname newUsername).perform
    service).run.Takes steps outcome from taken)

theorem following_grounded {new name : String} {outcome : Except ServiceError String}
    (taken : (service.following username new name).run.Takes steps outcome) :
    service.GroundedOn (.ofOldName name) (exchanges steps) :=
  job_grounded (show ((Job.followRename username new name).perform service).run.Takes steps outcome
    from taken)

theorem username_within {earlier : List Exchange} : (Aim.ofUsername username).Within
    (Task.aim earlier (.modifyAttributes username givenName surname newUsername)) :=
  ⟨fun _ => id, nofun, nofun⟩

theorem unrenamed_grounded_for
    (grounded : service.GroundedOn (.ofUsername username) history) :
    ∃ blocks, history = blocks.flatten ∧
      service.GroundedFor (.modifyAttributes username givenName surname newUsername) blocks := by
  obtain ⟨blocks, same, each⟩ := grounded
  refine ⟨blocks, same, fun _ block member => (each block member).1, nofun, ?_⟩
  rintro before block after rfl
  exact (each block (by simp)).2.weaken username_within

theorem renamed_grounded_for {changing updating : List Step} {name new : String}
    {told : Except ServiceError String}
    (named : (service.naming username givenName surname newUsername).run.Takes changing
      (.ok (some name)))
    (taken : (service.following username new name).run.Takes updating told) :
    ∃ blocks, exchanges changing ++ exchanges updating = blocks.flatten ∧
      service.GroundedFor (.modifyAttributes username givenName surname newUsername) blocks := by
  obtain ⟨blocks, same, each⟩ := naming_grounded named
  obtain ⟨others, sameOther, eachOther⟩ := following_grounded taken
  refine ⟨blocks ++ others, by rw [same, sameOther, List.flatten_append], ?connections, nofun,
    ?grounds⟩
  case connections =>
    exact fun _ => List.forall_mem_append.mpr
      ⟨fun block member => (each block member).1, fun block member => (eachOther block member).1⟩
  case grounds =>
    intro before block after cut
    rcases cut_either cut with member | ⟨between, rfl, member⟩
    · exact (each block member).2.weaken username_within
    · refine (eachOther block member).2.weaken ⟨nofun, nofun, ?_⟩
      rintro _ rfl
      obtain ⟨leaf, given, renamed⟩ := naming_renamed named
      refine ⟨leaf, given, ?_⟩
      rw [List.flatten_append, ← same]
      exact List.mem_append_left _ renamed

theorem modify_grounded {result : Except ServiceError String}
    (taken : (service.modifyAttributes username givenName surname newUsername).run.Takes steps
      result) :
    ∃ blocks, exchanges steps = blocks.flatten ∧
      service.GroundedFor (.modifyAttributes username givenName surname newUsername) blocks := by
  cases modify_takes taken with
  | failed named => exact unrenamed_grounded_for (naming_grounded named)
  | kept named nothing => exact unrenamed_grounded_for (naming_grounded named)
  | renamed given named followed =>
      rw [exchanges_append]
      exact renamed_grounded_for named followed
  | unfollowed given named followed silent =>
      rw [exchanges_append, silent, List.append_nil, exchanges_append]
      exact renamed_grounded_for named followed

end Changing

theorem task_grounded_for {outcome : Except ServiceError task.Value}
    (taken : (task.perform service).run.Takes steps outcome) :
    ∃ blocks, exchanges steps = blocks.flatten ∧ service.GroundedFor task blocks := by
  have plain (own : task.connects = true)
      (other : ∀ referrer givenName surname newUsername,
        task ≠ .modifyAttributes referrer givenName surname newUsername)
      (known : ∀ earlier, task.aim earlier = task.aim []) :
      ∃ blocks, exchanges steps = blocks.flatten ∧ service.GroundedFor task blocks := by
    have grounded : service.GroundedOn (task.aim []) (exchanges steps) :=
      task_grounded own other taken
    obtain ⟨blocks, same, each⟩ := grounded
    refine ⟨blocks, same, fun _ block member => (each block member).1,
      fun shared => absurd (own.symm.trans shared) nofun, ?_⟩
    rintro before block after rfl
    rw [known]
    exact (each block (by simp)).2
  cases task with
  | modifyAttributes referrer givenName surname newUsername => exact modify_grounded taken
  | renameInGroups oldReferrer newReferrer oldName =>
      obtain ⟨admitted, -, -⟩ := rename_traced taken
      refine ⟨[exchanges steps], List.flatten_singleton.symm, nofun, fun _ =>
        ⟨exchanges steps, rfl, admitted.each fun _ _ => And.left⟩, ?_⟩
      intro before block after cut
      obtain ⟨rfl, rfl, -⟩ : before = [] ∧ block = exchanges steps ∧ after = [] := by
        simpa [List.append_eq_singleton_iff, eq_comm] using cut
      exact fun before exchange after same => (same ▸ admitted).before.2
  | _ => exact plain rfl nofun fun _ => rfl

theorem session_writes_grounded {tasks : List Task} {performed : List Performed}
    (taken : (service.performAll tasks).Takes steps performed) :
    ∀ exchange ∈ exchanges steps, exchange.request.isWrite = true →
      ∃ aim before, service.Grounded aim before exchange.request := by
  obtain ⟨parts, rfl, each⟩ := perform_all_takes taken
  clear taken
  induction each with
  | nil => exact List.forall_mem_nil _
  | @cons task part rest others first later induction =>
      obtain ⟨outcome, taken⟩ := first
      obtain ⟨blocks, same, grounded⟩ := task_grounded_for taken
      rw [List.flatten_cons, exchanges_append, same]
      refine List.forall_mem_append.mpr ⟨fun exchange member writes => ?_, induction⟩
      obtain ⟨block, inBlocks, inBlock⟩ := List.mem_flatten.mp member
      obtain ⟨earlier, final, rfl⟩ := List.append_of_mem inBlocks
      obtain ⟨before, after, rfl⟩ := List.append_of_mem inBlock
      exact ⟨_, before, grounded.grounds earlier _ final rfl before exchange after rfl writes⟩

/-- Whatever the directory answers, each deletion, change and renaming in a session is of an entry that
was found before on the same connection: the first entry in the answer to a search for the username that
the task is about, the first one for the group of its school, or one of the groups that list the old
name. Each addition comes after a search on its connection for the same thing, which found none. -/
theorem writes_rest_on_searches {State : Type} (world : World State) (state : State)
    (service : Service) (tasks : List Task) :
    ∃ parts : List (List (List Exchange)),
      exchanges ((service.performAll tasks).run world state).steps = parts.flatten.flatten ∧
        List.Forall₂ service.GroundedFor tasks parts := by
  obtain ⟨steps, split, each⟩ :=
    perform_all_takes (Program.run_takes world (service.performAll tasks) state)
  rw [split]
  clear split
  induction each with
  | nil => exact ⟨[], rfl, .nil⟩
  | @cons task part rest others first later induction =>
      obtain ⟨outcome, taken⟩ := first
      obtain ⟨blocks, same, grounded⟩ := task_grounded_for taken
      obtain ⟨parts, sameLater, groundedLater⟩ := induction
      refine ⟨blocks :: parts, ?_, .cons grounded groundedLater⟩
      rw [List.flatten_cons, exchanges_append, same, sameLater, List.flatten_cons,
        List.flatten_append]

end TeacherDirectory.Service
