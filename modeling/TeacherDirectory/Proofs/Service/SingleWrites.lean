import TeacherDirectory.Proofs.Retry.Invariant
import TeacherDirectory.Proofs.Service.BasicCalls
import TeacherDirectory.Proofs.Service.Tasks

/-!
# Operations that write once

Most operations of the service change one entry. An attempt of such an operation writes in its last
step that can fail, so an attempt that failed has written nothing, and trying again never applies a
change twice: among all attempts one write at most is carried out, nothing is written after it, and
the operation succeeds. Nothing is assumed about the directory. Inquiries make no writes at all.
-/

namespace TeacherDirectory

set_option autoImplicit false

theorem Exchange.read_not_wrote {exchange : Exchange} (read : exchange.request.isWrite = false) :
    exchange.wrote = false := by
  unfold wrote
  rw [read, Bool.false_and]

namespace Service

section Counting

variable {asked : Nat} {history : List Exchange} {exchange : Exchange} {Result : Type}
  {idle : Result → List Exchange → Prop}

structure Unwritten (asked : Nat) (history : List Exchange) : Prop where
  refused : ∀ exchange ∈ history, exchange.wrote = false
  few : history.countP (fun exchange => exchange.request.isWrite) ≤ asked

/-- One write was carried out, after so many refused ones at most, and only reads came later. -/
def WrittenLast (asked : Nat) (history : List Exchange) : Prop :=
  ∃ earlier write later, history = earlier ++ write :: later ∧ Unwritten asked earlier ∧
    write.wrote = true ∧ ∀ exchange ∈ later, exchange.request.isWrite = false

/-- How a single write ends: it was carried out, or nothing was to be done for this value. -/
def Settled (idle : Result → List Exchange → Prop) (asked : Nat) (value : Result)
    (history : List Exchange) : Prop :=
  WrittenLast asked history ∨ (Unwritten asked history ∧ idle value history)

/-- What holds of all calls of an operation that writes once. A value without a write comes of the
idle case only. -/
structure WritesOnce (attempts : Nat) (idle : Result → List Exchange → Prop)
    (history : List Exchange) (result : Except ServiceError Result) : Prop where
  asked : history.countP (fun exchange => exchange.request.isWrite) ≤ attempts
  once : history.countP Exchange.wrote ≤ 1
  last : history.Pairwise fun earlier later =>
    earlier.wrote = true → later.request.isWrite = false
  success : (∃ exchange ∈ history, exchange.wrote = true) → ∃ value, result = .ok value
  failure : ∀ failure, result = .error failure → ∀ exchange ∈ history, exchange.wrote = false
  unwritten : ∀ value, result = .ok value → (∀ exchange ∈ history, exchange.wrote = false) →
    idle value history

theorem unwritten_nil : Unwritten 0 [] := ⟨List.forall_mem_nil _, Nat.le_refl 0⟩

theorem Unwritten.weaken (unwritten : Unwritten asked history) {more : Nat} (fewer : asked ≤ more) :
    Unwritten more history :=
  ⟨unwritten.refused, Nat.le_trans unwritten.few fewer⟩

theorem Unwritten.read (unwritten : Unwritten asked history)
    (read : exchange.request.isWrite = false) : Unwritten asked (history ++ [exchange]) where
  refused := List.forall_mem_append.mpr
    ⟨unwritten.refused, List.forall_mem_singleton.mpr (Exchange.read_not_wrote read)⟩
  few := by simpa [List.countP_append, read] using unwritten.few

theorem Unwritten.failed {request : Call} (unwritten : Unwritten asked history)
    (failure : DirectoryError) :
    Unwritten (asked + 1) (history ++ [⟨request, .error failure⟩]) where
  refused := List.forall_mem_append.mpr
    ⟨unwritten.refused, List.forall_mem_singleton.mpr (Bool.and_false _)⟩
  few := by
    rw [List.countP_append]
    exact Nat.add_le_add unwritten.few List.countP_le_length

theorem Unwritten.written {request : Call} {reply : request.Reply}
    (unwritten : Unwritten asked history) (writes : request.isWrite = true) :
    WrittenLast asked (history ++ [⟨request, .ok reply⟩]) :=
  ⟨history, _, [], rfl, unwritten, (Bool.and_true _).trans writes, List.forall_mem_nil _⟩

theorem WrittenLast.weaken (written : WrittenLast asked history) {more : Nat}
    (fewer : asked ≤ more) : WrittenLast more history := by
  rcases written with ⟨earlier, write, later, rfl, unwritten, wrote, reads⟩
  exact ⟨earlier, write, later, rfl, unwritten.weaken fewer, wrote, reads⟩

theorem WrittenLast.read (written : WrittenLast asked history)
    (read : exchange.request.isWrite = false) : WrittenLast asked (history ++ [exchange]) := by
  rcases written with ⟨earlier, write, later, rfl, unwritten, wrote, reads⟩
  exact ⟨earlier, write, later ++ [exchange], List.append_assoc earlier _ _, unwritten, wrote,
    List.forall_mem_append.mpr ⟨reads, List.forall_mem_singleton.mpr read⟩⟩

theorem Settled.imp {Other : Type} {idle' : Other → List Exchange → Prop} {value : Result}
    {other : Other} (settled : Settled idle asked value history)
    (implies : idle value history → idle' other history) : Settled idle' asked other history :=
  Or.imp_right (And.imp_right implies) settled

theorem Settled.weaken {value : Result} (settled : Settled idle asked value history) {more : Nat}
    (fewer : asked ≤ more) : Settled idle more value history :=
  Or.imp (fun written => written.weaken fewer) (fun ended => ⟨ended.1.weaken fewer, ended.2⟩) settled

theorem writes_once_unwritten {result : Except ServiceError Result} {attempts : Nat}
    (unwritten : Unwritten attempts history)
    (idles : ∀ value, result = .ok value → idle value history) :
    WritesOnce attempts idle history result where
  asked := unwritten.few
  once := by
    rw [List.countP_eq_zero.mpr fun exchange member => by simp [unwritten.refused exchange member]]
    exact Nat.zero_le 1
  last := List.pairwise_of_forall_mem_list fun earlier member _ _ wrote => by
    rw [unwritten.refused earlier member] at wrote
    cases wrote
  success given := by
    rcases given with ⟨exchange, member, wrote⟩
    rw [unwritten.refused exchange member] at wrote
    cases wrote
  failure _ _ := unwritten.refused
  unwritten value same _ := idles value same

theorem writes_once_written {value : Result} (written : WrittenLast asked history) :
    WritesOnce (asked + 1) idle history (.ok value) := by
  rcases written with ⟨earlier, write, later, rfl, unwritten, wrote, reads⟩
  have noneBefore : earlier.countP Exchange.wrote = 0 :=
    List.countP_eq_zero.mpr fun exchange member => by simp [unwritten.refused exchange member]
  have noneAfter : later.countP Exchange.wrote = 0 :=
    List.countP_eq_zero.mpr fun exchange member => by
      simp [Exchange.read_not_wrote (reads exchange member)]
  have noWriteAfter : later.countP (fun exchange => exchange.request.isWrite) = 0 :=
    List.countP_eq_zero.mpr fun exchange member => by simp [reads exchange member]
  refine ⟨?asked, ?once, ?last, fun _ => ⟨value, rfl⟩, ?failure, ?unwritten⟩
  case asked =>
    rw [List.countP_append, List.countP_cons, noWriteAfter]
    have few := unwritten.few
    split <;> omega
  case once =>
    apply Nat.le_of_eq
    rw [List.countP_append, List.countP_cons, noneBefore, noneAfter, if_pos wrote]
  case last =>
    refine pairwise_around (fun first member _ carried => ?_) fun second member _ _ =>
      reads second member
    rw [unwritten.refused first member] at carried
    cases carried
  case failure =>
    intro _ impossible
    cases impossible
  case unwritten =>
    intro _ _ none
    rw [none write (by simp)] at wrote
    cases wrote

end Counting

section Attempts

variable {service : Service} {asked : Nat} {history : List Exchange} {Result : Type}
  {idle : Result → List Exchange → Prop}

theorem ensures_opened_unwritten (unwritten : Unwritten asked history) :
    service.bind.Ensures CallRule.recording (fun _ => Unwritten asked)
      (fun _ => Unwritten (asked + 1)) history :=
  (ensures_opened (fun _ _ earlier => earlier.read rfl) (fun _ _ _ _ earlier => earlier.read rfl)
    unwritten).weaken (fun _ _ opened => opened)
    fun _ _ failed => failed.1.weaken (Nat.le_succ asked)

theorem ensures_person_unwritten {username absence : String} {names : List String}
    (unwritten : Unwritten asked history) :
    (service.requirePerson username names absence).Ensures CallRule.recording
      (fun _ => Unwritten asked) (fun _ => Unwritten (asked + 1)) history :=
  ensures_require_person.mpr
    ⟨fun _ _ => unwritten.read rfl, (unwritten.read rfl).weaken (Nat.le_succ asked),
      fun _ => (unwritten.read rfl).weaken (Nat.le_succ asked)⟩

theorem ensures_write {request : Call} {refused : DirectoryError → Program ServiceError}
    (writes : request.isWrite = true) (unwritten : Unwritten asked history)
    (quiet : ∀ failure after, Unwritten (asked + 1) after →
      (refused failure).Ensures CallRule.recording (fun _ => Unwritten (asked + 1)) after) :
    @Attempt.Ensures (no_index request.Reply) _ CallRule.recording (Attempt.call request refused)
      (fun _ => WrittenLast asked) (fun _ => Unwritten (asked + 1)) history :=
  Attempt.ensures_call_recorded.mpr ⟨fun _ => unwritten.written writes,
    fun failure => quiet failure _ (unwritten.failed failure)⟩

theorem ensures_undeleted {name : String} {failure : DirectoryError}
    (unwritten : Unwritten asked history) :
    (undeleted name failure).Ensures CallRule.recording (fun _ => Unwritten asked) history :=
  Program.ensures_logged.mpr unwritten

/-- The retries together settle what one attempt settles: each failed attempt leaves one refused
write more behind, at most. -/
theorem ensures_settled {operation : String} {once : Attempt Result}
    (each : ∀ made state, Unwritten made state →
      once.Ensures CallRule.recording (Settled idle made) (fun _ => Unwritten (made + 1)) state) :
    (service.attempt operation once).Ensures CallRule.recording
      (Settled idle service.policy.maxRetries.toNat)
      (fun _ => Unwritten (service.policy.maxRetries.toNat + 1)) [] := by
  -- An attempt uses up one of the writes that may be asked for, whether it came that far or not.
  let budget (left : Nat) (state : List Exchange) : Prop :=
    ∃ made, made + left = service.policy.maxRetries.toNat + 1 ∧ Unwritten made state
  refine RetryPolicy.ensures_retry_counted budget ⟨0, Nat.zero_add _, unwritten_nil⟩ ?_
  intro _ left state given
  rcases given with ⟨made, spent, unwritten⟩
  refine (each made state unwritten).weaken ?_ ?_
  · exact fun _ _ settled => settled.weaken (by omega)
  · exact fun _ _ failed => ⟨⟨made + 1, by omega, failed⟩, fun _ => failed.weaken (by omega)⟩

theorem writes_once_of_settled {attempt : Attempt Result} {attempts : Nat}
    (settled : attempt.Ensures CallRule.recording (Settled idle attempts)
      (fun _ => Unwritten (attempts + 1)) []) {steps : List Step}
    {result : Except ServiceError Result} (taken : attempt.run.Takes steps result) :
    WritesOnce (attempts + 1) idle (exchanges steps) result := by
  have ended := Program.Ensures.of_takes settled taken
  cases result with
  | error failure => exact writes_once_unwritten ended fun _ impossible => by cases impossible
  | ok value =>
      have ending : Settled idle attempts value (exchanges steps) := ended
      rcases ending with written | ⟨unwritten, idles⟩
      · exact writes_once_written written
      · refine writes_once_unwritten (unwritten.weaken (Nat.le_succ attempts)) fun _ same => ?_
        cases same
        exact idles

def FoundNone (base username : String) (history : List Exchange) : Prop :=
  ∃ earlier, history = earlier ++ [⟨userSearch base username [], .ok []⟩]

theorem ensures_delete_once {person : Person} {username base schoolCode : String}
    (unwritten : Unwritten asked history) :
    (service.deleteTeacherOnce person username base schoolCode).Ensures CallRule.recording
      (Settled (fun _ => FoundNone base username) asked) (fun _ => Unwritten (asked + 1))
      history := by
  unfold deleteTeacherOnce
  refine (ensures_opened_unwritten unwritten).bind fun _ opened ready => ?_
  rw [Attempt.ensures_bind, ensures_find_users]
  refine ⟨fun entries => ?_, fun _ => (ready.read rfl).weaken (Nat.le_succ asked)⟩
  cases entries with
  | nil =>
      simp only [Attempt.ensures_bind, Attempt.ensures_lift, Attempt.ensures_pure,
        Program.ensures_log]
      exact .inr ⟨ready.read rfl, opened, rfl⟩
  | cons entry _ =>
      simp only [Attempt.ensures_bind, Attempt.ensures_lift, Attempt.ensures_pure,
        Program.ensures_log]
      exact (ensures_write rfl (ready.read rfl) fun _ _ => ensures_undeleted).imp fun _ _ => .inl

theorem ensures_delete_by_referrer_once {username : String} (unwritten : Unwritten asked history) :
    (service.deleteByReferrerOnce username).Ensures CallRule.recording
      (Settled (fun _ _ => False) asked) (fun _ => Unwritten (asked + 1)) history := by
  unfold deleteByReferrerOnce
  refine (ensures_opened_unwritten unwritten).bind fun _ _ ready => ?_
  refine (ensures_person_unwritten ready).bind fun entry after found => ?_
  simp only [Attempt.ensures_bind, Attempt.ensures_lift, Attempt.ensures_pure, Program.ensures_log]
  exact (ensures_write rfl found fun _ _ => ensures_undeleted).imp fun _ _ => .inl

theorem ensures_change_address_once {personId username address : String}
    (unwritten : Unwritten asked history) :
    (service.changeAddressOnce personId username address).Ensures CallRule.recording
      (Settled (fun _ _ => False) asked) (fun _ => Unwritten (asked + 1)) history := by
  unfold changeAddressOnce
  refine (ensures_opened_unwritten unwritten).bind fun _ _ ready => ?_
  refine (ensures_person_unwritten ready).bind fun entry after found => ?_
  simp only [Attempt.ensures_bind, Attempt.ensures_lift, Attempt.ensures_pure, Program.ensures_log]
  exact (ensures_write rfl found fun _ _ refused => Program.ensures_logged.mpr refused).imp
    fun _ _ => .inl

theorem ensures_change_password_once {personId username : String}
    (unwritten : Unwritten asked history) :
    (service.changePasswordOnce personId username).Ensures CallRule.recording
      (Settled (fun _ _ => False) asked) (fun _ => Unwritten (asked + 1)) history := by
  unfold changePasswordOnce
  refine (ensures_opened_unwritten unwritten).bind fun _ _ ready => ?_
  refine (ensures_person_unwritten ready).bind fun entry after found => ?_
  simp only [Attempt.ensures_bind, Attempt.ensures_lift, Attempt.ensures_pure, Program.ensures_log,
    Program.ensures_draw]
  intro draws
  exact (ensures_write rfl found fun _ _ refused => Program.ensures_logged.mpr refused).imp
    fun _ _ => .inl

theorem ensures_change_names_once {username : String} {givenName surname : Option String}
    (unwritten : Unwritten asked history) :
    (service.modifyAttributesOnce username givenName surname none).Ensures CallRule.recording
      (fun renamed after => renamed = none ∧
        Settled (fun _ _ => givenName = none ∧ surname = none) asked renamed after)
      (fun _ => Unwritten (asked + 1)) history := by
  unfold modifyAttributesOnce
  refine (ensures_opened_unwritten unwritten).bind fun _ _ ready => ?_
  refine (ensures_person_unwritten ready).bind fun entry after found => ?_
  dsimp only
  split
  case isTrue nothing =>
    simp only [Attempt.ensures_bind, Attempt.ensures_lift, Attempt.ensures_pure,
      Program.ensures_log]
    refine ⟨trivial, .inr ⟨found, ?_⟩⟩
    simpa [nameChanges] using nothing
  case isFalse =>
    simp only [Attempt.ensures_bind, Attempt.ensures_lift, Attempt.ensures_pure,
      Program.ensures_log]
    exact (ensures_write rfl found fun _ _ refused => Program.ensures_pure.mpr refused).imp
      fun _ _ written => ⟨trivial, .inl written⟩

theorem ensures_leave_once {username schoolCode name : String}
    (unwritten : Unwritten asked history) :
    (service.leaveGroupOnce username schoolCode name).Ensures CallRule.recording
      (Settled (fun _ _ => False) asked) (fun _ => Unwritten (asked + 1)) history := by
  unfold leaveGroupOnce findGroup
  refine (ensures_opened_unwritten unwritten).bind fun _ _ ready => ?_
  rw [Attempt.ensures_bind, Attempt.ensures_bind, Attempt.ensures_call_recorded]
  refine ⟨fun groups => Attempt.ensures_pure.mpr ?answered, fun _ =>
    Program.ensures_logged.mpr ?unanswered⟩
  case unanswered => exact (ready.read rfl).weaken (Nat.le_succ asked)
  have searched : Unwritten asked (_ ++ [⟨.search service.base .subtree
      (groupFilter (groupId schoolCode)) ["member"], .ok groups⟩]) := ready.read rfl
  split
  · exact Attempt.ensures_refuse.mpr (searched.weaken (Nat.le_succ asked))
  · dsimp only
    split
    · exact Attempt.ensures_refuse.mpr (searched.weaken (Nat.le_succ asked))
    · split
      all_goals
        simp only [Attempt.ensures_bind, Attempt.ensures_lift, Attempt.ensures_pure,
          Program.ensures_log]
        exact (ensures_write rfl searched fun _ _ refused =>
          Program.ensures_logged.mpr refused).imp fun _ _ => .inl

def FoundFirst (service : Service) (username : String) (entry : Entry)
    (history : List Exchange) : Prop :=
  ∃ earlier rest,
    history = earlier ++ [⟨userSearch service.base username readNames, .ok (entry :: rest)⟩]

theorem ensures_report_missing {State : Type} {rule : CallRule State} {before : State}
    {personId username : String} {names : List String} {post : Unit → State → Prop}
    (holds : post () before) :
    (reportMissing personId username names).Ensures rule post before := by
  induction names with
  | nil => exact Program.ensures_pure.mpr holds
  | cons name rest induction =>
      unfold reportMissing
      rw [Program.ensures_bind, Program.ensures_log]
      exact induction

theorem ensures_placeholder {username domain : String} (unwritten : Unwritten asked history) :
    (service.createPlaceholder username domain).Ensures CallRule.recording
      (fun _ => WrittenLast asked) (fun _ => Unwritten (asked + 1)) history := by
  unfold createPlaceholder
  rw [Attempt.ensures_bind, ensures_realm]
  refine ⟨fun realm _ => ?_, fun _ => unwritten.weaken (Nat.le_succ asked)⟩
  simp only [Attempt.ensures_bind, Attempt.ensures_lift, Attempt.ensures_pure, Program.ensures_log,
    ensures_fetch]
  refine (ensures_write rfl unwritten fun _ _ refused => Program.ensures_logged.mpr refused).imp ?_
  intro _ _ written _ _ same
  subst same
  exact written.read rfl

theorem ensures_attributes_once {personId username domain : String}
    (unwritten : Unwritten asked history) :
    (service.attributesOnce personId username domain).Ensures CallRule.recording
      (Settled (fun value after => ∃ entry, service.FoundFirst username entry after ∧
        value = attributesOf entry) asked)
      (fun _ => Unwritten (asked + 1)) history := by
  unfold attributesOnce
  refine (ensures_opened_unwritten unwritten).bind fun _ opened ready => ?_
  rw [Attempt.ensures_bind, ensures_find_users]
  refine ⟨fun entries => ?_, fun _ => (ready.read rfl).weaken (Nat.le_succ asked)⟩
  cases entries with
  | nil =>
      simp only [Attempt.ensures_bind, Attempt.ensures_lift, Program.ensures_log]
      exact (ensures_placeholder (ready.read rfl)).imp fun _ _ => .inl
  | cons entry rest =>
      simp only [Attempt.ensures_bind, Attempt.ensures_lift, Attempt.ensures_pure]
      exact ensures_report_missing (.inr ⟨ready.read rfl, entry, ⟨opened, rest, rfl⟩, rfl⟩)

end Attempts

namespace Task

/-- The tasks that change one entry. Names are changed here without a new username. -/
def ChangesOne : Task → Prop
  | deleteTeacher .. | deleteByReferrer _ | changeAddress .. | changePassword .. | attributes ..
  | leaveGroup .. | leaveGroupByUsername .. => True
  | modifyAttributes _ _ _ newUsername => newUsername = none
  | _ => False

def OnlyAsks : Task → Prop
  | teacherExists .. | groups .. | checkConnection => True
  | _ => False

/-- When a change of one entry gives a value without a write: a teacher to delete is absent, a person
to read is found, or no name is given. -/
def Idle (service : Service) : (task : Task) → task.Value → List Exchange → Prop
  | deleteTeacher person _ domain, _, history => ∃ realm username,
      service.settings.realm? domain = some realm ∧ person.referrer = some username ∧
        FoundNone (service.realmName realm) username history
  | attributes _ referrer _, value, history =>
      ∃ entry, service.FoundFirst referrer entry history ∧ value = attributesOf entry
  | modifyAttributes _ givenName surname _, _, _ => givenName = none ∧ surname = none
  | _, _, _ => False

variable {service : Service} {task : Task}

theorem ensures_single_change (single : task.ChangesOne) :
    (task.perform service).Ensures CallRule.recording
      (Settled (task.Idle service) service.policy.maxRetries.toNat)
      (fun _ => Unwritten (service.policy.maxRetries.toNat + 1)) [] := by
  have refused : Unwritten (service.policy.maxRetries.toNat + 1) [] :=
    unwritten_nil.weaken (Nat.zero_le _)
  cases task with
  | deleteTeacher person schoolCode domain =>
      simp only [perform, Service.deleteTeacher, Attempt.ensures_bind, ensures_realm,
        ensures_referrer]
      refine ⟨fun realm realmFound => ⟨fun username named => ?_, fun _ => refused⟩,
        fun _ => refused⟩
      exact (ensures_settled fun _ _ => ensures_delete_once).imp fun _ _ settled =>
        settled.imp fun none => ⟨realm, username, realmFound, named, none⟩
  | deleteByReferrer referrer => exact ensures_settled fun _ _ => ensures_delete_by_referrer_once
  | changeAddress personId referrer address =>
      simp only [perform, Service.changeAddress]
      split
      · exact Attempt.ensures_refuse.mpr refused
      · simp only [Attempt.ensures_bind, ensures_realm, Attempt.ensures_lift, Attempt.ensures_pure,
          ensures_publish]
        refine ⟨fun _ _ => ?_, fun _ => refused⟩
        exact (ensures_settled fun _ _ => ensures_change_address_once).imp
          fun _ _ settled => settled.imp id
  | changePassword personId referrer =>
      simp only [perform, Service.changePassword, Attempt.ensures_bind, Attempt.ensures_lift,
        Attempt.ensures_pure, ensures_publish]
      exact ensures_settled fun _ _ => ensures_change_password_once
  | attributes personId referrer domain => exact ensures_settled fun _ _ => ensures_attributes_once
  | leaveGroup username schoolCode personName => exact ensures_settled fun _ _ => ensures_leave_once
  | leaveGroupByUsername username schoolCode domain =>
      simp only [perform, Service.leaveGroupByUsername, Attempt.ensures_bind, ensures_realm]
      exact ⟨fun _ _ => ensures_settled fun _ _ => ensures_leave_once, fun _ => refused⟩
  | modifyAttributes referrer givenName surname newUsername =>
      obtain rfl : newUsername = none := single
      simp only [perform, Service.modifyAttributes, Attempt.ensures_bind, Attempt.ensures_pure]
      refine (ensures_settled fun _ _ unwritten =>
        (ensures_change_names_once unwritten).imp fun _ _ ended => ended.2).imp ?_
      exact fun _ _ settled => settled.imp id
  | _ => exact single.elim

theorem performs_reads (asking : task.OnlyAsks) :
    (task.perform service).Performs (Effect.Only fun request => request.isWrite = false) := by
  have opened : service.bind.Performs (Effect.Only fun request => request.isWrite = false) :=
    performs_bound rfl fun _ _ => rfl
  cases task with
  | teacherExists referrer domain =>
      refine Attempt.performs_bind performs_realm fun realm => RetryPolicy.performs_retry fun _ => ?_
      apply Attempt.performs_bind opened
      intro _
      exact Attempt.performs_bind (performs_find_users rfl) fun _ => trivial
  | groups personId referrer =>
      refine RetryPolicy.performs_retry fun _ => ?_
      apply Attempt.performs_bind opened
      intro _
      refine Attempt.performs_bind (performs_require_person rfl) fun person => ?_
      refine Attempt.performs_bind (Attempt.performs_call rfl fun _ => ?_) fun groups => ?_
      · exact Program.performs_bind (Program.performs_ask trivial) fun _ => trivial
      · dsimp only
        split
        · exact Attempt.performs_bind (Attempt.performs_log _ _ _) fun _ => trivial
        · trivial
  | checkConnection => exact opened
  | _ => exact asking.elim

end Task

/-- Every change of one entry writes once, in every run in every world, and no inquiry writes at
all. -/
theorem operations_write_once {State : Type} (world : World State) (state : State)
    (service : Service) :
    (∀ task : Task, task.ChangesOne →
      let run := (task.perform service).run.run world state
      WritesOnce (service.policy.maxRetries.toNat + 1) (task.Idle service) (exchanges run.steps)
        run.result) ∧
      ∀ task : Task, task.OnlyAsks →
        ∀ exchange ∈ exchanges ((task.perform service).run.run world state).steps,
          exchange.request.isWrite = false := by
  refine ⟨fun task single => ?_, fun task asking => ?_⟩
  · exact writes_once_of_settled (Task.ensures_single_change single)
      (Program.run_takes world _ state)
  · exact (Task.performs_reads asking).exchanges (Program.run_takes world _ state)

def oneEntry : World Unit :=
  .ofCalls fun request _ =>
    match request with
    | .search .. => (.ok [Entry.empty "uid=anna"], ())
    | .connect | .bind .. | .add .. | .modify .. | .rename .. | .delete .. => (.ok (), ())

/-- A first name is written with one call, and asking for the teacher writes nothing. -/
theorem first_name_written_once :
    let service : Service :=
      ⟨⟨"", "cn=admin", none, "dc=schule", none, none, none, none, none, none⟩, .immediate 1⟩
    let naming : Task := .modifyAttributes "anna" (some "Anna") none none
    let asking : Task := .teacherExists "anna" "schule-sh.de"
    let run := (naming.perform service).run.run oneEntry ()
    naming.ChangesOne ∧ run.result = .ok "anna" ∧
      (exchanges run.steps).countP Exchange.wrote = 1 ∧ asking.OnlyAsks ∧
      ∀ exchange ∈ exchanges ((asking.perform service).run.run oneEntry ()).steps,
        exchange.request.isWrite = false := by
  intro service naming asking run
  obtain ⟨changes, asks⟩ := operations_write_once oneEntry () service
  have writes := changes naming rfl
  have result : run.result = .ok "anna" := rfl
  refine ⟨rfl, result, Nat.le_antisymm writes.once ?_, trivial, asks asking trivial⟩
  by_contra none
  have unwritten := List.countP_eq_zero.mp (Nat.lt_one_iff.mp (Nat.lt_of_not_le none))
  have idle : some "Anna" = Option.none ∧ (Option.none : Option String) = Option.none :=
    writes.unwritten "anna" result fun exchange member =>
      Bool.eq_false_iff.mpr (unwritten exchange member)
  cases idle.1

end Service

end TeacherDirectory
