import Mathlib.Data.List.TakeWhile
import TeacherDirectory.Proofs.Program.Failure
import TeacherDirectory.Proofs.Service.Creation
import TeacherDirectory.Proofs.Service.Tasks
import TeacherDirectory.Script

/-!
# Arguments are checked first

Five tasks check their arguments before anything else. Which arguments are refused, and with which
error, is said here without the code that finds it out. A task fails with an error of this kind exactly
when its arguments are refused, and then it has asked, counted, waited for and handed over nothing; no
later part of a task fails in this way, whatever the directory answers.
-/

namespace TeacherDirectory

set_option autoImplicit false

def ServiceError.IsValidation : ServiceError → Prop
  | emailDomain _ => True
  | emailAddress _ => True
  | missingReferrer _ => True
  | _ => False

/-- A domain of a realm: the configured one of either realm, or the built-in one. -/
inductive DirectorySettings.Accepts (settings : DirectorySettings) : String → Prop
  | configured (realm : Realm) : Accepts settings (settings.domain realm)
  | builtIn (realm : Realm) : Accepts settings realm.builtInDomain

theorem DirectorySettings.realm_none_iff {settings : DirectorySettings} {domain : String} :
    settings.realm? domain = none ↔ ¬settings.Accepts domain := by
  unfold realm?
  rw [List.find?_eq_none]
  constructor
  · rintro unmatched (realm | realm)
    · exact unmatched realm (by cases realm <;> decide) (by simp)
    · exact unmatched realm (by cases realm <;> decide) (by simp)
  · intro unknown realm _ matched
    rcases Bool.or_eq_true_iff.mp matched with same | same
    · exact unknown (eq_of_beq same ▸ .configured realm)
    · exact unknown (eq_of_beq same ▸ .builtIn realm)

theorem DirectorySettings.accepts_of_realm {settings : DirectorySettings} {domain : String}
    {realm : Realm} (found : settings.realm? domain = some realm) : settings.Accepts domain := by
  by_contra unknown
  rw [realm_none_iff.mpr unknown] at found
  cases found

namespace Service

/-- An address is a user and a domain, neither of them empty, with an at sign between them that is the
first one. -/
structure IsAddress (address user domain : String) : Prop where
  parts : address = user ++ "@" ++ domain
  first : '@' ∉ user.toList
  user : user ≠ ""
  domain : domain ≠ ""

theorem cut_at_sign (user domain : List Char) (without : '@' ∉ user) :
    (user ++ '@' :: domain).takeWhile (· ≠ '@') = user ∧
      (user ++ '@' :: domain).dropWhile (· ≠ '@') = '@' :: domain := by
  have plain : ∀ letter ∈ user, decide (letter ≠ '@') = true := by
    intro letter member
    exact decide_eq_true fun same => without (same ▸ member)
  constructor
  · rw [List.takeWhile_append_of_pos plain]
    simp
  · rw [List.dropWhile_append_of_pos plain]
    simp

theorem address_domain_iff {address domain : String} :
    addressDomain? address = some domain ↔ ∃ user, IsAddress address user domain := by
  constructor
  · intro parsed
    have whole : address.toList.takeWhile (· ≠ '@') ++ address.toList.dropWhile (· ≠ '@') =
        address.toList := List.takeWhile_append_dropWhile
    have without : '@' ∉ address.toList.takeWhile (· ≠ '@') := by
      intro member
      have passed := List.mem_takeWhile_imp member
      simp at passed
    unfold addressDomain? at parsed
    cases rest : address.toList.dropWhile (· ≠ '@') with
    | nil =>
        rw [rest] at parsed
        cases parsed
    | cons letter behind =>
        have sign : letter = '@' := by
          have head := List.head?_dropWhile_not (fun letter => decide (letter ≠ '@')) address.toList
          rw [rest] at head
          simpa using head
        subst sign
        rw [rest] at parsed whole
        dsimp only at parsed
        split at parsed
        case isTrue => cases parsed
        case isFalse filled =>
          obtain rfl := Option.some.inj parsed
          rw [Bool.or_eq_true, not_or, List.isEmpty_iff, List.isEmpty_iff] at filled
          refine ⟨String.ofList (address.toList.takeWhile (· ≠ '@')), ?_, ?_, ?_, ?_⟩
          · rw [← String.toList_inj]
            simpa using whole.symm
          · rwa [String.toList_ofList]
          · simpa using filled.1
          · simpa using filled.2
  · rintro ⟨user, rfl, first, noUser, noDomain⟩
    have letters : (user ++ "@" ++ domain).toList = user.toList ++ '@' :: domain.toList := by
      simp
    obtain ⟨before, after⟩ := cut_at_sign user.toList domain.toList first
    unfold addressDomain?
    rw [letters, before, after]
    have full {text : String} (filled : text ≠ "") : text.toList.isEmpty = false := by
      simpa using filled
    simp [full noUser, full noDomain]

theorem IsAddress.same_domain {address user domain other : String} {another : String}
    (cut : IsAddress address user domain) (again : IsAddress address another other) :
    domain = other :=
  Option.some.inj ((address_domain_iff.mpr ⟨user, cut⟩).symm.trans
    (address_domain_iff.mpr ⟨another, again⟩))

namespace Task

def domain? : Task → Option String
  | teacherExists _ domain => some domain
  | createTeacher _ domain _ _ => some domain
  | deleteTeacher _ _ domain => some domain
  | leaveGroupByUsername _ _ domain => some domain
  | _ => none

def person? : Task → Option Person
  | createTeacher person .. => some person
  | deleteTeacher person .. => some person
  | _ => none

def address? : Task → Option String
  | changeAddress _ _ address => some address
  | _ => none

/-- The arguments that a task refuses, with the error. The domain is looked at before the person. -/
inductive Refused (settings : DirectorySettings) (task : Task) : ServiceError → Prop
  | domain {domain : String} (given : task.domain? = some domain)
      (unknown : ¬settings.Accepts domain) : Refused settings task (.emailDomain domain)
  | person {domain : String} {person : Person} (given : task.domain? = some domain)
      (known : settings.Accepts domain) (about : task.person? = some person)
      (nameless : person.referrer = none) : Refused settings task (.missingReferrer person.id)
  | address {address : String} (given : task.address? = some address)
      (uncut : ∀ user domain, ¬IsAddress address user domain) :
      Refused settings task (.emailAddress address)
  | addressDomain {address user domain : String} (given : task.address? = some address)
      (cut : IsAddress address user domain) (unknown : ¬settings.Accepts domain) :
      Refused settings task (.emailDomain domain)

theorem Refused.is_validation {settings : DirectorySettings} {task : Task}
    {failure : ServiceError} (refused : task.Refused settings failure) : failure.IsValidation := by
  cases refused <;> trivial

end Task

variable {service : Service} {Result : Type}

section Refusing

theorem realm_refused {domain : String} (unknown : ¬service.settings.Accepts domain)
    (next : Realm → Attempt Result) :
    ∃ message, (service.realm domain >>= next).run =
      (Attempt.refuse message (.emailDomain domain) : Attempt Result).run := by
  unfold realm
  rw [DirectorySettings.realm_none_iff.mpr unknown]
  exact ⟨_, rfl⟩

theorem referrer_refused {domain : String} {person : Person}
    (known : service.settings.Accepts domain) (nameless : person.referrer = none)
    (next : Realm → String → Attempt Result) :
    ∃ message, (do
        let realm ← service.realm domain
        let username ← referrer person
        next realm username : Attempt Result).run =
      (Attempt.refuse message (.missingReferrer person.id) : Attempt Result).run := by
  unfold realm referrer
  rw [nameless]
  cases found : service.settings.realm? domain with
  | some realm => exact ⟨_, rfl⟩
  | none => exact (DirectorySettings.realm_none_iff.mp found known).elim

theorem refused_runs {task : Task} {failure : ServiceError}
    (refused : task.Refused service.settings failure) :
    ∃ message, (task.perform service).run =
      (Attempt.refuse message failure : Attempt task.Value).run := by
  cases refused with
  | domain given unknown =>
      cases task <;> cases given <;> exact realm_refused unknown _
  | person given known about nameless =>
      cases task <;> cases given <;> cases about <;> exact referrer_refused known nameless _
  | address given uncut =>
      cases task with
      | changeAddress personId referrer address =>
          obtain rfl := Option.some.inj given
          have unparsed : addressDomain? address = none := by
            by_contra parsed
            obtain ⟨domain, parsed⟩ := Option.ne_none_iff_exists'.mp parsed
            obtain ⟨user, cut⟩ := address_domain_iff.mp parsed
            exact uncut user domain cut
          change ∃ message, (service.changeAddress personId referrer address).run = _
          unfold changeAddress
          rw [unparsed]
          exact ⟨_, rfl⟩
      | _ => cases given
  | addressDomain given cut unknown =>
      cases task with
      | changeAddress personId referrer address =>
          obtain rfl := Option.some.inj given
          change ∃ message, (service.changeAddress personId referrer address).run = _
          unfold changeAddress
          rw [address_domain_iff.mpr ⟨_, cut⟩]
          exact realm_refused unknown _
      | _ => cases given

end Refusing

section Failing

variable {kinds : ServiceError → Prop} {base username : String} {names : List String}

theorem bind_fails (connection : ∀ source, kinds (.bind source)) : service.bind.FailsAs kinds := by
  have unable (failure : DirectoryError) : (unbound failure).Gives kinds :=
    Program.gives_logged (Program.gives_pure (connection failure))
  refine Attempt.fails_bind (Attempt.fails_call unable) fun _ => ?_
  exact Attempt.fails_bind (Attempt.fails_call unable) fun _ => Attempt.fails_lift

theorem find_users_fails (plain : ∀ failure, kinds (.directory failure)) :
    (findUsers base username names).FailsAs kinds :=
  Attempt.fails_call fun failure => Program.gives_pure (plain failure)

theorem require_person_fails {absence : String} (plain : ∀ failure, kinds (.directory failure))
    (absent : kinds .teacherNotFound) :
    (service.requirePerson username names absence).FailsAs kinds := by
  refine Attempt.fails_bind (find_users_fails plain) fun entries => ?_
  cases entries with
  | nil => exact Attempt.fails_refuse absent
  | cons entry rest => exact Attempt.fails_pure

abbrev Late (failure : ServiceError) : Prop := ¬failure.IsValidation

theorem reported_fails {level : LogLevel} {message : String} {fields : List (String × String)}
    {value : Result} :
    (do Program.log level message fields; return value : Attempt Result).FailsAs kinds :=
  Attempt.fails_bind Attempt.fails_lift fun _ => Attempt.fails_pure

theorem teacher_exists_late {base referrer : String} :
    (service.teacherExistsOnce base referrer).FailsAs Late := by
  refine Attempt.fails_bind (bind_fails fun _ => id) fun _ => ?_
  exact Attempt.fails_bind (find_users_fails fun _ => id) fun _ => Attempt.fails_pure

theorem create_entry_late {person : Person} {referrer base name entryUuid : String} :
    (service.createTeacherOnce person referrer base name entryUuid).FailsAs Late := by
  refine Attempt.fails_bind (bind_fails fun _ => id) fun _ => ?_
  refine Attempt.fails_bind (find_users_fails fun _ => id) fun existing => ?_
  split
  · exact reported_fails
  · refine Attempt.fails_bind (Attempt.fails_call fun _ => ?_) fun _ => ?_
    · exact Program.gives_logged (Program.gives_pure id)
    · refine Attempt.fails_bind Attempt.fails_lift fun _ => ?_
      exact Attempt.fails_bind Attempt.fails_lift fun _ => Attempt.fails_pure

theorem delete_entry_late {person : Person} {referrer base schoolCode : String} :
    (service.deleteTeacherOnce person referrer base schoolCode).FailsAs Late := by
  refine Attempt.fails_bind (bind_fails fun _ => id) fun _ => ?_
  refine Attempt.fails_bind (find_users_fails fun _ => id) fun entries => ?_
  cases entries with
  | nil => exact reported_fails
  | cons entry rest =>
      refine Attempt.fails_bind (Attempt.fails_call fun _ => ?_) fun _ => reported_fails
      exact Program.gives_logged (Program.gives_pure id)

theorem change_address_late {personId referrer address : String} :
    (service.changeAddressOnce personId referrer address).FailsAs Late := by
  refine Attempt.fails_bind (bind_fails fun _ => id) fun _ => ?_
  refine Attempt.fails_bind (require_person_fails (fun _ => id) id) fun entry => ?_
  refine Attempt.fails_bind (Attempt.fails_call fun _ => ?_) fun _ => reported_fails
  exact Program.gives_logged (Program.gives_pure id)

theorem leave_group_late {username schoolCode personName : String} :
    (service.leaveGroupOnce username schoolCode personName).FailsAs Late := by
  have refused (failure : DirectoryError) : (do
      Program.log .error s!"LDAP: Failed to remove person from group {groupId schoolCode}, errMsg: {failure.message}" []
      return .leaveGroup (groupId schoolCode) failure.message : Program ServiceError).Gives Late :=
    Program.gives_logged (Program.gives_pure id)
  refine Attempt.fails_bind (bind_fails fun _ => id) fun _ => ?_
  refine Attempt.fails_bind (Attempt.fails_bind (Attempt.fails_call refused) fun _ =>
    Attempt.fails_pure) fun found => ?_
  cases found with
  | none => exact Attempt.fails_refuse id
  | some entry =>
      dsimp only
      split
      · exact Attempt.fails_refuse id
      · split
        · exact Attempt.fails_bind (Attempt.fails_call refused) fun _ => reported_fails
        · exact Attempt.fails_bind (Attempt.fails_call refused) fun _ => reported_fails

theorem join_new_late {username schoolCode name : String} :
    (service.joinNewTeacher username schoolCode name).FailsAs Late := by
  intro steps outcome taken failure same
  obtain ⟨_, _, _, -, -, -, ended⟩ := join_new_takes taken
  rcases ended with ⟨_, -, rfl⟩ | ⟨reason, -, rfl⟩
  · cases same
  · obtain rfl := Except.error.inj same
    cases reason <;> exact id

theorem fails_after_realm {domain : String} {next : Realm → Attempt Result}
    (refused : ¬service.settings.Accepts domain → kinds (.emailDomain domain))
    (rest : service.settings.Accepts domain → ∀ realm, (next realm).FailsAs kinds) :
    (service.realm domain >>= next).FailsAs kinds := by
  unfold realm
  cases found : service.settings.realm? domain with
  | some realm => exact rest (DirectorySettings.accepts_of_realm found) realm
  | none =>
      exact Attempt.fails_refuse_bind (refused (DirectorySettings.realm_none_iff.mp found))

theorem fails_after_referrer {person : Person} {next : String → Attempt Result}
    (refused : person.referrer = none → kinds (.missingReferrer person.id))
    (rest : ∀ username, (next username).FailsAs kinds) :
    (referrer person >>= next).FailsAs kinds := by
  unfold referrer
  cases named : person.referrer with
  | some username => exact rest username
  | none => exact Attempt.fails_refuse_bind (refused named)

theorem checked_fails {task : Task} (checks : task.domain?.isSome ∨ task.address?.isSome) :
    (task.perform service).FailsAs fun failure =>
      failure.IsValidation → task.Refused service.settings failure := by
  have late {Value : Type} {attempt : Attempt Value} (fails : attempt.FailsAs Late) :
      attempt.FailsAs fun failure =>
        failure.IsValidation → task.Refused service.settings failure :=
    fails.weaken fun _ late validation => (late validation).elim
  cases task with
  | teacherExists referrer domain =>
      refine fails_after_realm (fun unknown _ => .domain rfl unknown) fun _ realm => ?_
      exact late (Attempt.fails_retry teacher_exists_late)
  | createTeacher person domain schoolCode entryUuid =>
      refine fails_after_realm (fun unknown _ => .domain rfl unknown) fun known realm => ?_
      refine fails_after_referrer (fun nameless _ => .person rfl known rfl nameless)
        fun username => ?_
      refine Attempt.fails_bind (late (Attempt.fails_retry create_entry_late)) fun created => ?_
      cases created with
      | none => exact Attempt.fails_pure
      | some created =>
          refine Attempt.fails_bind (late join_new_late) fun _ => ?_
          dsimp only
          split
          · exact Attempt.fails_bind Attempt.fails_lift fun _ => Attempt.fails_pure
          · exact Attempt.fails_pure
  | deleteTeacher person schoolCode domain =>
      refine fails_after_realm (fun unknown _ => .domain rfl unknown) fun known realm => ?_
      refine fails_after_referrer (fun nameless _ => .person rfl known rfl nameless)
        fun username => ?_
      exact late (Attempt.fails_retry delete_entry_late)
  | changeAddress personId referrer address =>
      change (service.changeAddress personId referrer address).FailsAs _
      unfold changeAddress
      cases parsed : addressDomain? address with
      | none =>
          refine Attempt.fails_refuse fun _ => .address rfl fun user domain cut => ?_
          rw [address_domain_iff.mpr ⟨user, cut⟩] at parsed
          cases parsed
      | some domain =>
          obtain ⟨user, cut⟩ := address_domain_iff.mp parsed
          refine fails_after_realm (fun unknown _ => .addressDomain rfl cut unknown)
            fun _ realm => ?_
          refine Attempt.fails_bind (late (Attempt.fails_retry change_address_late)) fun _ => ?_
          exact Attempt.fails_bind Attempt.fails_lift fun _ => Attempt.fails_pure
  | leaveGroupByUsername username schoolCode domain =>
      refine fails_after_realm (fun unknown _ => .domain rfl unknown) fun _ realm => ?_
      exact late (Attempt.fails_retry leave_group_late)
  | _ => simp [Task.domain?, Task.address?] at checks

end Failing

theorem accepted_address_iff {settings : DirectorySettings} {task : Task} {address : String}
    (given : task.address? = some address) :
    (∀ failure, ¬task.Refused settings failure) ↔
      ∃ user domain, IsAddress address user domain ∧ settings.Accepts domain := by
  constructor
  · intro unrefused
    have parsed : ∃ user domain, IsAddress address user domain := by
      by_contra uncut
      refine unrefused _ (.address given fun user domain cut => uncut ⟨user, domain, cut⟩)
    obtain ⟨user, domain, cut⟩ := parsed
    refine ⟨user, domain, cut, ?_⟩
    by_contra unknown
    exact unrefused _ (.addressDomain given cut unknown)
  · rintro ⟨user, domain, cut, known⟩ failure refused
    cases refused with
    | domain other => cases task with
        | changeAddress => cases other
        | _ => cases given
    | person other => cases task with
        | changeAddress => cases other
        | _ => cases given
    | address same uncut =>
        obtain rfl := Option.some.inj (given.symm.trans same)
        exact uncut user domain cut
    | addressDomain same again unknown =>
        obtain rfl := Option.some.inj (given.symm.trans same)
        exact unknown (cut.same_domain again ▸ known)

/-- Arguments are checked completely and before anything else: a task that checks them fails over them
exactly if they are refused, and with refused arguments it does nothing but log that. -/
theorem arguments_checked_first {State : Type} (world : World State) (state : State)
    (service : Service) (task : Task)
    (checks : task.domain?.isSome ∨ task.address?.isSome) :
    let run := (task.perform service).run.run world state
    (∀ failure, run.result = .error failure ∧ failure.IsValidation ↔
        task.Refused service.settings failure) ∧
      (∀ failure, task.Refused service.settings failure →
        exchanges run.steps = [] ∧ waits run.steps = [] ∧ counters run.steps = [] ∧
          events run.steps = []) ∧
        ∀ address, task.address? = some address →
          ((∀ failure, ¬task.Refused service.settings failure) ↔
            ∃ user domain, IsAddress address user domain ∧ service.settings.Accepts domain) := by
  intro run
  have taken : (task.perform service).run.Takes run.steps run.result :=
    Program.run_takes world _ state
  have logged {failure : ServiceError} (refused : task.Refused service.settings failure) :
      ∃ message, run.steps = [⟨.log ⟨.error, message, []⟩, ()⟩] ∧ run.result = .error failure := by
    obtain ⟨message, runs⟩ := refused_runs refused
    rw [runs] at taken
    exact ⟨message, (Attempt.takes_refuse message failure _ _).mp taken⟩
  refine ⟨fun failure => ⟨?_, fun refused => ?_⟩, fun failure refused => ?_,
    fun address => accepted_address_iff⟩
  · rintro ⟨failed, validation⟩
    exact checked_fails checks taken failure failed validation
  · obtain ⟨_, -, failed⟩ := logged refused
    exact ⟨failed, refused.is_validation⟩
  · obtain ⟨_, steps, -⟩ := logged refused
    rw [steps]
    exact ⟨rfl, rfl, rfl, rfl⟩

/-- An address with two at signs is cut at the first one, and what follows is the domain of no realm. -/
theorem second_sign_refused :
    let service : Service :=
      ⟨⟨"", "cn=admin", some "secret", "dc=schule", some "schulen.example", none, none, none, none,
        none⟩, .immediate 2⟩
    let task : Task := .changeAddress "7" "anna" "anna@@schulen.example"
    let run := (task.perform service).run.run Stage.world ⟨Script.empty, 0, false, 0⟩
    (task.domain?.isSome ∨ task.address?.isSome) ∧
      task.Refused service.settings (.emailDomain "@schulen.example") ∧
        run.result = .error (.emailDomain "@schulen.example") ∧ exchanges run.steps = [] := by
  intro service task run
  obtain ⟨fails, silent, -⟩ := arguments_checked_first Stage.world ⟨Script.empty, 0, false, 0⟩
    service task (.inr rfl)
  have failed : run.result = .error (.emailDomain "@schulen.example") := by decide +kernel
  have refused := (fails (.emailDomain "@schulen.example")).mp ⟨failed, trivial⟩
  exact ⟨.inr rfl, refused, failed, (silent _ refused).1⟩

end Service

end TeacherDirectory
