import TeacherDirectory.Proofs.Program.Conduct
import TeacherDirectory.Proofs.Retry.Attempts
import TeacherDirectory.Proofs.Retry.Waits
import TeacherDirectory.Proofs.Service.Jobs
import TeacherDirectory.Proofs.Service.RenamingCalls

/-!
# What writes rest on

A job that writes has asked on the same connection before. A change or a deletion is of an entry that
was found there: the first one of a username, the first one of a school's group, or any group that
lists a name which a person had before. An addition is of something that was looked for there and not
found. So no write goes to a name that was put together from the arguments alone.
-/

namespace TeacherDirectory

set_option autoImplicit false

def Call.changed? : Call → Option String
  | .modify name _ => some name
  | .rename name _ => some name
  | .delete name => some name
  | _ => none

theorem Call.Opens.unwritten {request : Call} (opens : request.Opens) :
    request.isWrite = false := by
  cases request with
  | connect => rfl
  | bind name password => rfl
  | _ => exact opens.elim

namespace Service

open DistinguishedName

/-- What an operation is about: the person with a username, a school, and the names that entries had
before they were renamed. -/
structure Aim where
  username : Option String
  schoolCode : Option String
  oldName : String → Prop

def unitSearch (service : Service) (schoolCode : String) : Call :=
  .search (service.schoolName schoolCode) .base (.equal "objectClass" "organizationalUnit") []

/-- The searches made before on a connection that a write rests on. Additions are given with all that
is written. -/
inductive Grounded (service : Service) (aim : Aim) (earlier : List Exchange) : Call → Prop
  | person {request : Call} {base username : String} {names : List String} {entry : Entry}
      {others : List Entry} (about : aim.username = some username)
      (found : ⟨userSearch base username names, .ok (entry :: others)⟩ ∈ earlier)
      (changes : request.changed? = some entry.name) : Grounded service aim earlier request
  | group {request : Call} {schoolCode : String} {entry : Entry} {others : List Entry}
      (about : aim.schoolCode = some schoolCode)
      (found : ⟨service.groupSearch schoolCode, .ok (entry :: others)⟩ ∈ earlier)
      (changes : request.changed? = some entry.name) : Grounded service aim earlier request
  | member {oldName : String} {groups : List Entry} {entry : Entry} {changes : List Change}
      (about : aim.oldName oldName)
      (found : ⟨service.memberSearch oldName, .ok groups⟩ ∈ earlier) (listed : entry ∈ groups) :
      Grounded service aim earlier (.modify entry.name changes)
  | newTeacher {base username : String} {names : List String} {realm : Realm}
      {attributes : Attributes} (about : aim.username = some username)
      (covers : base = service.base ∨ base = service.realmName realm)
      (absent : ⟨userSearch base username names, .ok []⟩ ∈ earlier)
      (written : attributes = placeholderAttributes username ∨
        ∃ person entryUuid, attributes = teacherAttributes person username entryUuid) :
      Grounded service aim earlier (.add (service.teacherName username realm) attributes)
  | newUnit {schoolCode : String} (about : aim.schoolCode = some schoolCode)
      (absent : ⟨service.unitSearch schoolCode, .ok []⟩ ∈ earlier) :
      Grounded service aim earlier (.add (service.schoolName schoolCode)
        [("objectclass", ["organizationalUnit"]), ("ou", [schoolCode])])
  | newGroup {schoolCode personName : String} (about : aim.schoolCode = some schoolCode)
      (absent : ⟨service.groupSearch schoolCode, .ok []⟩ ∈ earlier) :
      Grounded service aim earlier (.add (service.groupName schoolCode)
        [("objectclass", ["groupOfNames"]), ("cn", [groupId schoolCode]), ("member", [personName])])

def AllGrounded (service : Service) (aim : Aim) (history : List Exchange) : Prop :=
  ∀ before exchange after, history = before ++ exchange :: after →
    exchange.request.isWrite = true → service.Grounded aim before exchange.request

structure Aim.Within (narrow wide : Aim) : Prop where
  username : ∀ username, narrow.username = some username → wide.username = some username
  schoolCode : ∀ schoolCode, narrow.schoolCode = some schoolCode → wide.schoolCode = some schoolCode
  oldName : ∀ name, narrow.oldName name → wide.oldName name

variable {service : Service} {aim wide : Aim} {history : List Exchange}

theorem Grounded.weaken {request : Call} (grounded : service.Grounded aim history request)
    (within : aim.Within wide) : service.Grounded wide history request := by
  cases grounded with
  | person about found changes => exact .person (within.username _ about) found changes
  | group about found changes => exact .group (within.schoolCode _ about) found changes
  | member about found listed => exact .member (within.oldName _ about) found listed
  | newTeacher about covers absent written =>
      exact .newTeacher (within.username _ about) covers absent written
  | newUnit about absent => exact .newUnit (within.schoolCode _ about) absent
  | newGroup about absent => exact .newGroup (within.schoolCode _ about) absent

def grounding (service : Service) (aim : Aim) : Conduct := fun earlier request =>
  request.isWrite = true → service.Grounded aim earlier request

/-- On an open connection only requests are made, and every write has its ground. -/
def working (service : Service) (aim : Aim) : Conduct := fun earlier request =>
  request.IsRequest ∧ service.grounding aim earlier request

theorem AllGrounded.weaken (grounded : service.AllGrounded aim history)
    (within : aim.Within wide) : service.AllGrounded wide history :=
  fun before exchange after same writes => (grounded before exchange after same writes).weaken within

theorem Grounded.working {request : Call} (grounded : service.Grounded aim history request)
    (isRequest : request.IsRequest) : service.working aim history request :=
  ⟨isRequest, fun _ => grounded⟩

theorem working_search {base : String} {scope : SearchScope} {filter : Filter String}
    {names : List String} : service.working aim history (.search base scope filter names) :=
  ⟨id, nofun⟩

def opening (service : Service) : List Exchange :=
  [⟨.connect, .ok ()⟩,
    ⟨.bind service.settings.bindName (service.settings.password.getD ""), .ok ()⟩]

def Works {Result : Type} (service : Service) (aim : Aim) (attempt : Attempt Result)
    (history : List Exchange) : Prop :=
  attempt.KeepsTo (service.working aim) (fun _ _ => True) (fun _ _ => True) history

def WorksFirst {Result : Type} (service : Service) (aim : Aim) (attempt : Attempt Result) : Prop :=
  ∃ rest : Attempt Result, attempt = (do service.bind; rest) ∧ service.Works aim rest service.opening

namespace Aim

def nothing : Aim := ⟨none, none, fun _ => False⟩

def ofUsername (username : String) : Aim := ⟨some username, none, fun _ => False⟩

def ofSchool (schoolCode : String) : Aim := ⟨none, some schoolCode, fun _ => False⟩

def ofOldName (name : String) : Aim := ⟨none, none, fun oldName => oldName = name⟩

end Aim

section Parts

variable {base username : String} {names : List String} {conduct : Conduct}
  {bad : ServiceError → List Exchange → Prop}

theorem keeps_find_users {good : List Entry → List Exchange → Prop}
    (allowed : conduct history (userSearch base username names)) :
    (findUsers base username names).KeepsTo conduct good bad history ↔
      (∀ entries, good entries (history ++ [⟨userSearch base username names, .ok entries⟩])) ∧
        ∀ failure, bad (.directory failure)
          (history ++ [⟨userSearch base username names, .error failure⟩]) := by
  unfold findUsers
  rw [Attempt.keeps_call]
  exact and_iff_right allowed

theorem keeps_require_person {absence : String} {good : Entry → List Exchange → Prop}
    (allowed : conduct history (userSearch service.base username names)) :
    (service.requirePerson username names absence).KeepsTo conduct good bad history ↔
      (∀ entry others, good entry
          (history ++ [⟨userSearch service.base username names, .ok (entry :: others)⟩])) ∧
        bad .teacherNotFound (history ++ [⟨userSearch service.base username names, .ok []⟩]) ∧
          ∀ failure, bad (.directory failure)
            (history ++ [⟨userSearch service.base username names, .error failure⟩]) := by
  unfold requirePerson
  rw [Attempt.keeps_bind, keeps_find_users allowed, ← and_assoc]
  refine and_congr_left fun _ => ⟨fun each => ⟨fun entry others => ?_, ?_⟩, fun given entries => ?_⟩
  · exact each (entry :: others)
  · exact Attempt.keeps_refuse.mp (each [])
  · cases entries with
    | nil => exact Attempt.keeps_refuse.mpr given.2
    | cons entry others => exact given.1 entry others

theorem keeps_realm {domain : String} {good : Realm → List Exchange → Prop} :
    (service.realm domain).KeepsTo conduct good bad history ↔
      (∀ realm, service.settings.realm? domain = some realm → good realm history) ∧
        (service.settings.realm? domain = none → bad (.emailDomain domain) history) := by
  unfold realm
  cases service.settings.realm? domain with
  | none => simp [Attempt.keeps_refuse]
  | some realm => simp [Attempt.keeps_pure]

theorem searched_last {exchange : Exchange} : exchange ∈ history ++ [exchange] :=
  List.mem_append_right history (List.mem_singleton.mpr rfl)

theorem works_from_person {Result : Type} {absence : String} {next : Entry → Attempt Result}
    (rest : ∀ entry others, service.Works aim (next entry)
      (history ++ [⟨userSearch service.base username names, .ok (entry :: others)⟩])) :
    service.Works aim (service.requirePerson username names absence >>= next) history :=
  Attempt.keeps_bind.mpr ((keeps_require_person working_search).mpr ⟨rest, trivial, fun _ => trivial⟩)

/-- A write that has its ground; whether it is carried out or refused, the work goes on from there. -/
theorem works_by_write {Result : Type} {request : Call}
    {refused : DirectoryError → Program ServiceError} {next : request.Reply → Attempt Result}
    (allowed : service.working aim history request)
    (quiet : ∀ failure, (refused failure).KeepsTo (service.working aim) (fun _ _ => True)
      (history ++ [⟨request, .error failure⟩]))
    (rest : ∀ reply, service.Works aim (next reply) (history ++ [⟨request, .ok reply⟩])) :
    service.Works aim (Attempt.call request refused >>= next) history :=
  Attempt.keeps_bind.mpr (Attempt.keeps_call.mpr ⟨allowed, rest, quiet⟩)

theorem works_logged {Result : Type} {level : LogLevel} {message : String}
    {fields : List (String × String)} {rest : Attempt Result}
    (works : service.Works aim rest history) :
    service.Works aim (do Program.log level message fields; rest) history :=
  Attempt.keeps_bind.mpr (Attempt.keeps_log.mpr works)

theorem works_fetched {Result : Type} {value : Option String → Result} :
    service.Works aim (do return value (← fetchEntryUuid base username) : Attempt Result)
      history := by
  refine Attempt.keeps_bind.mpr (Attempt.keeps_lift.mpr (Program.keeps_bind.mpr ?_))
  refine Program.keeps_call.mpr ⟨working_search, fun answer => ?_⟩
  cases answer with
  | ok entries => trivial
  | error failure => exact Program.keeps_logged.mpr trivial

end Parts

section Persons

variable {referrer base schoolCode personId : String} {realm : Realm}

theorem exists_works :
    service.WorksFirst (.ofUsername referrer) (service.teacherExistsOnce base referrer) :=
  ⟨_, rfl, Attempt.keeps_bind.mpr ((keeps_find_users working_search).mpr ⟨fun _ => trivial, fun _ => trivial⟩)⟩

theorem create_works {person : Person} {entryUuid : String} :
    service.WorksFirst (.ofUsername referrer)
      (service.createTeacherOnce person referrer (service.realmName realm)
        (service.teacherName referrer realm) entryUuid) := by
  refine ⟨_, rfl, Attempt.keeps_bind.mpr ((keeps_find_users working_search).mpr ⟨fun existing => ?_,
    fun _ => trivial⟩)⟩
  split
  case isTrue => exact works_logged trivial
  case isFalse none =>
    obtain rfl : existing = [] := by simpa using none
    refine works_by_write ?_ (fun _ => Program.keeps_logged.mpr trivial) fun _ =>
      works_logged works_fetched
    exact (Grounded.newTeacher rfl (.inr rfl) searched_last
      (.inr ⟨person, entryUuid, rfl⟩)).working id

theorem delete_works {person : Person} :
    service.WorksFirst (.ofUsername referrer)
      (service.deleteTeacherOnce person referrer base schoolCode) := by
  refine ⟨_, rfl, Attempt.keeps_bind.mpr ((keeps_find_users working_search).mpr ⟨fun entries => ?_,
    fun _ => trivial⟩)⟩
  cases entries with
  | nil => exact works_logged trivial
  | cons entry others =>
      refine works_by_write ?_ (fun _ => Program.keeps_logged.mpr trivial) fun _ =>
        works_logged trivial
      exact (Grounded.person rfl searched_last rfl).working id

theorem delete_by_referrer_works :
    service.WorksFirst (.ofUsername referrer) (service.deleteByReferrerOnce referrer) := by
  refine ⟨_, rfl, works_from_person fun entry others => ?_⟩
  refine works_by_write ?_ (fun _ => Program.keeps_logged.mpr trivial) fun _ =>
    works_logged trivial
  exact (Grounded.person rfl searched_last rfl).working id

theorem change_names_works {givenName surname newUsername : Option String} :
    service.WorksFirst (.ofUsername referrer)
      (service.modifyAttributesOnce referrer givenName surname newUsername) := by
  refine ⟨_, rfl, works_from_person fun entry others => ?_⟩
  dsimp only
  split
  case isTrue => exact works_logged trivial
  case isFalse =>
    refine works_by_write ?_ (fun _ => trivial) fun _ => works_logged ?_
    · exact (Grounded.person rfl searched_last rfl).working id
    cases newUsername with
    | none => trivial
    | some username =>
        refine works_by_write ?_ (fun _ => trivial) fun _ => works_logged trivial
        exact (Grounded.person rfl (List.mem_append_left _ searched_last) rfl).working id

theorem keeps_report_missing {conduct : Conduct} {missing : List String}
    {post : Unit → List Exchange → Prop} :
    (reportMissing personId referrer missing).KeepsTo conduct post history ↔ post () history := by
  induction missing with
  | nil => exact Program.keeps_pure
  | cons name rest induction =>
      unfold reportMissing
      rw [Program.keeps_bind, Program.keeps_log, induction]

theorem attributes_works {domain : String} :
    service.WorksFirst (.ofUsername referrer)
      (service.attributesOnce personId referrer domain) := by
  refine ⟨_, rfl, Attempt.keeps_bind.mpr ((keeps_find_users working_search).mpr ⟨fun entries => ?_,
    fun _ => trivial⟩)⟩
  cases entries with
  | cons entry others =>
      exact Attempt.keeps_bind.mpr (Attempt.keeps_lift.mpr (keeps_report_missing.mpr trivial))
  | nil =>
      refine works_logged (Attempt.keeps_bind.mpr (keeps_realm.mpr ⟨fun realm _ => ?_,
        fun _ => trivial⟩))
      refine works_by_write ?_ (fun _ => Program.keeps_logged.mpr trivial) fun _ =>
        works_logged works_fetched
      exact (Grounded.newTeacher rfl (.inl rfl) searched_last (.inl rfl)).working id

theorem change_address_works {address : String} :
    service.WorksFirst (.ofUsername referrer)
      (service.changeAddressOnce personId referrer address) := by
  refine ⟨_, rfl, works_from_person fun entry others => ?_⟩
  refine works_by_write ?_ (fun _ => Program.keeps_logged.mpr trivial) fun _ =>
    works_logged trivial
  exact (Grounded.person rfl searched_last rfl).working id

theorem change_password_works :
    service.WorksFirst (.ofUsername referrer)
      (service.changePasswordOnce personId referrer) := by
  refine ⟨_, rfl, works_from_person fun entry others => ?_⟩
  refine Attempt.keeps_bind.mpr (Attempt.keeps_lift.mpr (Program.keeps_draw.mpr fun draws => ?_))
  refine works_by_write ?_ (fun _ => Program.keeps_logged.mpr trivial) fun _ =>
    works_logged trivial
  exact (Grounded.person rfl searched_last rfl).working id

theorem groups_work :
    service.WorksFirst (.ofUsername referrer) (service.groupsOnce personId referrer) := by
  refine ⟨_, rfl, works_from_person fun entry others => ?_⟩
  refine works_by_write working_search (fun _ => Program.keeps_logged.mpr trivial) fun groups => ?_
  dsimp only
  split
  · exact works_logged trivial
  · trivial

end Persons

section Groups

variable {schoolCode personName referrer username oldName : String}

theorem works_on_group {Result : Type} {refused : DirectoryError → Program ServiceError}
    {next : Option Entry → Attempt Result}
    (quiet : ∀ failure between, (refused failure).KeepsTo (service.working aim) (fun _ _ => True)
      between)
    (missing : service.Works aim (next none)
      (history ++ [⟨service.groupSearch schoolCode, .ok []⟩]))
    (rest : ∀ entry others, service.Works aim (next (some entry))
      (history ++ [⟨service.groupSearch schoolCode, .ok (entry :: others)⟩])) :
    service.Works aim (service.findGroup (groupId schoolCode) refused >>= next) history := by
  refine Attempt.keeps_bind.mpr (Attempt.keeps_bind.mpr (Attempt.keeps_call.mpr
    ⟨working_search, fun groups => ?_, fun _ => quiet _ _⟩))
  cases groups with
  | nil => exact missing
  | cons entry others => exact rest entry others

theorem works_for_school {Result : Type} {refused : DirectoryError → Program ServiceError}
    {next : Unit → Attempt Result} (about : aim.schoolCode = some schoolCode)
    (quiet : ∀ failure between, (refused failure).KeepsTo (service.working aim) (fun _ _ => True)
      between)
    (rest : ∀ between, service.Works aim (next ()) between) :
    service.Works aim (service.ensureSchool schoolCode refused >>= next) history := by
  have roles (between : List Exchange) :
      service.Works aim (service.lookForRole schoolCode refused) between := by
    refine works_by_write working_search (fun _ => quiet _ _) fun roles => ?_
    split
    · exact Attempt.keeps_log.mpr trivial
    · trivial
  have ensured : service.Works aim (service.ensureSchool schoolCode refused) history := by
    refine works_by_write working_search (fun _ => quiet _ _) fun units => ?_
    dsimp only
    split
    case isFalse => exact roles _
    case isTrue none =>
      obtain rfl : units = [] := List.isEmpty_iff.mp none
      refine works_by_write ?_ (fun _ => ?_) fun _ => works_logged (roles _)
      · exact (Grounded.newUnit about searched_last).working id
      · rw [Program.keeps_bind, Program.keeps_log]
        exact quiet _ _
  refine Attempt.keeps_bind.mpr (ensured.weaken fun outcome between _ => ?_)
  cases outcome with
  | ok _ => exact rest between
  | error failure => trivial

theorem join_group_works :
    service.WorksFirst (.ofSchool schoolCode)
      (service.joinGroupOnce referrer schoolCode personName) := by
  refine ⟨_, rfl, works_for_school rfl (fun _ _ => trivial) fun between => ?_⟩
  refine works_on_group (fun _ _ => trivial) ?_ fun entry others => ?_
  · refine works_by_write ?_ (fun _ => Program.keeps_logged.mpr trivial) fun _ =>
      works_logged trivial
    exact (Grounded.newGroup rfl searched_last).working id
  · dsimp only
    split
    · exact works_logged trivial
    · refine works_by_write ?_ (fun _ => Program.keeps_logged.mpr trivial) fun _ =>
        works_logged trivial
      exact (Grounded.group rfl searched_last rfl).working id

theorem leave_group_works :
    service.WorksFirst (.ofSchool schoolCode)
      (service.leaveGroupOnce username schoolCode personName) := by
  refine ⟨_, rfl, works_on_group (fun _ _ => Program.keeps_logged.mpr trivial) ?_
    fun entry others => ?_⟩
  · exact Attempt.keeps_refuse.mpr trivial
  have grounded {request : Call} (changes : request.changed? = some entry.name) :
      service.Grounded (.ofSchool schoolCode)
        (service.opening ++ [⟨service.groupSearch schoolCode, .ok (entry :: others)⟩]) request :=
    .group rfl searched_last changes
  dsimp only
  split
  · exact Attempt.keeps_refuse.mpr trivial
  split
  · exact works_by_write ((grounded rfl).working id) (fun _ => Program.keeps_logged.mpr trivial)
      fun _ => works_logged trivial
  · exact works_by_write ((grounded rfl).working id) (fun _ => Program.keeps_logged.mpr trivial)
      fun _ => works_logged trivial

/-- Groups of one answer are changed one after the other. The induction is on those that are left. -/
theorem update_groups_work {oldName newName : String} {groups left : List Entry}
    (about : aim.oldName oldName) (listed : ∀ group ∈ left, group ∈ groups)
    (found : ⟨service.memberSearch oldName, .ok groups⟩ ∈ history) :
    (updateGroups oldName newName left).KeepsTo (service.working aim) (fun _ _ => True)
      history := by
  induction left generalizing history with
  | nil => trivial
  | cons group rest induction =>
      have inRest : ∀ other ∈ rest, other ∈ groups := fun other member =>
        listed other (List.mem_cons_of_mem group member)
      unfold updateGroups
      rw [Program.keeps_bind, Program.keeps_call]
      refine ⟨(Grounded.member about found (listed group List.mem_cons_self)).working id,
        fun answer => ?_⟩
      cases answer with
      | ok _ =>
          simp only [Program.keeps_bind, Program.keeps_log, Program.keeps_pure]
          exact induction inRest (List.mem_append_left _ found)
      | error failure =>
          simp only [Program.keeps_bind, Program.keeps_log, Program.keeps_pure]
          exact induction inRest (List.mem_append_left _ found)

theorem rename_in_groups_works (about : aim.oldName oldName) :
    service.Works aim (service.renameInGroups referrer username oldName) history := by
  refine works_by_write working_search (fun _ => Program.keeps_logged.mpr trivial) fun groups => ?_
  dsimp only
  split
  · exact works_logged trivial
  · refine Attempt.keeps_bind.mpr (Attempt.keeps_lift.mpr ?_)
    refine (update_groups_work about (fun _ => id) searched_last).weaken fun failures between _ => ?_
    split
    · exact works_logged (works_logged trivial)
    · exact works_logged trivial

end Groups

def Job.about {Result : Type} : Job Result → Aim
  | teacherExists referrer _ => .ofUsername referrer
  | createEntry _ referrer _ _ => .ofUsername referrer
  | deleteEntry _ referrer _ _ => .ofUsername referrer
  | deleteByReferrer referrer => .ofUsername referrer
  | changeNames referrer .. => .ofUsername referrer
  | followRename _ _ oldName => .ofOldName oldName
  | attributes _ referrer _ => .ofUsername referrer
  | changeAddress _ referrer _ => .ofUsername referrer
  | changePassword _ referrer => .ofUsername referrer
  | joinGroup _ schoolCode _ => .ofSchool schoolCode
  | leaveGroup _ schoolCode _ => .ofSchool schoolCode
  | groups _ referrer => .ofUsername referrer

theorem job_works {Result : Type} (job : Job Result) :
    service.WorksFirst job.about (job.once service) := by
  cases job with
  | teacherExists referrer realm => exact exists_works
  | createEntry person referrer realm entryUuid => exact create_works
  | deleteEntry person referrer realm schoolCode => exact delete_works
  | deleteByReferrer referrer => exact delete_by_referrer_works
  | changeNames referrer givenName surname newUsername => exact change_names_works
  | followRename referrer username oldName => exact ⟨_, rfl, rename_in_groups_works rfl⟩
  | attributes personId referrer domain => exact attributes_works
  | changeAddress personId referrer address => exact change_address_works
  | changePassword personId referrer => exact change_password_works
  | joinGroup referrer schoolCode personName => exact join_group_works
  | leaveGroup username schoolCode personName => exact leave_group_works
  | groups personId referrer => exact groups_work

section Traces

/-- A trace of one attempt. All its calls are on one connection, each write there has its ground, and
nothing is counted or handed over. -/
structure Attempted (service : Service) (aim : Aim) (steps : List Step) : Prop where
  connection : OnConnection service.settings (exchanges steps)
  grounds : service.AllGrounded aim (exchanges steps)
  uncounted : counters steps = []
  unheard : events steps = []

theorem bind_keeps {conduct : Conduct} (opens : ∀ before request, request.Opens →
    conduct before request) :
    service.bind.KeepsTo conduct (fun _ after => after = service.opening)
      (fun _ after => OnConnection service.settings after ∧
        ∀ exchange ∈ after, exchange.request.Opens) [] := by
  unfold Service.bind
  rw [Attempt.keeps_bind, Attempt.keeps_call]
  refine ⟨opens _ _ trivial, fun _ => ?_, fun failure => ?_⟩
  · rw [Attempt.keeps_bind, Attempt.keeps_call]
    refine ⟨opens _ _ trivial, fun _ => Attempt.keeps_log.mpr rfl, fun failure => ?_⟩
    exact Program.keeps_logged.mpr ⟨.unbound failure, by simp [Call.Opens]⟩
  · exact Program.keeps_logged.mpr ⟨.unopened failure, by simp [Call.Opens]⟩

theorem bind_attempted {steps : List Step} {outcome : Except ServiceError Unit}
    (taken : service.bind.run.Takes steps outcome) : service.Attempted aim steps := by
  have opened : service.bind.KeepsTo (service.grounding aim) _ _ _ :=
    bind_keeps fun _ _ opens writes => absurd (opens.unwritten.symm.trans writes) nofun
  obtain ⟨admitted, uncounted, unheard, ended⟩ := opened.traced taken
  refine ⟨?_, fun _ _ _ same => (same ▸ admitted).before, uncounted, unheard⟩
  cases outcome with
  | ok _ => exact (show exchanges steps = service.opening from ended) ▸ .bound (List.forall_mem_nil _)
  | error failure => exact ended.1

theorem once_attempted {Result : Type} {once : Attempt Result} {steps : List Step}
    {outcome : Except ServiceError Result} (works : service.WorksFirst aim once)
    (taken : once.run.Takes steps outcome) : service.Attempted aim steps := by
  obtain ⟨rest, rfl, works⟩ := works
  have opened : service.bind.KeepsTo (service.grounding aim) _ _ _ :=
    bind_keeps fun _ _ opens writes => absurd (opens.unwritten.symm.trans writes) nofun
  rcases (Attempt.takes_bind _ _ _ _).mp taken with
    ⟨failure, failed, rfl⟩ | ⟨first, second, _, rfl, bound, worked⟩
  · obtain ⟨admitted, uncounted, unheard, connection, -⟩ := opened.traced failed
    exact ⟨connection, fun _ _ _ same => (same ▸ admitted).before, uncounted, unheard⟩
  · obtain ⟨admitted, uncounted, unheard, opening⟩ := opened.traced bound
    obtain ⟨requested, uncountedLater, unheardLater, -⟩ := works.traced worked
    have calls : exchanges (first ++ second) = service.opening ++ exchanges second :=
      (exchanges_append first second).trans (congrArg (· ++ exchanges second) opening)
    have admitted : (service.grounding aim).Admits [] (exchanges (first ++ second)) := by
      rw [calls]
      exact Conduct.admits_append.mpr ⟨opening ▸ admitted, requested.weaken fun _ _ => And.right⟩
    refine ⟨?_, fun _ _ _ same => (same ▸ admitted).before, ?_, ?_⟩
    · rw [calls]
      exact .bound (requested.each fun _ _ => And.left)
    · rw [counters_append, uncounted, uncountedLater, List.append_nil]
    · rw [events_append, unheard, unheardLater, List.append_nil]

theorem job_attempted {Result : Type} {job : Job Result} {steps : List Step}
    {outcome : Except ServiceError Result} (taken : (job.perform service).run.Takes steps outcome) :
    ∃ failed last, RetryPolicy.Tried service.policy.maxRetries.toNat job.operation
        (job.once service) steps outcome failed last ∧
      (∀ own ∈ failed, service.Attempted job.about own) ∧ service.Attempted job.about last := by
  obtain ⟨failed, last, tried⟩ := RetryPolicy.retry_tried taken
  refine ⟨failed, last, tried, fun own member => ?_, once_attempted (job_works job) tried.final⟩
  obtain ⟨failure, ownTaken⟩ := tried.failures own member
  exact once_attempted (job_works job) ownTaken

theorem once_unwaited {Result : Type} {once : Attempt Result} {steps : List Step}
    {outcome : Except ServiceError Result} (works : service.WorksFirst aim once)
    (taken : once.run.Takes steps outcome) : waits steps = [] := by
  obtain ⟨rest, rfl, works⟩ := works
  have opened : service.bind.KeepsTo .unconditional _ _ _ := bind_keeps fun _ _ _ => trivial
  rcases (Attempt.takes_bind _ _ _ _).mp taken with
    ⟨failure, failed, rfl⟩ | ⟨first, second, _, rfl, bound, worked⟩
  · exact opened.unwaited failed
  · rw [waits_append, opened.unwaited bound, works.unwaited worked, List.append_nil]

theorem job_waits {Result : Type} {job : Job Result} {steps : List Step}
    {outcome : Except ServiceError Result} (taken : (job.perform service).run.Takes steps outcome) :
    ∃ failures ≤ service.policy.maxRetries.toNat, waits steps = service.policy.pauses failures ∧
      ∀ failure, outcome = .error failure → failures = service.policy.maxRetries.toNat :=
  RetryPolicy.retry_waits (fun _ _ _ => once_unwaited (job_works job)) taken

theorem rename_traced {referrer username oldName : String} {steps : List Step}
    {outcome : Except ServiceError String}
    (taken : (service.renameInGroups referrer username oldName).run.Takes steps outcome) :
    (service.working (.ofOldName oldName)).Admits [] (exchanges steps) ∧ counters steps = [] ∧
      events steps = [] := by
  have works : service.Works (.ofOldName oldName)
      (service.renameInGroups referrer username oldName) [] := rename_in_groups_works rfl
  obtain ⟨admitted, uncounted, unheard, -⟩ := works.traced taken
  exact ⟨admitted, uncounted, unheard⟩

end Traces

end Service

end TeacherDirectory
