import TeacherDirectory.Proofs.Metrics
import TeacherDirectory.Proofs.Program.Effects
import TeacherDirectory.Proofs.Program.Rule

/-!
# Calls that all operations make

Checking arguments asks nothing of the directory. Every attempt then connects and binds, and most
look for the entries of a username next; a new entry is asked for its identifier. Here is what each
of these parts adds to the calls that are written down, so that the operations need not be opened
beyond their own calls.
-/

namespace TeacherDirectory.Service

set_option autoImplicit false

variable {State : Type} {rule : CallRule State} {before : State} {service : Service}
  {base username : String} {names : List String} {history : List Exchange}

def userSearch (base username : String) (names : List String) : Call :=
  .search base .subtree (.byUsername username) names

def readBack (base referrer : String) : Call :=
  .search base .subtree (.byUsername referrer) ["entryUUID"]

def uuidRead : Except DirectoryError (List Entry) → Option String
  | .ok entries => entries.head?.bind fun entry => entry.first? "entryUUID"
  | .error _ => none

theorem performs_bound {calls : Call → Prop} (connects : calls .connect)
    (binds : ∀ name password, calls (.bind name password)) :
    service.bind.Performs (Effect.Only calls) := by
  have logged (failure : DirectoryError) : (unbound failure).Performs (Effect.Only calls) :=
    Program.performs_bind (Program.performs_ask trivial) fun _ => trivial
  apply Attempt.performs_bind (Attempt.performs_call connects logged)
  intro _
  apply Attempt.performs_bind (Attempt.performs_call (binds _ _) logged)
  intro _
  exact Attempt.performs_log _ _ _

theorem performs_realm {calls : Call → Prop} {domain : String} :
    (service.realm domain).Performs (Effect.Only calls) := by
  unfold realm
  split
  · trivial
  · exact Attempt.performs_refuse _ _

theorem performs_referrer {calls : Call → Prop} {person : Person} :
    (referrer person).Performs (Effect.Only calls) := by
  unfold referrer
  split
  · trivial
  · exact Attempt.performs_refuse _ _

theorem performs_find_users {calls : Call → Prop}
    (searches : calls (userSearch base username names)) :
    (findUsers base username names).Performs (Effect.Only calls) :=
  Attempt.performs_call searches fun _ => trivial

theorem performs_require_person {calls : Call → Prop} {absence : String}
    (searches : calls (userSearch service.base username names)) :
    (service.requirePerson username names absence).Performs (Effect.Only calls) := by
  apply Attempt.performs_bind (performs_find_users searches)
  intro entries
  cases entries with
  | nil => exact Attempt.performs_refuse _ _
  | cons entry rest => trivial

theorem performs_fetch {calls : Call → Prop} (searches : calls (readBack base username)) :
    (fetchEntryUuid base username).Performs (Effect.Only calls) := by
  apply Program.performs_bind (Program.performs_ask searches)
  intro answer
  cases answer with
  | ok entries => trivial
  | error failure => exact Program.performs_bind (Program.performs_ask trivial) fun _ => trivial

section Opening

variable {Result : Type} {allowed more : Effect → Prop} {attempt : Attempt Result}

/-- The attempt opens a connection, and what it can perform after that is allowed. -/
def OpensFirst (service : Service) (allowed : Effect → Prop) (attempt : Attempt Result) : Prop :=
  ∃ rest : Attempt Result, attempt = (do service.bind; rest) ∧ rest.Performs allowed

theorem OpensFirst.weaken (opens : service.OpensFirst allowed attempt)
    (implies : ∀ effect, allowed effect → more effect) : service.OpensFirst more attempt := by
  rcases opens with ⟨rest, rfl, performs⟩
  exact ⟨rest, rfl, performs.weaken implies⟩

theorem OpensFirst.performs (opens : service.OpensFirst allowed attempt)
    (bound : service.bind.Performs allowed) : attempt.Performs allowed := by
  rcases opens with ⟨rest, rfl, performs⟩
  exact Attempt.performs_bind bound fun _ => performs

end Opening

theorem ensures_realm {domain : String} {good : Realm → State → Prop}
    {bad : ServiceError → State → Prop} :
    (service.realm domain).Ensures rule good bad before ↔
      (∀ realm, service.settings.realm? domain = some realm → good realm before) ∧
        (service.settings.realm? domain = none → bad (.emailDomain domain) before) := by
  unfold realm
  cases found : service.settings.realm? domain <;> simp

theorem ensures_referrer {person : Person} {good : String → State → Prop}
    {bad : ServiceError → State → Prop} :
    (referrer person).Ensures rule good bad before ↔
      (∀ username, person.referrer = some username → good username before) ∧
        (person.referrer = none → bad (.missingReferrer person.id) before) := by
  unfold referrer
  cases found : person.referrer <;> simp

theorem ensures_accepted {Next : Type} {domain : String} {realm : Realm}
    {next : Realm → Attempt Next} {good : Next → State → Prop} {bad : ServiceError → State → Prop}
    (accepted : service.settings.realm? domain = some realm)
    (rest : (next realm).Ensures rule good bad before) :
    (service.realm domain >>= next).Ensures rule good bad before := by
  unfold Service.realm
  rw [accepted]
  exact Attempt.ensures_bind.mpr (Attempt.ensures_pure.mpr rest)

theorem ensures_named {Next : Type} {person : Person} {username : String}
    {next : String → Attempt Next} {good : Next → State → Prop} {bad : ServiceError → State → Prop}
    (named : person.referrer = some username)
    (rest : (next username).Ensures rule good bad before) :
    (referrer person >>= next).Ensures rule good bad before := by
  unfold referrer
  rw [named]
  exact Attempt.ensures_bind.mpr (Attempt.ensures_pure.mpr rest)

theorem ensures_fetch {base referrer : String} {post : Option String → State → Prop} :
    (fetchEntryUuid base referrer).Ensures rule post before ↔
      ∀ answer after, rule before (readBack base referrer) answer after →
        post (uuidRead answer) after := by
  unfold fetchEntryUuid
  rw [Program.ensures_bind, Program.ensures_call]
  refine forall_congr' fun answer => forall_congr' fun after => imp_congr_right fun _ => ?_
  cases answer with
  | ok entries => exact Program.ensures_pure
  | error failure =>
      simp only [Program.ensures_bind, Program.ensures_log, Program.ensures_pure, uuidRead]

theorem ensures_publish {event : PersonEvent} {post : Unit → State → Prop} :
    (publish event).Ensures rule post before ↔ post () before := by
  unfold publish Program.publish
  rw [Program.ensures_bind, Program.ensures_ask]
  constructor
  · intro ensured
    exact Program.ensures_pure.mp (ensured (.ok ()) before rfl)
  · intro holds answer after same
    subst same
    cases answer with
    | ok _ => exact Program.ensures_pure.mpr holds
    | error failure => exact Program.ensures_log.mpr holds

theorem publish_traced {event : PersonEvent} {steps : List Step} {result : Unit}
    (taken : (publish event).Takes steps result) :
    exchanges steps = [] ∧ counters steps = [] ∧ events steps = [event] := by
  obtain ⟨asked, rest, answer, rfl, asking, later⟩ := (Program.takes_bind _ _ steps result).mp taken
  obtain rfl := (Program.takes_ask _ _ _).mp asking
  cases answer with
  | ok _ =>
      obtain ⟨rfl, -⟩ := (Program.takes_pure _ _ _).mp later
      exact ⟨rfl, rfl, rfl⟩
  | error failure =>
      obtain rfl := (Program.takes_log _ _ _ _ _).mp later
      exact ⟨rfl, rfl, rfl⟩

theorem publish_takes {event : PersonEvent} {steps : List Step} {result : Unit}
    (taken : (publish event).Takes steps result) : events steps = [event] :=
  (publish_traced taken).2.2

theorem announced_takes {First Second : Type} {attempt : Attempt First}
    {event : First → PersonEvent} {value : First → Second} {steps : List Step}
    {outcome : Except ServiceError Second}
    (taken : (do
      let given ← attempt
      publish (event given)
      return value given : Attempt Second).run.Takes steps outcome) :
    (∃ failure, outcome = .error failure ∧ attempt.run.Takes steps (.error failure)) ∨
      ∃ given trying publishing, outcome = .ok (value given) ∧ steps = trying ++ publishing ∧
        attempt.run.Takes trying (.ok given) ∧ (publish (event given)).Takes publishing () := by
  rcases (Attempt.takes_bind _ _ _ _).mp taken with
    ⟨failure, failed, rfl⟩ | ⟨trying, rest, given, rfl, tried, announced⟩
  · exact .inl ⟨failure, rfl, failed⟩
  rcases (Attempt.takes_lift_bind _ _ _ _).mp announced with
    ⟨publishing, _, _, rfl, published, rfl, rfl⟩
  exact .inr ⟨given, trying, publishing, rfl, by rw [List.append_nil], tried, published⟩

/-- An operation that hands an event over when it is done: the event tells what the operation gave,
and a failed operation hands over nothing. -/
theorem ensures_announced {First Second : Type} {calls : Call → Prop} {attempt : Attempt First}
    {event : First → PersonEvent} {value : First → Second} {good : First → State → Prop}
    {bad : ServiceError → State → Prop} {after : State} {steps : List Step}
    {outcome : Except ServiceError Second} (plain : attempt.Performs (Effect.Only calls))
    (ensured : attempt.Ensures rule good bad before)
    (taken : (do
      let given ← attempt
      publish (event given)
      return value given : Attempt Second).run.Takes steps outcome)
    (follows : rule.Follows before steps after) :
    (∃ given, outcome = .ok (value given) ∧ good given after ∧ events steps = [event given]) ∨
      ∃ failure, outcome = .error failure ∧ bad failure after ∧ events steps = [] := by
  rcases announced_takes taken with
    ⟨failure, rfl, failed⟩ | ⟨given, trying, publishing, rfl, rfl, tried, published⟩
  · exact .inr ⟨failure, rfl, ensured _ _ _ failed follows, plain.no_events failed⟩
  obtain ⟨between, first, second⟩ := (rule.follows_append _ _ _ _).mp follows
  have unchanged : (publish (event given)).Ensures rule (fun _ later => later = between) between :=
    ensures_publish.mpr rfl
  obtain rfl := unchanged _ _ _ published second
  refine .inl ⟨given, rfl, ensured _ _ _ tried first, ?_⟩
  rw [events_append, plain.no_events tried, publish_takes published, List.nil_append]

theorem ensures_opened {keeps : List Exchange → Prop}
    (connects : ∀ earlier answer, keeps earlier → keeps (earlier ++ [⟨.connect, answer⟩]))
    (binds : ∀ earlier name password answer, keeps earlier →
      keeps (earlier ++ [⟨.bind name password, answer⟩]))
    (start : keeps history) :
    service.bind.Ensures CallRule.recording (fun _ => keeps)
      (fun failure after => keeps after ∧ ∃ source, failure = .bind source) history := by
  unfold Service.bind
  simp only [Attempt.ensures_bind, Attempt.ensures_call_recorded, Attempt.ensures_lift, unbound,
    Program.ensures_bind, Program.ensures_log, Program.ensures_pure]
  have connected (answer : Call.connect.Answer) : keeps (history ++ [⟨.connect, answer⟩]) :=
    connects history answer start
  refine ⟨fun _ => ⟨fun _ => binds _ _ _ _ (connected _), fun failure => ?_⟩, fun failure => ?_⟩
  · exact ⟨binds _ _ _ _ (connected _), failure, rfl⟩
  · exact ⟨connected _, failure, rfl⟩

theorem ensures_bound {holds : Exchange → Prop}
    (connects : ∀ answer, holds ⟨.connect, answer⟩)
    (binds : ∀ name password answer, holds ⟨.bind name password, answer⟩)
    (every : ∀ exchange ∈ history, holds exchange) :
    service.bind.Ensures CallRule.recording (fun _ after => ∀ exchange ∈ after, holds exchange)
      (fun failure after =>
        (∀ exchange ∈ after, holds exchange) ∧ ∃ source, failure = .bind source) history := by
  have added {exchange : Exchange} (new : holds exchange) (earlier : List Exchange)
      (all : ∀ other ∈ earlier, holds other) : ∀ other ∈ earlier ++ [exchange], holds other :=
    List.forall_mem_append.mpr ⟨all, List.forall_mem_singleton.mpr new⟩
  exact ensures_opened (fun earlier answer => added (connects answer) earlier)
    (fun earlier name password answer => added (binds name password answer) earlier) every

theorem ensures_find_users {good : List Entry → List Exchange → Prop}
    {bad : ServiceError → List Exchange → Prop} :
    (findUsers base username names).Ensures CallRule.recording good bad history ↔
      (∀ entries, good entries (history ++ [⟨userSearch base username names, .ok entries⟩])) ∧
        ∀ failure, bad (.directory failure)
          (history ++ [⟨userSearch base username names, .error failure⟩]) := by
  unfold findUsers
  simp only [Attempt.ensures_call_recorded, asDirectoryError, Program.ensures_pure]
  rfl

theorem ensures_require_person {absence : String} {good : Entry → List Exchange → Prop}
    {bad : ServiceError → List Exchange → Prop} :
    (service.requirePerson username names absence).Ensures CallRule.recording good bad history ↔
      (∀ entry rest, good entry
          (history ++ [⟨userSearch service.base username names, .ok (entry :: rest)⟩])) ∧
        bad .teacherNotFound (history ++ [⟨userSearch service.base username names, .ok []⟩]) ∧
          ∀ failure, bad (.directory failure)
            (history ++ [⟨userSearch service.base username names, .error failure⟩]) := by
  unfold requirePerson
  rw [Attempt.ensures_bind, ensures_find_users, ← and_assoc]
  refine and_congr_left fun _ => ⟨fun each => ⟨fun entry rest => ?_, ?_⟩, fun given entries => ?_⟩
  · exact Attempt.ensures_pure.mp (each (entry :: rest))
  · exact Attempt.ensures_refuse.mp (each [])
  · cases entries with
    | nil => exact Attempt.ensures_refuse.mpr given.2
    | cons entry rest => exact Attempt.ensures_pure.mpr (given.1 entry rest)

end TeacherDirectory.Service
