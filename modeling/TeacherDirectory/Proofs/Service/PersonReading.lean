import TeacherDirectory.Proofs.Program.Agreement
import TeacherDirectory.Proofs.Service.UnknownDomains

/-!
# Reading a person

An attempt to read a person searches for the username on a connection of its own. Either it reads the
first entry found, and then it writes nothing and warns of each value that is missing; or nobody was
found, and it adds an entry that stands for the person. What it does never depends on the domain
before nobody was found.
-/

namespace TeacherDirectory.Service

set_option autoImplicit false

/-- The values of the first entry found: the first one of each attribute. -/
structure FirstValues (entry : Entry) (value : PersonAttributes) : Prop where
  name : value.name = entry.name
  entryUuid : value.entryUuid = (entry.values "entryUUID").head?
  givenName : value.givenName = (entry.values "givenName").head?
  surname : value.surname = (entry.values "sn").head?
  commonName : value.commonName = (entry.values "cn").head?
  primaryAddress : value.primaryAddress = (entry.values "mailPrimaryAddress").head?
  alternativeAddress : value.alternativeAddress = (entry.values "mailAlternativeAddress").head?

def reportedFields : List (String × String) :=
  [("GivenName", "givenName"), ("Surname", "sn"), ("CN", "cn"),
    ("MailPrimaryAddress", "mailPrimaryAddress"),
    ("MailAlternativeAddress", "mailAlternativeAddress")]

def missingWarning (personId referrer name : String) : LogEvent :=
  ⟨.warn, s!"LDAP: {name} was undefined, referrer:{referrer}, personId:{personId}", []⟩

def missingWarnings (personId referrer : String) (entry : Entry) : List LogEvent :=
  (reportedFields.filter fun field => (entry.values field.2).isEmpty).map fun field =>
    missingWarning personId referrer field.1

def placeholderAdd (service : Service) (referrer : String) (realm : Realm) : Call :=
  .add (service.teacherName referrer realm) (placeholderAttributes referrer)

/-- The ways an attempt to read a person can go on its connection. It reads what was found or adds
what was not found. -/
inductive ReadsOrCreates (service : Service) (personId referrer domain : String) :
    List Step → Except ServiceError PersonAttributes → Prop
  | unopened {steps : List Step} {source : DirectoryError}
      (opens : ∀ exchange ∈ exchanges steps, exchange.request.Opens) :
      ReadsOrCreates service personId referrer domain steps (.error (.bind source))
  | unanswered {steps : List Step} {failure : DirectoryError}
      (calls : exchanges steps = service.opening ++
        [⟨userSearch service.base referrer readNames, .error failure⟩]) :
      ReadsOrCreates service personId referrer domain steps (.error (.directory failure))
  | read {steps : List Step} {entry : Entry} {others : List Entry} {value : PersonAttributes}
      (calls : exchanges steps = service.opening ++
        [⟨userSearch service.base referrer readNames, .ok (entry :: others)⟩])
      (first : FirstValues entry value)
      (warned : warnings steps = missingWarnings personId referrer entry)
      (anywhere : ∀ other,
        (service.attributesOnce personId referrer other).run.Takes steps (.ok value)) :
      ReadsOrCreates service personId referrer domain steps (.ok value)
  | unplaced {steps : List Step} (unknown : service.settings.realm? domain = none)
      (calls : exchanges steps = service.opening ++ [service.nobody referrer]) :
      ReadsOrCreates service personId referrer domain steps (.error (.emailDomain domain))
  | refused {steps : List Step} {realm : Realm} {failure : DirectoryError}
      (known : service.settings.realm? domain = some realm)
      (calls : exchanges steps = service.opening ++
        [service.nobody referrer, ⟨service.placeholderAdd referrer realm, .error failure⟩]) :
      ReadsOrCreates service personId referrer domain steps
        (.error (.createTeacher (service.teacherName referrer realm) failure))
  | created {steps : List Step} {realm : Realm} {answer : Except DirectoryError (List Entry)}
      (known : service.settings.realm? domain = some realm)
      (calls : exchanges steps = service.opening ++
        [service.nobody referrer, ⟨service.placeholderAdd referrer realm, .ok ()⟩,
          ⟨readBack service.base referrer, answer⟩]) :
      ReadsOrCreates service personId referrer domain steps
        (.ok ⟨uuidRead answer, service.teacherName referrer realm, none, none, none, none, none⟩)

def readEntry (personId referrer : String) (entry : Entry) : Attempt PersonAttributes := do
  reportMissing personId referrer (attributesOf entry).missing
  return attributesOf entry

variable {service : Service} {personId referrer domain : String} {steps : List Step}

section Domains

def FindsNobody (service : Service) (referrer : String) (step : Step) : Prop :=
  step.exchange? = some (service.nobody referrer)

/-- With another domain an attempt does the same until nobody was found. -/
theorem once_same_until (personId referrer domain other : String) :
    (service.attributesOnce personId referrer domain).run.SameUntil
      (service.FindsNobody referrer) (service.attributesOnce personId referrer other).run := by
  have congruent := Program.same_until_congruent (service.FindsNobody referrer)
  apply congruent.attempts (Program.same_until_self _)
  intro _
  refine ⟨_, rfl, ?_⟩
  intro answer together
  cases answer with
  | error failure => rfl
  | ok entries =>
      cases entries with
      -- The answer that nobody was found is the one that parts the attempts.
      | nil => exact (together rfl).elim
      | cons entry others =>
          exact Program.same_until_self (readEntry personId referrer entry).run

theorem reading_same_until (personId referrer domain other : String) :
    (service.attributes personId referrer domain).run.SameUntil
      (service.FindsNobody referrer) (service.attributes personId referrer other).run :=
  RetryPolicy.related_retry (Program.same_until_congruent _)
    (fun _ => Program.same_until_self _) (fun _ _ _ => Program.same_until_self _)
    (fun _ => Program.same_until_self _) service.policy _ fun _ => once_same_until ..

theorem found_together (found : service.nobody referrer ∉ exchanges steps) :
    ∀ step ∈ steps, ¬service.FindsNobody referrer step :=
  fun step member same => found (List.mem_filterMap.mpr ⟨step, member, same⟩)

theorem not_nobody {entry : Entry} {others : List Entry} :
    service.nobody referrer ∉ service.opening ++
      [⟨userSearch service.base referrer readNames, .ok (entry :: others)⟩] := by
  intro member
  rcases List.mem_append.mp member with opened | found
  · simp [opening, nobody, userSearch] at opened
  · cases List.mem_singleton.mp found

end Domains

section Attempts

variable {outcome : Except ServiceError PersonAttributes}

theorem first_values (entry : Entry) : FirstValues entry (attributesOf entry) :=
  ⟨rfl, rfl, rfl, rfl, rfl, rfl, rfl⟩

theorem missing_of_entry (entry : Entry) : (attributesOf entry).missing =
    (reportedFields.filter fun field => (entry.values field.2).isEmpty).map Prod.fst := by
  have expected : (attributesOf entry).expected =
      reportedFields.map fun field => (field.1, (entry.values field.2).head?) := rfl
  have absent (field : String × String) :
      ((entry.values field.2).head?).isNone = (entry.values field.2).isEmpty := by
    cases entry.values field.2 <;> rfl
  unfold PersonAttributes.missing
  rw [expected, List.filter_map, List.map_map]
  simp only [Function.comp_def, absent]

theorem report_takes {missing : List String} {given : Unit}
    (taken : (reportMissing personId referrer missing).Takes steps given) :
    exchanges steps = [] ∧ warnings steps = missing.map (missingWarning personId referrer) := by
  induction missing generalizing steps with
  | nil =>
      rcases taken with ⟨rfl, -⟩
      exact ⟨rfl, rfl⟩
  | cons name rest induction =>
      rcases taken with ⟨_, later, rfl, taken⟩
      rcases induction taken with ⟨silent, warned⟩
      constructor
      · exact silent
      · exact congrArg (missingWarning personId referrer name :: ·) warned

/-- An entry is read without any further call, and there is nothing left that can fail. -/
theorem entry_takes {entry : Entry}
    (taken : (readEntry personId referrer entry).run.Takes steps outcome) :
    outcome = .ok (attributesOf entry) ∧ exchanges steps = [] ∧
      warnings steps = missingWarnings personId referrer entry := by
  rcases (Attempt.takes_lift_bind _ _ _ _).mp taken with ⟨_, _, _, rfl, reported, rfl, rfl⟩
  rcases report_takes reported with ⟨silent, warned⟩
  rw [missing_of_entry, List.map_map] at warned
  rw [List.append_nil]
  exact ⟨rfl, silent, warned⟩

theorem bind_takes {result : Except ServiceError Unit}
    (taken : service.bind.run.Takes steps result) :
    (∃ source, result = .error (.bind source) ∧
        ∀ exchange ∈ exchanges steps, exchange.request.Opens) ∨
      result = .ok () ∧ exchanges steps = service.opening ∧ warnings steps = [] := by
  rcases taken with ⟨connected, _, rfl, taken⟩
  cases connected with
  | error failure =>
      rcases taken with ⟨_, _, rfl, rfl, rfl⟩
      exact .inl ⟨failure, rfl, List.forall_mem_singleton.mpr trivial⟩
  | ok _ =>
      rcases taken with ⟨bound, _, rfl, taken⟩
      cases bound with
      | error failure =>
          rcases taken with ⟨_, _, rfl, rfl, rfl⟩
          exact .inl ⟨failure, rfl, by simp [exchanges, Step.exchange?, Call.Opens]⟩
      | ok _ =>
          rcases taken with ⟨_, _, rfl, rfl, rfl⟩
          exact .inr ⟨rfl, rfl, rfl⟩

theorem fetch_takes {base : String} {given : Option String}
    (taken : (fetchEntryUuid base referrer).Takes steps given) :
    ∃ answer, exchanges steps = [⟨readBack base referrer, answer⟩] ∧ given = uuidRead answer := by
  rcases taken with ⟨answer, _, rfl, taken⟩
  cases answer with
  | ok entries =>
      rcases taken with ⟨rfl, rfl⟩
      exact ⟨.ok entries, rfl, rfl⟩
  | error failure =>
      rcases taken with ⟨_, _, rfl, rfl, rfl⟩
      exact ⟨.error failure, rfl, rfl⟩

theorem placeholder_takes {placing : List Step}
    (calls : exchanges steps = service.opening ++ service.nobody referrer :: exchanges placing)
    (taken : (service.createPlaceholder referrer domain).run.Takes placing outcome) :
    service.ReadsOrCreates personId referrer domain steps outcome := by
  unfold createPlaceholder realm at taken
  cases known : service.settings.realm? domain with
  | none =>
      rw [known] at taken
      rcases taken with ⟨_, _, rfl, rfl, rfl⟩
      exact .unplaced known calls
  | some realm =>
      rw [known] at taken
      rcases taken with ⟨answer, _, rfl, taken⟩
      cases answer with
      | error failure =>
          rcases taken with ⟨_, _, rfl, rfl, rfl⟩
          exact .refused known calls
      | ok _ =>
          rcases taken with ⟨_, fetching, rfl, taken⟩
          rcases (Attempt.takes_lift_bind _ _ _ _).mp taken with ⟨_, _, _, rfl, fetched, rfl, rfl⟩
          rcases fetch_takes fetched with ⟨answer, called, rfl⟩
          rw [List.append_nil] at calls
          apply ReadsOrCreates.created known
          exact calls.trans (congrArg (service.opening ++ service.nobody referrer :: _ :: ·) called)

theorem reads_or_creates
    (taken : (service.attributesOnce personId referrer domain).run.Takes steps outcome) :
    service.ReadsOrCreates personId referrer domain steps outcome := by
  have whole := taken
  rcases (Attempt.takes_bind _ _ _ _).mp taken with
    ⟨failure, refused, rfl⟩ | ⟨opening, _, _, rfl, opened, read⟩
  · rcases bind_takes refused with ⟨source, same, opens⟩ | ⟨impossible, -⟩
    · cases same
      exact .unopened opens
    · cases impossible
  rcases bind_takes opened with ⟨_, impossible, -⟩ | ⟨-, opened, quiet⟩
  · cases impossible
  -- The connection is open, and the answer to the search decides how the attempt goes on.
  rcases read with ⟨answer, reading, rfl, read⟩
  cases answer with
  | error failure =>
      rcases read with ⟨rfl, rfl⟩
      apply ReadsOrCreates.unanswered
      rw [exchanges_append, opened]
      rfl
  | ok entries =>
      cases entries with
      | nil =>
          rcases read with ⟨_, placing, rfl, placed⟩
          apply placeholder_takes _ placed
          rw [exchanges_append, opened]
          rfl
      | cons entry others =>
          have taken : (readEntry personId referrer entry).run.Takes _ outcome := read
          rcases entry_takes taken with ⟨rfl, silent, warned⟩
          have calls : exchanges (opening ++
              ⟨.call (userSearch service.base referrer readNames), .ok (entry :: others)⟩ ::
                reading) = service.opening ++
                  [⟨userSearch service.base referrer readNames, .ok (entry :: others)⟩] := by
            rw [exchanges_append, opened, exchanges_cons, silent]
            rfl
          apply ReadsOrCreates.read calls (first_values entry)
          · rw [warnings_append, quiet]
            exact warned
          · intro other
            apply (once_same_until personId referrer domain other).takes whole
            exact found_together (calls ▸ not_nobody)

end Attempts

end TeacherDirectory.Service
