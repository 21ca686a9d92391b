import TeacherDirectory.Proofs.Directory.Catalogue
import TeacherDirectory.Proofs.Service.Accounts
import TeacherDirectory.Proofs.Service.Arguments
import TeacherDirectory.Proofs.Service.UsernameWrites

/-!
# Unknown domains of persons that are read

Reading a person asks for the realm of the domain when nobody was found, which is in the middle of
an attempt. An unknown domain is then an error like any other: a connection and a search came before
it, the attempt counts as failed, and all the retries follow, with their waits. The tasks that check
their arguments first refuse such a domain without any of this.
-/

namespace TeacherDirectory.Service

set_option autoImplicit false

def nobody (service : Service) (referrer : String) : Exchange :=
  ⟨userSearch service.base referrer readNames, .ok []⟩

inductive ReadingEnds (service : Service) (referrer domain : String) :
    Except ServiceError PersonAttributes → List Exchange → Prop
  | unplaced (unknown : ¬service.settings.Accepts domain) :
      ReadingEnds service referrer domain (.error (.emailDomain domain))
        (service.opening ++ [service.nobody referrer])
  | otherwise {outcome : Except ServiceError PersonAttributes} {history : List Exchange}
      (late : ∀ failure, outcome = .error failure → Late failure)
      (apart : service.settings.Accepts domain ∨
        history.getLast? ≠ some (service.nobody referrer)) :
      ReadingEnds service referrer domain outcome history

/-- What was done by the time that reading a person fails over the domain: every attempt was made,
each on a connection of its own, and counted as failed, and all waits are over. -/
structure RefusedLate (service : Service) (referrer : String) (steps : List Step) : Prop where
  connections : ∃ earlier : List (List Exchange),
    earlier.length = service.policy.maxRetries.toNat ∧
      (∀ block ∈ earlier, OnConnection service.settings block) ∧
      exchanges steps = earlier.flatten ++ (service.opening ++ [service.nobody referrer])
  counted : counters steps =
    List.replicate (service.policy.maxRetries.toNat + 1) (.failedAttempt "get_person_attributes") ++
      [.finished "get_person_attributes" false]
  waited : waits steps = service.policy.pauses service.policy.maxRetries.toNat

variable {service : Service} {personId referrer domain : String} {steps : List Step}
  {history : List Exchange}

section Attempts

variable {outcome : Except ServiceError PersonAttributes}

theorem ReadingEnds.refused_iff {failure : ServiceError}
    (ends : ReadingEnds service referrer domain outcome history) :
    outcome = .error failure ∧ failure.IsValidation ↔
      failure = .emailDomain domain ∧ ¬service.settings.Accepts domain ∧
        history.getLast? = some (service.nobody referrer) := by
  cases ends with
  | unplaced unknown =>
      constructor
      · rintro ⟨failed, -⟩
        exact ⟨(Except.error.inj failed).symm, unknown, List.getLast?_concat⟩
      · rintro ⟨rfl, -⟩
        exact ⟨rfl, trivial⟩
  | otherwise late apart =>
      constructor
      · rintro ⟨failed, validation⟩
        exact (late failure failed validation).elim
      · rintro ⟨-, unknown, last⟩
        exact (apart.elim unknown fun other => other last).elim

theorem ReadingEnds.calls {failure : ServiceError}
    (ends : ReadingEnds service referrer domain (.error failure) history)
    (validation : failure.IsValidation) :
    history = service.opening ++ [service.nobody referrer] := by
  cases ends with
  | unplaced unknown => rfl
  | otherwise late apart => exact (late failure rfl validation).elim

theorem answered_apart {answer : Except DirectoryError (List Entry)} (other : answer ≠ .ok []) :
    (history ++ [⟨userSearch service.base referrer readNames, answer⟩] : List Exchange).getLast? ≠
      some (service.nobody referrer) := by
  rw [List.getLast?_concat]
  intro same
  injection Option.some.inj same with _ answered
  exact other answered

/-- Behind the search that found nobody, only an unknown domain is the fault of the arguments. -/
theorem placeholder_ends :
    (service.createPlaceholder referrer domain).KeepsTo .unconditional
      (fun value => ReadingEnds service referrer domain (.ok value))
      (fun failure => ReadingEnds service referrer domain (.error failure))
      (service.opening ++ [service.nobody referrer]) := by
  refine Attempt.keeps_bind.mpr (keeps_realm.mpr ⟨fun realm known => ?_, fun none => ?_⟩)
  · have accepted := DirectorySettings.accepts_of_realm known
    refine Attempt.keeps_bind.mpr (Attempt.keeps_call.mpr ⟨trivial, fun _ => ?_, fun failure => ?_⟩)
    · refine Attempt.keeps_bind.mpr (Attempt.keeps_log.mpr ?_)
      refine Attempt.keeps_bind.mpr (Attempt.keeps_lift.mpr (Program.keeps_bind.mpr ?_))
      refine Program.keeps_call.mpr ⟨trivial, fun answer => ?_⟩
      cases answer with
      | ok entries => exact .otherwise nofun (.inl accepted)
      | error failure => exact Program.keeps_logged.mpr (.otherwise nofun (.inl accepted))
    · refine Program.keeps_logged.mpr (.otherwise (fun other same => ?_) (.inl accepted))
      exact Except.error.inj same ▸ id
  · exact .unplaced (DirectorySettings.realm_none_iff.mp none)

theorem search_ends (personId referrer domain : String) : ∃ rest : Attempt PersonAttributes,
    service.attributesOnce personId referrer domain = (do service.bind; rest) ∧
      rest.KeepsTo .unconditional (fun value => ReadingEnds service referrer domain (.ok value))
        (fun failure => ReadingEnds service referrer domain (.error failure)) service.opening := by
  refine ⟨_, rfl, Attempt.keeps_bind.mpr ((keeps_find_users trivial).mpr ⟨fun entries => ?_,
    fun failure => ?_⟩)⟩
  · cases entries with
    | nil => exact Attempt.keeps_bind.mpr (Attempt.keeps_log.mpr placeholder_ends)
    | cons entry others =>
        refine Attempt.keeps_bind.mpr (Attempt.keeps_lift.mpr (keeps_report_missing.mpr ?_))
        exact .otherwise nofun (.inr (answered_apart nofun))
  · refine .otherwise (fun other same => ?_) (.inr (answered_apart nofun))
    exact Except.error.inj same ▸ id

theorem reading_ends
    (taken : (service.attributesOnce personId referrer domain).run.Takes steps outcome) :
    ReadingEnds service referrer domain outcome (exchanges steps) := by
  have opened : service.bind.KeepsTo .unconditional _ _ _ := bind_keeps fun _ _ _ => trivial
  obtain ⟨rest, same, reads⟩ := service.search_ends personId referrer domain
  rw [same] at taken
  rcases (Attempt.takes_bind _ _ _ _).mp taken with
    ⟨failure, failed, rfl⟩ | ⟨first, second, _, rfl, bound, read⟩
  · -- Without a connection nothing was searched for.
    obtain ⟨-, -, -, -, opens⟩ := opened.traced failed
    refine .otherwise (fun other same => ?_) (.inr fun last => ?_)
    · exact bind_fails (fun _ => id) failed other (congrArg _ (Except.error.inj same))
    · exact opens _ (List.mem_of_getLast? last)
  · obtain ⟨-, -, -, opening⟩ := opened.traced bound
    obtain ⟨-, -, -, ended⟩ := reads.traced read
    rw [exchanges_append, show exchanges first = service.opening from opening]
    cases outcome with
    | ok value => exact ended
    | error failure => exact ended

theorem ensures_domain_refused {before : Store} (personId : String)
    (unknown : ¬service.settings.Accepts domain)
    (unidentified : Unidentified service.base referrer before) :
    (service.attributes personId referrer domain).Ensures (Store.answering False)
      (fun _ _ => False) (fun failure after => after = before ∧ failure = .emailDomain domain)
      before := by
  apply RetryPolicy.ensures_retry_unmoved
  intro _
  unfold attributesOnce
  simp only [Attempt.ensures_bind]
  refine ensures_users_store (fun impossible _ => impossible.elim) (fun _ => ?_)
    fun entry rest record user => (unidentified.no_entry user).elim
  unfold createPlaceholder
  simp only [Attempt.ensures_bind, Attempt.ensures_lift, Program.ensures_log, ensures_realm]
  refine ⟨fun realm known => ?_, fun _ => ⟨trivial, trivial⟩⟩
  exact (unknown (DirectorySettings.accepts_of_realm known)).elim

end Attempts

/-- Reading a person fails over its arguments exactly if the domain is unknown and the last attempt
found nobody. By then everything was done that is done for any other failure, whatever the directory
answers; where it carries out what it can, this happens to every person without an entry. -/
theorem unknown_domain_refused_late {State : Type} (world : World State) (state : State)
    (service : Service) (personId referrer domain : String) :
    let run := (service.attributes personId referrer domain).run.run world state
    (∀ failure, run.result = .error failure ∧ failure.IsValidation ↔
        failure = .emailDomain domain ∧ ¬service.settings.Accepts domain ∧
          (exchanges run.steps).getLast? = some (service.nobody referrer)) ∧
      (∀ failure, run.result = .error failure → failure.IsValidation →
        service.RefusedLate referrer run.steps) ∧
      ∀ held : State → Store, world.Obeys (Store.answering False) held →
        Unidentified service.base referrer (held state) → ¬service.settings.Accepts domain →
        run.result = .error (.emailDomain domain) ∧ held run.state = held state := by
  intro run
  let job : Job PersonAttributes := .attributes personId referrer domain
  have taken : (job.perform service).run.Takes run.steps run.result :=
    Program.run_takes world _ state
  obtain ⟨failed, last, tried, attempted, final⟩ := job_attempted taken
  have ends : ReadingEnds service referrer domain run.result (exchanges last) :=
    reading_ends tried.final
  refine ⟨fun failure => ?_, fun failure result validation => ?_,
    fun held obeys unidentified unknown => ?_⟩
  · -- The last call of all is one of the last attempt, which asked for a connection at least.
    rw [tried.calls, List.getLast?_append_of_ne_nil _ final.connection.nonempty]
    exact ends.refused_iff
  · have lastCalls : exchanges last = service.opening ++ [service.nobody referrer] :=
      ReadingEnds.calls (result ▸ ends) validation
    obtain ⟨failures, -, waited, exhausted⟩ := job_waits taken
    refine ⟨⟨failed.map exchanges, ?_, ?_, ?_⟩, ?_, exhausted failure result ▸ waited⟩
    · rw [List.length_map, tried.exhausted failure result]
    · exact List.forall_mem_map.mpr fun own member => (attempted own member).connection
    · rw [tried.calls, ← List.flatMap_def, lastCalls]
    · rw [tried.counted, failure_marks_flat fun own member => (attempted own member).uncounted,
        final.uncounted, tried.exhausted failure result, result, List.replicate_succ']
      simp [RetryPolicy.closing, job, Job.operation]
  · obtain ⟨failure, result, kept, rfl⟩ :=
      (ensures_domain_refused personId unknown unidentified).fails obeys
    exact ⟨result, kept⟩

/-- A person without an entry is read with the domain of no realm and one retry: two connections are
opened, and two failed attempts are counted. -/
theorem unknown_domain_tried_twice :
    let service : Service :=
      ⟨⟨"", "cn=admin", none, "dc=schule", none, none, none, none, none, none⟩, .immediate 1⟩
    let run := (service.attributes "7" "anna" "example.org").run.run Catalogue.world Catalogue.empty
    let attempt := service.opening ++ [service.nobody "anna"]
    ¬service.settings.Accepts "example.org" ∧
      run.result = .error (.emailDomain "example.org") ∧
      (∃ first, OnConnection service.settings first ∧ exchanges run.steps = first ++ attempt) ∧
      counters run.steps = [.failedAttempt "get_person_attributes",
        .failedAttempt "get_person_attributes", .finished "get_person_attributes" false] := by
  intro service run attempt
  have unknown : ¬service.settings.Accepts "example.org" :=
    DirectorySettings.realm_none_iff.mp (by decide +kernel)
  have nobody : Unidentified service.base "anna" Catalogue.empty.store :=
    fun _ _ stored => nomatch stored
  obtain ⟨-, late, refused⟩ :=
    unknown_domain_refused_late Catalogue.world Catalogue.empty service "7" "anna" "example.org"
  obtain ⟨result, -⟩ := refused Catalogue.store (Catalogue.world_obeys False) nobody unknown
  obtain ⟨⟨earlier, one, each, calls⟩, counted, -⟩ := late _ result trivial
  obtain ⟨first, rfl⟩ := List.length_eq_one_iff.mp one
  refine ⟨unknown, result, ⟨first, each first List.mem_cons_self, ?_⟩, counted⟩
  rw [calls, List.flatten_singleton]

end TeacherDirectory.Service
