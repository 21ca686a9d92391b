import TeacherDirectory.Proofs.Directory.Store

/-!
# Calls to a reference directory

A call that the directory carries out has one store to lead to and may have several true replies.
What it ensures is said once for all calls; each kind of call then only tells which store it leads
to. An addition is the one call that the service makes without knowing whether it will be refused.
-/

namespace TeacherDirectory.Store

set_option autoImplicit false

open Function (update)

variable {failing : Prop} {before later : Store} {request : Call} {name password : String}
  {record : Record} {refused : DirectoryError → Program ServiceError}
  {bad : ServiceError → Store → Prop}

theorem write_of_read (read : request.isWrite = false) : before.write request = some before := by
  cases request with
  | connect => rfl
  | bind name password => rfl
  | search base scope filter names => rfl
  | add name attributes => cases read
  | modify name changes => cases read
  | rename name leaf => cases read
  | delete name => cases read

theorem answering_read {answer : request.Answer} (read : request.isWrite = false)
    (answered : answering failing before request answer later) : later = before := by
  cases answer with
  | error failure => exact answered.2
  | ok reply =>
      have written := answered.2
      rw [write_of_read read] at written
      exact (Option.some.inj written).symm

/-- A call that is carried out gives a true reply in the store it leads to, and fails only where any
call may. -/
theorem ensures_called {post : request.Answer → Store → Prop}
    (written : before.write request = some later) :
    (Program.call request).Ensures (answering failing) post before ↔
      (∀ reply, before.Replies request reply → post (.ok reply) later) ∧
        (failing → ∀ failure, post (.error failure) before) := by
  rw [Program.ensures_call]
  constructor
  · intro each
    constructor
    · intro reply isTrue
      exact each (.ok reply) later ⟨isTrue, written⟩
    · intro mayFail failure
      exact each (.error failure) before ⟨.inl mayFail, rfl⟩
  · intro given answer after answered
    rcases given with ⟨onReply, onFailure⟩
    cases answer with
    | ok reply =>
        rcases answered with ⟨isTrue, same⟩
        obtain rfl := Option.some.inj (written.symm.trans same)
        exact onReply reply isTrue
    | error failure =>
        rcases answered with ⟨mayFail | refused, rfl⟩
        · exact onFailure mayFail failure
        · rw [written] at refused
          cases refused

theorem ensures_carried_out {good : request.Reply → Store → Prop}
    (written : before.write request = some later) :
    (Attempt.call request refused).Ensures (answering failing) good bad before ↔
      (∀ reply, before.Replies request reply → good reply later) ∧
        (failing → ∀ failure, (refused failure).Ensures (answering failing) bad before) := by
  unfold Attempt.call
  rw [Attempt.ensures_mk, Program.ensures_bind, ensures_called written]
  simp only [Program.ensures_bind, Program.ensures_pure, Attempt.Ending]

theorem ensures_refused {good : request.Reply → Store → Prop}
    (unwritten : before.write request = none) :
    (Attempt.call request refused).Ensures (answering failing) good bad before ↔
      ∀ failure, (refused failure).Ensures (answering failing) bad before := by
  rw [Attempt.ensures_call]
  constructor
  · intro given failure
    exact given.2 failure before ⟨.inr unwritten, rfl⟩
  · intro each
    constructor
    · intro reply after answered
      have impossible := answered.2
      rw [unwritten] at impossible
      cases impossible
    · intro failure after answered
      rw [answered.2]
      exact each failure

theorem ensures_call_noted {history : List Exchange}
    {good : request.Reply → Store × List Exchange → Prop}
    {bad : ServiceError → Store × List Exchange → Prop} :
    @Attempt.Ensures (no_index request.Reply) _ (answering failing).noting
        (Attempt.call request refused) good bad (before, history) ↔
      (∀ reply later, before.Replies request reply → before.write request = some later →
        good reply (later, history ++ [⟨request, .ok reply⟩])) ∧
      ∀ failure, failing ∨ before.write request = none →
        (refused failure).Ensures (answering failing).noting bad
          (before, history ++ [⟨request, .error failure⟩]) := by
  rw [Attempt.ensures_call]
  constructor
  · intro given
    exact ⟨fun reply later isTrue written => given.1 reply (later, _) ⟨⟨isTrue, written⟩, rfl⟩,
      fun failure cause => given.2 failure (before, _) ⟨⟨cause, rfl⟩, rfl⟩⟩
  · intro given
    constructor
    · rintro reply ⟨later, _⟩ ⟨⟨isTrue, written⟩, rfl⟩
      exact given.1 reply later isTrue written
    · rintro failure ⟨later, written⟩ ⟨⟨cause, unmoved⟩, noted⟩
      obtain rfl : later = before := unmoved
      obtain rfl : written = history ++ [⟨request, .error failure⟩] := noted
      exact given.2 failure cause

theorem ensures_carried_out_noted {history : List Exchange}
    {good : request.Reply → Store × List Exchange → Prop}
    {bad : ServiceError → Store × List Exchange → Prop}
    (written : before.write request = some later) :
    @Attempt.Ensures (no_index request.Reply) _ (answering failing).noting
        (Attempt.call request refused) good bad (before, history) ↔
      (∀ reply, before.Replies request reply →
        good reply (later, history ++ [⟨request, .ok reply⟩])) ∧
      (failing → ∀ failure, (refused failure).Ensures (answering failing).noting bad
        (before, history ++ [⟨request, .error failure⟩])) := by
  rw [ensures_call_noted, written]
  simp only [Option.some.injEq, reduceCtorEq, or_false]
  refine and_congr ?_ forall_comm
  exact forall_congr' fun reply => forall_comm.trans (imp_congr_right fun _ => forall_eq')

theorem ensures_connect {good : Unit → Store → Prop} :
    @Attempt.Ensures (no_index _) _ (answering failing) (Attempt.call .connect refused) good bad
        before ↔
      good () before ∧
        (failing → ∀ failure, (refused failure).Ensures (answering failing) bad before) := by
  apply (@ensures_carried_out failing before before .connect refused bad good rfl).trans
  exact and_congr_left fun _ => ⟨fun each => each () trivial, fun holds _ _ => holds⟩

theorem ensures_bind {good : Unit → Store → Prop} :
    @Attempt.Ensures (no_index _) _ (answering failing) (Attempt.call (.bind name password) refused)
        good bad before ↔
      good () before ∧
        (failing → ∀ failure, (refused failure).Ensures (answering failing) bad before) := by
  apply (@ensures_carried_out failing before before (.bind name password) refused bad good
    rfl).trans
  exact and_congr_left fun _ => ⟨fun each => each () trivial, fun holds _ _ => holds⟩

theorem ensures_search {base : String} {scope : SearchScope} {filter : Filter String}
    {names : List String} {good : List Entry → Store → Prop} :
    @Attempt.Ensures (no_index _) _ (answering failing)
        (Attempt.call (.search base scope filter names) refused) good bad before ↔
      (∀ entries, before.Finds base scope filter names entries → good entries before) ∧
        (failing → ∀ failure, (refused failure).Ensures (answering failing) bad before) :=
  @ensures_carried_out failing before before (.search base scope filter names) refused bad good rfl

theorem ensures_add {attributes : Attributes} {good : Unit → Store → Prop} :
    @Attempt.Ensures (no_index _) _ (answering failing)
        (Attempt.call (.add name attributes) refused) good bad before ↔
      (before name = none → good () (update before name (some (Record.ofAttributes attributes)))) ∧
        (failing ∨ before name ≠ none →
          ∀ failure, (refused failure).Ensures (answering failing) bad before) := by
  by_cases free : before name = none
  · apply (@ensures_carried_out failing before
      (update before name (some (.ofAttributes attributes))) (.add name attributes) refused bad good
      (write_add free)).trans
    have mayFail : failing ∨ before name ≠ none ↔ failing := or_iff_left (not_not_intro free)
    rw [mayFail]
    exact and_congr_left fun _ => ⟨fun each _ => each () trivial, fun holds _ _ => holds free⟩
  · apply (@ensures_refused failing before (.add name attributes) refused bad good
      (write_add_taken free)).trans
    simp [free]

end TeacherDirectory.Store
