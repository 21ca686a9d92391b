import TeacherDirectory.Proofs.Program.Trace
import TeacherDirectory.Service.Basic

/-!
# Programs under the rules of a directory

A rule says which answers a directory may give to a call and what becomes of its state. A program
ensures something under a rule if it holds after every trace that follows the rule; only calls
matter to a rule. The rule that permits everything and writes calls down is the weakest one: what is
ensured under it holds whatever a directory does.
-/

namespace TeacherDirectory

set_option autoImplicit false

/-- The answers that a directory may give to a call in a state, and the states after them. -/
abbrev CallRule (State : Type) := State → (request : Call) → request.Answer → State → Prop

namespace CallRule

variable {State Held : Type}

/-- A step that a rule permits. All but calls leave the state as it is. -/
def Permits (rule : CallRule State) (before : State) (step : Step) (after : State) : Prop :=
  match step with
  | ⟨.call request, answer⟩ => rule before request answer after
  | _ => after = before

def Follows (rule : CallRule State) : State → List Step → State → Prop
  | before, [], after => after = before
  | before, step :: rest, after =>
      ∃ between, rule.Permits before step between ∧ rule.Follows between rest after

theorem follows_append (rule : CallRule State) (earlier later : List Step) (before after : State) :
    rule.Follows before (earlier ++ later) after ↔
      ∃ between, rule.Follows before earlier between ∧ rule.Follows between later after := by
  induction earlier generalizing before with
  | nil =>
      constructor
      · intro follows
        exact ⟨before, rfl, follows⟩
      · intro given
        rcases given with ⟨_, rfl, follows⟩
        exact follows
  | cons step earlier induction =>
      constructor
      · intro given
        rcases given with ⟨middle, permitted, follows⟩
        obtain ⟨between, first, second⟩ := (induction middle).mp follows
        exact ⟨between, ⟨middle, permitted, first⟩, second⟩
      · intro given
        rcases given with ⟨between, ⟨middle, permitted, first⟩, second⟩
        exact ⟨middle, permitted, (induction middle).mpr ⟨between, first, second⟩⟩

/-- Permits every answer and writes down what was asked and answered. -/
def recording : CallRule (List Exchange) :=
  fun before request answer after => after = before ++ [⟨request, answer⟩]

theorem recording_follows (before : List Exchange) (steps : List Step) (after : List Exchange) :
    recording.Follows before steps after ↔ after = before ++ exchanges steps := by
  induction steps generalizing before with
  | nil => simp [Follows]
  | cons step rest induction =>
      have recorded (between : List Exchange) :
          recording.Permits before step between ↔ between = before ++ step.exchange?.toList := by
        rcases step with ⟨effect, answer⟩
        cases effect <;> simp [Permits, recording, Step.exchange?]
      simp [Follows, recorded, induction, exchanges_cons]

def noting (rule : CallRule State) : CallRule (State × List Exchange) :=
  fun before request answer after =>
    rule before.1 request answer after.1 ∧ after.2 = before.2 ++ [⟨request, answer⟩]

theorem noting_follows {rule : CallRule State} {before after : State × List Exchange}
    {steps : List Step} :
    rule.noting.Follows before steps after ↔
      rule.Follows before.1 steps after.1 ∧ after.2 = before.2 ++ exchanges steps := by
  induction steps generalizing before with
  | nil => simp [Follows, Prod.ext_iff]
  | cons step rest induction =>
      have noted (between : State × List Exchange) : rule.noting.Permits before step between ↔
          rule.Permits before.1 step between.1 ∧ between.2 = before.2 ++ step.exchange?.toList := by
        rcases step with ⟨effect, answer⟩
        cases effect <;> simp [Permits, noting, Step.exchange?, Prod.ext_iff]
      simp only [Follows, noted, induction, exchanges_cons]
      constructor
      · rintro ⟨between, ⟨permitted, first⟩, followed, second⟩
        exact ⟨⟨between.1, permitted, followed⟩, by rw [second, first, List.append_assoc]⟩
      · rintro ⟨⟨between, permitted, followed⟩, all⟩
        exact ⟨(between, _), ⟨permitted, rfl⟩, followed, by rw [all, List.append_assoc]⟩

theorem Follows.keeps {rule : CallRule State} {invariant : State → Prop} {before after : State}
    {steps : List Step} (follows : rule.Follows before steps after)
    (each : ∀ state request answer later, invariant state → rule state request answer later →
      invariant later)
    (start : invariant before) : invariant after := by
  induction steps generalizing before with
  | nil => exact (follows : after = before) ▸ start
  | cons step rest induction =>
      rcases follows with ⟨between, permitted, later⟩
      refine induction later ?_
      rcases step with ⟨effect, answer⟩
      cases effect with
      | call request => exact each before request answer between start permitted
      | _ => exact (permitted : between = before) ▸ start

end CallRule

/-- A world whose directory obeys a rule; `held` is the part of the world's state that the rule is
about. -/
def World.Obeys {State Held : Type} (world : World State) (rule : CallRule Held)
    (held : State → Held) : Prop :=
  ∀ effect state, rule.Permits (held state) ⟨effect, (world.answer effect state).1⟩
    (held (world.answer effect state).2)

/-- A world given by its directory: everything but a call succeeds and changes nothing. -/
def World.ofCalls {State : Type} (answer : (request : Call) → State → request.Answer × State) :
    World State where
  answer effect state :=
    match effect with
    | .call request => answer request state
    | .log _ => ((), state)
    | .count _ => ((), state)
    | .wait _ => ((), state)
    | .publish _ => (.ok (), state)
    | .draw => (.replicate 12 ⟨0, Nat.zero_lt_succ 61⟩, state)

theorem World.Obeys.weaken {State Held Other : Type} {world : World State} {rule : CallRule Held}
    {wider : CallRule Other} {held : State → Held} {view : Held → Other} (obeys : world.Obeys rule held)
    (included : ∀ before request answer after, rule before request answer after →
      wider (view before) request answer (view after)) :
    world.Obeys wider (fun state => view (held state)) := by
  intro effect state
  have permitted := obeys effect state
  cases effect with
  | call request => exact included _ request _ _ permitted
  | _ => exact congrArg view (permitted : held _ = held state)

theorem World.of_calls_obeys {State Held : Type} {rule : CallRule Held} {held : State → Held}
    {answer : (request : Call) → State → request.Answer × State}
    (permitted : ∀ request state,
      rule (held state) request (answer request state).1 (held (answer request state).2)) :
    (World.ofCalls answer).Obeys rule held := by
  intro effect state
  cases effect with
  | call request => exact permitted request state
  | _ => rfl

namespace Program

variable {First Second Result State Held : Type}

/-- Whatever trace of the program follows the rule, this holds of its result and its last state. -/
def Ensures (rule : CallRule State) (program : Program Result) (post : Result → State → Prop)
    (before : State) : Prop :=
  ∀ steps result after, program.Takes steps result → rule.Follows before steps after →
    post result after

variable {rule : CallRule State} {before : State}

theorem ensures_pure {value : Result} {post : Result → State → Prop} :
    (pure value : Program Result).Ensures rule post before ↔ post value before := by
  constructor
  · intro ensured
    exact ensured [] value before ⟨rfl, rfl⟩ rfl
  · intro holds steps result after given same
    rcases given with ⟨rfl, rfl⟩
    subst same
    exact holds

theorem ensures_ask {effect : Effect} {post : effect.Answer → State → Prop} :
    (ask effect).Ensures rule post before ↔
      ∀ answer after, rule.Permits before ⟨effect, answer⟩ after → post answer after := by
  constructor
  · intro ensured answer after permitted
    exact ensured [⟨effect, answer⟩] answer after ((takes_ask effect _ answer).mpr rfl)
      ⟨after, permitted, rfl⟩
  · intro holds steps answer after taken follows
    obtain rfl := (takes_ask effect steps answer).mp taken
    rcases follows with ⟨between, permitted, rfl⟩
    exact holds answer after permitted

theorem ensures_bind {first : Program First} {next : First → Program Second}
    {post : Second → State → Prop} :
    (first >>= next).Ensures rule post before ↔
      first.Ensures rule (fun value between => (next value).Ensures rule post between) before := by
  constructor
  · intro ensured earlier value between firstTaken firstFollows later result after taken follows
    exact ensured (earlier ++ later) result after
      ((takes_bind first next _ result).mpr ⟨earlier, later, value, rfl, firstTaken, taken⟩)
      ((rule.follows_append earlier later before after).mpr ⟨between, firstFollows, follows⟩)
  · intro ensured steps result after taken follows
    obtain ⟨earlier, later, value, rfl, firstTaken, secondTaken⟩ :=
      (takes_bind first next steps result).mp taken
    obtain ⟨between, firstFollows, secondFollows⟩ :=
      (rule.follows_append earlier later before after).mp follows
    exact ensured earlier value between firstTaken firstFollows later result after secondTaken
      secondFollows

theorem ensures_call {request : Call} {post : request.Answer → State → Prop} :
    (call request).Ensures rule post before ↔
      ∀ answer after, rule before request answer after → post answer after :=
  ensures_ask

theorem ensures_log {level : LogLevel} {message : String} {fields : List (String × String)}
    {post : Unit → State → Prop} :
    (log level message fields).Ensures rule post before ↔ post () before :=
  ensures_ask.trans ⟨fun holds => holds () before rfl, fun holds _ _ same => same ▸ holds⟩

theorem ensures_logged {level : LogLevel} {message : String} {fields : List (String × String)}
    {value : Result} {post : Result → State → Prop} :
    (do log level message fields; return value : Program Result).Ensures rule post before ↔
      post value before := by
  rw [ensures_bind, ensures_log, ensures_pure]

theorem ensures_count {counter : Counter} {post : Unit → State → Prop} :
    (count counter).Ensures rule post before ↔ post () before :=
  ensures_ask.trans ⟨fun holds => holds () before rfl, fun holds _ _ same => same ▸ holds⟩

theorem ensures_wait {span : Span} {post : Unit → State → Prop} :
    (wait span).Ensures rule post before ↔ post () before :=
  ensures_ask.trans ⟨fun holds => holds () before rfl, fun holds _ _ same => same ▸ holds⟩

theorem ensures_draw {post : Draws → State → Prop} :
    draw.Ensures rule post before ↔ ∀ draws, post draws before :=
  ensures_ask.trans
    ⟨fun holds draws => holds draws before rfl, fun holds draws _ same => same ▸ holds draws⟩

theorem Ensures.weaken {program : Program Result} {post weaker : Result → State → Prop}
    (ensured : program.Ensures rule post before)
    (implies : ∀ result after, post result after → weaker result after) :
    program.Ensures rule weaker before :=
  fun steps result after taken follows =>
    implies result after (ensured steps result after taken follows)

theorem ensures_congr {program : Program Result} {post other : Result → State → Prop}
    (same : ∀ result after, post result after ↔ other result after) :
    program.Ensures rule post before ↔ program.Ensures rule other before :=
  ⟨fun ensured => ensured.weaken fun result after => (same result after).mp,
    fun ensured => ensured.weaken fun result after => (same result after).mpr⟩

theorem ensures_kept {program : Program Result} {invariant : State → Prop}
    (each : ∀ state request answer later, invariant state → rule state request answer later →
      invariant later)
    (start : invariant before) : program.Ensures rule (fun _ => invariant) before :=
  fun _ _ _ _ follows => follows.keeps each start

theorem run_follows {world : World State} {rule : CallRule Held} {held : State → Held}
    (obeys : world.Obeys rule held) (program : Program Result) (state : State) :
    rule.Follows (held state) (program.run world state).steps
      (held (program.run world state).state) := by
  induction program generalizing state with
  | done value => rfl
  | perform effect next induction => exact ⟨_, obeys effect state, induction _ _⟩

theorem Ensures.of_run {world : World State} {rule : CallRule Held} {held : State → Held}
    (obeys : world.Obeys rule held) {program : Program Result} {post : Result → Held → Prop}
    {state : State} (ensured : program.Ensures rule post (held state)) :
    post (program.run world state).result (held (program.run world state).state) :=
  ensured _ _ _ (run_takes world program state) (run_follows obeys program state)

theorem Ensures.of_takes {program : Program Result} {post : Result → List Exchange → Prop}
    (ensured : program.Ensures CallRule.recording post []) {steps : List Step} {result : Result}
    (taken : program.Takes steps result) : post result (exchanges steps) :=
  ensured steps result _ taken ((CallRule.recording_follows [] steps _).mpr rfl)

section Noting

variable {program : Program Result} {history : List Exchange}

/-- What is ensured of the states is ensured while calls are written down, and none is forgotten. -/
theorem Ensures.noted {post : Result → State → Prop} (ensured : program.Ensures rule post before) :
    program.Ensures rule.noting (fun result after => post result after.1 ∧ history ⊆ after.2)
      (before, history) := by
  intro steps result after taken follows
  obtain ⟨followed, written⟩ := CallRule.noting_follows.mp follows
  exact ⟨ensured steps result after.1 taken followed, written ▸ List.subset_append_left _ _⟩

theorem Ensures.unnoted {post : Result → State → Prop}
    (ensured : program.Ensures rule.noting (fun result after => post result after.1)
      (before, history)) : program.Ensures rule post before :=
  fun steps result after taken followed =>
    ensured steps result (after, history ++ exchanges steps) taken
      (CallRule.noting_follows.mpr ⟨followed, rfl⟩)

theorem Ensures.of_noted_run {world : World State} {rule : CallRule Held} {held : State → Held}
    (obeys : world.Obeys rule held) {post : Result → Held × List Exchange → Prop} {state : State}
    (ensured : program.Ensures rule.noting post (held state, [])) :
    post (program.run world state).result
      (held (program.run world state).state, exchanges (program.run world state).steps) :=
  ensured _ _ _ (run_takes world program state)
    (CallRule.noting_follows.mpr ⟨run_follows obeys program state, rfl⟩)

end Noting

end Program

namespace Attempt

variable {First Second Result State : Type}

def Ending (good : Result → State → Prop) (bad : ServiceError → State → Prop) :
    Except ServiceError Result → State → Prop
  | .ok value => good value
  | .error failure => bad failure

/-- Whatever trace follows the rule, `good` holds after a success and `bad` after a failure. -/
def Ensures (rule : CallRule State) (attempt : Attempt Result) (good : Result → State → Prop)
    (bad : ServiceError → State → Prop) (before : State) : Prop :=
  attempt.run.Ensures rule (Ending good bad) before

/-- Whatever trace follows the rule, this holds of the last state, after a success as after a
failure. -/
abbrev EndsIn (rule : CallRule State) (attempt : Attempt Result) (post : State → Prop)
    (before : State) : Prop :=
  attempt.Ensures rule (fun _ => post) (fun _ => post) before

variable {rule : CallRule State} {before : State} {bad : ServiceError → State → Prop}

@[simp] theorem ensures_pure {value : Result} {good : Result → State → Prop} :
    (pure value : Attempt Result).Ensures rule good bad before ↔ good value before :=
  Program.ensures_pure

@[simp] theorem ensures_throw {failure : ServiceError} {good : Result → State → Prop} :
    (throw failure : Attempt Result).Ensures rule good bad before ↔ bad failure before :=
  Program.ensures_pure

@[simp] theorem ensures_lift {program : Program Result} {good : Result → State → Prop} :
    (liftM program : Attempt Result).Ensures rule good bad before ↔
      program.Ensures rule good before := by
  change (program >>= fun value => pure (Except.ok value)).Ensures rule _ before ↔ _
  simp only [Program.ensures_bind, Program.ensures_pure, Ending]

@[simp] theorem ensures_bind {first : Attempt First} {next : First → Attempt Second}
    {good : Second → State → Prop} :
    (first >>= next).Ensures rule good bad before ↔
      first.Ensures rule (fun value between => (next value).Ensures rule good bad between) bad
        before := by
  unfold Ensures
  rw [ExceptT.run_bind, Program.ensures_bind]
  apply Program.ensures_congr
  intro outcome between
  cases outcome with
  | ok value => exact Iff.rfl
  | error failure => exact Program.ensures_pure

@[simp] theorem ensures_mk {program : Program (Except ServiceError Result)}
    {good : Result → State → Prop} :
    Ensures rule (ExceptT.mk program) good bad before ↔
      program.Ensures rule (Ending good bad) before :=
  Iff.rfl

@[simp] theorem ensures_call {request : Call} {refused : DirectoryError → Program ServiceError}
    {good : request.Reply → State → Prop} :
    @Ensures (no_index request.Reply) State rule (call request refused) good bad before ↔
      (∀ reply after, rule before request (.ok reply) after → good reply after) ∧
        ∀ failure after, rule before request (.error failure) after →
          (refused failure).Ensures rule bad after := by
  unfold call
  rw [ensures_mk, Program.ensures_bind, Program.ensures_call]
  constructor
  · intro ensured
    refine ⟨fun reply after permitted => ?_, fun failure after permitted => ?_⟩
    · simpa only [Program.ensures_pure, Ending] using ensured (.ok reply) after permitted
    · have continued := Program.ensures_bind.mp (ensured (.error failure) after permitted)
      simpa only [Program.ensures_pure, Ending] using continued
  · intro given answer after permitted
    rcases given with ⟨onReply, onFailure⟩
    cases answer with
    | ok reply => exact Program.ensures_pure.mpr (onReply reply after permitted)
    | error failure =>
        refine Program.ensures_bind.mpr ?_
        simpa only [Program.ensures_pure, Ending] using onFailure failure after permitted

theorem ensures_call_recorded {request : Call} {refused : DirectoryError → Program ServiceError}
    {history : List Exchange} {good : request.Reply → List Exchange → Prop}
    {bad : ServiceError → List Exchange → Prop} :
    @Ensures (no_index request.Reply) _ CallRule.recording (call request refused) good bad
        history ↔
      (∀ reply, good reply (history ++ [⟨request, .ok reply⟩])) ∧
        ∀ failure, (refused failure).Ensures CallRule.recording bad
          (history ++ [⟨request, .error failure⟩]) := by
  rw [ensures_call]
  simp only [CallRule.recording, forall_eq]

@[simp] theorem ensures_refuse {message : String} {failure : ServiceError}
    {good : Result → State → Prop} :
    (refuse message failure : Attempt Result).Ensures rule good bad before ↔ bad failure before := by
  unfold refuse
  simp [Program.ensures_log]

theorem Ensures.weaken {attempt : Attempt Result} {good better : Result → State → Prop}
    {worse : ServiceError → State → Prop} (ensured : attempt.Ensures rule good bad before)
    (onSuccess : ∀ value after, good value after → better value after)
    (onFailure : ∀ failure after, bad failure after → worse failure after) :
    attempt.Ensures rule better worse before :=
  Program.Ensures.weaken ensured fun outcome after holds =>
    match outcome, holds with
    | .ok value, holds => onSuccess value after holds
    | .error failure, holds => onFailure failure after holds

theorem Ensures.imp {attempt : Attempt Result} {good better : Result → State → Prop}
    (ensured : attempt.Ensures rule good bad before)
    (onSuccess : ∀ value after, good value after → better value after) :
    attempt.Ensures rule better bad before :=
  ensured.weaken onSuccess fun _ _ failed => failed

theorem ensures_assoc {Third : Type} {first : Attempt First} {next : First → Attempt Second}
    {last : Second → Attempt Third} {good : Third → State → Prop} :
    (first >>= fun value => next value >>= last).Ensures rule good bad before ↔
      (first >>= next >>= last).Ensures rule good bad before := by
  simp only [ensures_bind]

theorem Ensures.bind {first : Attempt First} {next : First → Attempt Second}
    {good : Second → State → Prop} {between : First → State → Prop}
    (ensured : first.Ensures rule between bad before)
    (rest : ∀ value after, between value after → (next value).Ensures rule good bad after) :
    (first >>= next).Ensures rule good bad before :=
  ensures_bind.mpr (ensured.imp rest)

theorem Ensures.bind_certain {first : Attempt First} {next : First → Attempt Second}
    {good : Second → State → Prop} {between : First → State → Prop}
    (ensured : first.Ensures rule between (fun _ _ => False) before)
    (rest : ∀ value after, between value after → (next value).Ensures rule good bad after) :
    (first >>= next).Ensures rule good bad before :=
  (ensured.weaken (fun _ _ holds => holds) fun _ _ impossible => impossible.elim).bind rest

theorem Ensures.noted {attempt : Attempt Result} {good : Result → State → Prop}
    {history : List Exchange} (ensured : attempt.Ensures rule good bad before) :
    attempt.Ensures rule.noting (fun value after => good value after.1 ∧ history ⊆ after.2)
      (fun failure after => bad failure after.1 ∧ history ⊆ after.2) (before, history) :=
  Program.Ensures.weaken (Program.Ensures.noted ensured) fun outcome _ holds =>
    match outcome, holds with
    | .ok _, holds => holds
    | .error _, holds => holds

theorem Ensures.unnoted (history : List Exchange) {attempt : Attempt Result}
    {good : Result → State → Prop}
    (ensured : attempt.Ensures rule.noting (fun value after => good value after.1)
      (fun failure after => bad failure after.1) (before, history)) :
    attempt.Ensures rule good bad before :=
  Program.Ensures.unnoted (Program.Ensures.weaken ensured fun outcome _ holds =>
    match outcome, holds with
    | .ok _, holds => holds
    | .error _, holds => holds)

theorem ends_in_iff {attempt : Attempt Result} {post : State → Prop} :
    attempt.EndsIn rule post before ↔ attempt.run.Ensures rule (fun _ => post) before :=
  Program.ensures_congr fun outcome _ => by cases outcome <;> exact Iff.rfl

section Runs

variable {Held : Type} {world : World State} {ruled : CallRule Held} {held : State → Held}
  {attempt : Attempt Result} {state : State}

theorem EndsIn.of_run {post : Held → Prop} (obeys : world.Obeys ruled held)
    (ends : attempt.EndsIn ruled post (held state)) :
    post (held (attempt.run.run world state).state) :=
  Program.Ensures.of_run obeys (ends_in_iff.mp ends)

/-- An attempt that cannot fail under a rule succeeds in every world that obeys it. -/
theorem Ensures.succeeds {good : Result → Held → Prop} (obeys : world.Obeys ruled held)
    (ensured : attempt.Ensures ruled good (fun _ _ => False) (held state)) :
    ∃ value, (attempt.run.run world state).result = .ok value ∧
      good value (held (attempt.run.run world state).state) := by
  have ended := Program.Ensures.of_run obeys ensured
  revert ended
  cases (attempt.run.run world state).result with
  | ok value => exact fun holds => ⟨value, rfl, holds⟩
  | error failure => exact False.elim

theorem Ensures.fails {failed : ServiceError → Held → Prop} (obeys : world.Obeys ruled held)
    (ensured : attempt.Ensures ruled (fun _ _ => False) failed (held state)) :
    ∃ failure, (attempt.run.run world state).result = .error failure ∧
      failed failure (held (attempt.run.run world state).state) := by
  have ended := Program.Ensures.of_run obeys ensured
  revert ended
  cases (attempt.run.run world state).result with
  | ok value => exact False.elim
  | error failure => exact fun holds => ⟨failure, rfl, holds⟩

end Runs

end Attempt

end TeacherDirectory
