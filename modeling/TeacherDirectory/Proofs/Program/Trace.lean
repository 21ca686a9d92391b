import TeacherDirectory.Service.Basic

/-!
# Traces of programs

The steps that a program can take are read off its tree, with any answer at every effect. A run in a
world is one of these traces. Directory calls with their answers are what a directory sees of a
trace.
-/

namespace TeacherDirectory

set_option autoImplicit false

def Call.isWrite : Call → Bool
  | .add .. => true
  | .modify .. => true
  | .rename .. => true
  | .delete .. => true
  | _ => false

structure Exchange where
  request : Call
  answer : request.Answer

namespace Exchange

def succeeded (exchange : Exchange) : Bool :=
  match exchange.answer with
  | .ok _ => true
  | .error _ => false

/-- A write that was reported as carried out. -/
def wrote (exchange : Exchange) : Bool := exchange.request.isWrite && exchange.succeeded

end Exchange

def Step.exchange? : Step → Option Exchange
  | ⟨.call request, answer⟩ => some ⟨request, answer⟩
  | _ => none

def exchanges (steps : List Step) : List Exchange := steps.filterMap Step.exchange?

@[simp] theorem exchanges_nil : exchanges [] = [] := rfl

@[simp] theorem exchanges_append (earlier later : List Step) :
    exchanges (earlier ++ later) = exchanges earlier ++ exchanges later :=
  List.filterMap_append

theorem exchanges_cons (step : Step) (rest : List Step) :
    exchanges (step :: rest) = step.exchange?.toList ++ exchanges rest := by
  cases found : step.exchange? <;> simp [exchanges, found]

def events (steps : List Step) : List PersonEvent := steps.filterMap Step.event?

@[simp] theorem events_nil : events [] = [] := rfl

@[simp] theorem events_append (earlier later : List Step) :
    events (earlier ++ later) = events earlier ++ events later :=
  List.filterMap_append

theorem events_cons (step : Step) (rest : List Step) :
    events (step :: rest) = step.event?.toList ++ events rest := by
  cases found : step.event? <;> simp [events, found]

def logs (steps : List Step) : List LogEvent := steps.filterMap Step.log?

theorem logs_append (earlier later : List Step) :
    logs (earlier ++ later) = logs earlier ++ logs later :=
  List.filterMap_append

def warnings (steps : List Step) : List LogEvent :=
  (logs steps).filter fun event => event.level = .warn

@[simp] theorem warnings_append (earlier later : List Step) :
    warnings (earlier ++ later) = warnings earlier ++ warnings later := by
  unfold warnings logs
  rw [List.filterMap_append, List.filter_append]

def Step.wait? (step : Step) : Option Span :=
  match step.effect with
  | .wait span => some span
  | _ => none

def waits (steps : List Step) : List Span := steps.filterMap Step.wait?

@[simp] theorem waits_nil : waits [] = [] := rfl

@[simp] theorem waits_append (earlier later : List Step) :
    waits (earlier ++ later) = waits earlier ++ waits later :=
  List.filterMap_append

/-- A list is cut in one way only at an item that satisfies what no other item does. -/
theorem cut_unique {Item : Type} {special : Item → Prop} {before before' after after' : List Item}
    {item item' : Item} (same : before ++ item :: after = before' ++ item' :: after')
    (isSpecial : special item) (noneBefore : ∀ other ∈ before', ¬special other)
    (noneAfter : ∀ other ∈ after', ¬special other) :
    before = before' ∧ item = item' ∧ after = after' := by
  induction before' generalizing before with
  | nil =>
      cases before with
      | nil =>
          cases same
          exact ⟨rfl, rfl, rfl⟩
      | cons head before =>
          obtain ⟨-, rfl⟩ := List.cons.inj same
          exact (noneAfter item (by simp) isSpecial).elim
  | cons head' before' induction =>
      cases before with
      | nil =>
          obtain ⟨rfl, -⟩ := List.cons.inj same
          exact (noneBefore item (by simp) isSpecial).elim
      | cons head before =>
          obtain ⟨rfl, rest⟩ := List.cons.inj same
          obtain ⟨rfl, rfl, rfl⟩ := induction rest
            fun other member => noneBefore other (List.mem_cons_of_mem head member)
          exact ⟨rfl, rfl, rfl⟩

theorem cut_behind {Item : Type} (special : Item → Prop) {before before' after after' : List Item}
    {item item' : Item} (same : before ++ item :: after = before' ++ item' :: after')
    (isSpecial : special item) (noneBefore : ∀ other ∈ before', ¬special other)
    (notThere : ¬special item') : item' ∈ before := by
  induction before' generalizing before with
  | nil =>
      cases before with
      | nil =>
          obtain ⟨rfl, -⟩ := List.cons.inj same
          exact (notThere isSpecial).elim
      | cons head before =>
          obtain ⟨rfl, -⟩ := List.cons.inj same
          exact List.mem_cons_self
  | cons head' before' induction =>
      cases before with
      | nil =>
          obtain ⟨rfl, -⟩ := List.cons.inj same
          exact (noneBefore item List.mem_cons_self isSpecial).elim
      | cons head before =>
          obtain ⟨rfl, rest⟩ := List.cons.inj same
          exact List.mem_cons_of_mem _
            (induction rest fun other member => noneBefore other (List.mem_cons_of_mem _ member))

theorem cut_either {Item : Type} {first second before after : List Item} {item : Item}
    (same : first ++ second = before ++ item :: after) :
    item ∈ first ∨ ∃ between, before = first ++ between ∧ item ∈ second := by
  induction first generalizing before with
  | nil => exact .inr ⟨before, rfl, by rw [show second = _ from same]; simp⟩
  | cons head first induction =>
      cases before with
      | nil =>
          obtain ⟨rfl, -⟩ := List.cons.inj same
          exact .inl List.mem_cons_self
      | cons other before =>
          obtain ⟨rfl, rest⟩ := List.cons.inj same
          rcases induction rest with member | ⟨between, rfl, member⟩
          · exact .inl (List.mem_cons_of_mem _ member)
          · exact .inr ⟨between, rfl, member⟩

/-- What holds of all that stands before an item, and of all that stands behind it, orders the
list. -/
theorem pairwise_around {Item : Type} {related : Item → Item → Prop} {before after : List Item}
    {item : Item} (fromBefore : ∀ earlier ∈ before, ∀ later, related earlier later)
    (toAfter : ∀ later ∈ after, ∀ earlier, related earlier later) :
    (before ++ item :: after).Pairwise related := by
  refine List.pairwise_append.mpr ⟨?_, List.pairwise_cons.mpr ⟨?_, ?_⟩, ?_⟩
  · exact List.pairwise_of_forall_mem_list fun earlier member later _ =>
      fromBefore earlier member later
  · exact fun later member => toAfter later member item
  · exact List.pairwise_of_forall_mem_list fun earlier _ later member =>
      toAfter later member earlier
  · exact fun earlier member later _ => fromBefore earlier member later

namespace Program

variable {First Second Result State : Type}

/-- The program can take these steps and then has this result. -/
def Takes : Program Result → List Step → Result → Prop
  | done value, steps, result => steps = [] ∧ result = value
  | perform effect next, steps, result =>
      ∃ answer rest, steps = ⟨effect, answer⟩ :: rest ∧ (next answer).Takes rest result

theorem run_takes (world : World State) (program : Program Result) (state : State) :
    program.Takes (program.run world state).steps (program.run world state).result := by
  induction program generalizing state with
  | done value => exact ⟨rfl, rfl⟩
  | perform effect next induction => exact ⟨_, _, rfl, induction _ _⟩

theorem run_bind (world : World State) (first : Program First) (next : First → Program Second)
    (state : State) :
    (first >>= next).run world state =
      let earlier := first.run world state
      let later := (next earlier.result).run world earlier.state
      ⟨earlier.steps ++ later.steps, later.result, later.state⟩ := by
  change (first.bind next).run world state = _
  induction first generalizing state with
  | done value => rfl
  | perform effect rest induction =>
      simp only [Program.bind, run, induction, List.cons_append]

theorem takes_pure (value : Result) (steps : List Step) (result : Result) :
    (pure value : Program Result).Takes steps result ↔ steps = [] ∧ result = value :=
  Iff.rfl

theorem takes_ask (effect : Effect) (steps : List Step) (answer : effect.Answer) :
    (ask effect).Takes steps answer ↔ steps = [⟨effect, answer⟩] := by
  constructor
  · intro given
    rcases given with ⟨_, rest, rfl, rfl, rfl⟩
    rfl
  · intro same
    subst same
    exact ⟨answer, [], rfl, rfl, rfl⟩

/-- A trace of two programs in sequence is cut where the first one ends. -/
theorem takes_bind (first : Program First) (next : First → Program Second) (steps : List Step)
    (result : Second) :
    (first >>= next).Takes steps result ↔
      ∃ earlier later value, steps = earlier ++ later ∧ first.Takes earlier value ∧
        (next value).Takes later result := by
  change (first.bind next).Takes steps result ↔ _
  induction first generalizing steps with
  | done value =>
      constructor
      · intro taken
        exact ⟨[], steps, value, rfl, ⟨rfl, rfl⟩, taken⟩
      · intro given
        rcases given with ⟨_, later, _, rfl, ⟨rfl, rfl⟩, taken⟩
        exact taken
  | perform effect rest induction =>
      constructor
      · intro given
        rcases given with ⟨answer, tail, rfl, taken⟩
        obtain ⟨earlier, later, value, rfl, before, after⟩ := (induction answer tail).mp taken
        exact ⟨⟨effect, answer⟩ :: earlier, later, value, rfl, ⟨answer, earlier, rfl, before⟩, after⟩
      · intro given
        rcases given with ⟨_, later, value, rfl, ⟨answer, earlier, rfl, before⟩, after⟩
        exact ⟨answer, earlier ++ later, rfl,
          (induction answer _).mpr ⟨earlier, later, value, rfl, before, after⟩⟩

theorem takes_log (level : LogLevel) (message : String) (fields : List (String × String))
    (steps : List Step) (result : Unit) :
    (log level message fields).Takes steps result ↔ steps = [⟨.log ⟨level, message, fields⟩, ()⟩] :=
  takes_ask (.log ⟨level, message, fields⟩) steps result

/-- The program can end with this result after these calls and answers, whatever else it did. -/
def Yields (program : Program Result) (history : List Exchange) (result : Result) : Prop :=
  ∃ steps, program.Takes steps result ∧ exchanges steps = history

theorem Takes.yields {program : Program Result} {steps : List Step} {result : Result}
    (taken : program.Takes steps result) : program.Yields (exchanges steps) result :=
  ⟨steps, taken, rfl⟩

theorem yields_pure {value result : Result} {history : List Exchange} :
    (pure value : Program Result).Yields history result ↔ history = [] ∧ result = value := by
  constructor
  · intro given
    rcases given with ⟨_, ⟨rfl, rfl⟩, rfl⟩
    exact ⟨rfl, rfl⟩
  · intro given
    rcases given with ⟨rfl, rfl⟩
    exact ⟨[], ⟨rfl, rfl⟩, rfl⟩

theorem yields_ask {effect : Effect} {history : List Exchange} {answer : effect.Answer} :
    (ask effect).Yields history answer ↔ exchanges [⟨effect, answer⟩] = history := by
  constructor
  · intro given
    rcases given with ⟨steps, taken, rfl⟩
    rw [(takes_ask effect steps answer).mp taken]
  · intro same
    subst same
    exact ((takes_ask effect _ answer).mpr rfl).yields

theorem yields_bind {first : Program First} {next : First → Program Second}
    {history : List Exchange} {result : Second} :
    (first >>= next).Yields history result ↔
      ∃ earlier later value, history = earlier ++ later ∧ first.Yields earlier value ∧
        (next value).Yields later result := by
  constructor
  · intro given
    rcases given with ⟨steps, taken, rfl⟩
    obtain ⟨earlier, later, value, rfl, firstTaken, nextTaken⟩ :=
      (takes_bind first next steps result).mp taken
    exact ⟨_, _, value, exchanges_append earlier later, firstTaken.yields, nextTaken.yields⟩
  · intro given
    rcases given with ⟨_, _, value, rfl, ⟨earlier, firstTaken, rfl⟩, ⟨later, nextTaken, rfl⟩⟩
    exact ⟨earlier ++ later,
      (takes_bind first next _ result).mpr ⟨earlier, later, value, rfl, firstTaken, nextTaken⟩,
      exchanges_append earlier later⟩

theorem yields_ask_bind {effect : Effect} {next : effect.Answer → Program Result}
    {history : List Exchange} {result : Result} :
    (ask effect >>= next).Yields history result ↔
      ∃ answer later, history = exchanges [⟨effect, answer⟩] ++ later ∧
        (next answer).Yields later result := by
  rw [yields_bind]
  constructor
  · intro given
    rcases given with ⟨_, later, answer, rfl, asked, yielded⟩
    obtain rfl := yields_ask.mp asked
    exact ⟨answer, later, rfl, yielded⟩
  · intro given
    rcases given with ⟨answer, later, rfl, yielded⟩
    exact ⟨_, later, answer, rfl, yields_ask.mpr rfl, yielded⟩

theorem yields_call_bind {Result : Type} {request : Call}
    {next : request.Answer → Program Result} {history : List Exchange} {result : Result} :
    (call request >>= next).Yields history result ↔
      ∃ answer later, history = ⟨request, answer⟩ :: later ∧ (next answer).Yields later result :=
  yields_ask_bind

theorem yields_bind_pure {First Second : Type} {program : Program First}
    {convert : First → Second} {history : List Exchange} {result : Second} :
    (program >>= fun value => pure (convert value)).Yields history result ↔
      ∃ value, program.Yields history value ∧ result = convert value := by
  rw [yields_bind]
  constructor
  · rintro ⟨earlier, _, value, rfl, yielded, ended⟩
    obtain ⟨rfl, rfl⟩ := yields_pure.mp ended
    exact ⟨value, by rwa [List.append_nil], rfl⟩
  · rintro ⟨value, yielded, rfl⟩
    exact ⟨history, [], value, (List.append_nil history).symm, yielded,
      yields_pure.mpr ⟨rfl, rfl⟩⟩

theorem yields_log_bind {level : LogLevel} {message : String} {fields : List (String × String)}
    {next : Unit → Program Result} {history : List Exchange} {result : Result} :
    (log level message fields >>= next).Yields history result ↔
      (next ()).Yields history result :=
  yields_ask_bind.trans ⟨fun ⟨_, _, same, yielded⟩ => same ▸ yielded,
    fun yielded => ⟨(), history, rfl, yielded⟩⟩

theorem yields_count_bind {counter : Counter} {next : Unit → Program Result}
    {history : List Exchange} {result : Result} :
    (count counter >>= next).Yields history result ↔ (next ()).Yields history result :=
  yields_ask_bind.trans ⟨fun ⟨_, _, same, yielded⟩ => same ▸ yielded,
    fun yielded => ⟨(), history, rfl, yielded⟩⟩

end Program

namespace Attempt

variable {First Second Result : Type}

theorem takes_pure (value : Result) (steps : List Step) (outcome : Except ServiceError Result) :
    (pure value : Attempt Result).run.Takes steps outcome ↔ steps = [] ∧ outcome = .ok value :=
  Iff.rfl

theorem takes_lift (program : Program Result) (steps : List Step)
    (outcome : Except ServiceError Result) :
    (liftM program : Attempt Result).run.Takes steps outcome ↔
      ∃ value, program.Takes steps value ∧ outcome = .ok value := by
  change (program >>= fun value => pure (Except.ok value)).Takes steps outcome ↔ _
  rw [Program.takes_bind]
  constructor
  · intro given
    rcases given with ⟨earlier, _, value, rfl, taken, rfl, rfl⟩
    exact ⟨value, by rwa [List.append_nil], rfl⟩
  · intro given
    rcases given with ⟨value, taken, rfl⟩
    exact ⟨steps, [], value, (List.append_nil steps).symm, taken, rfl, rfl⟩

theorem takes_refuse (message : String) (failure : ServiceError) (steps : List Step)
    (outcome : Except ServiceError Result) :
    (refuse message failure : Attempt Result).run.Takes steps outcome ↔
      steps = [⟨.log ⟨.error, message, []⟩, ()⟩] ∧ outcome = .error failure := by
  constructor
  · intro given
    rcases given with ⟨_, _, rfl, rfl, rfl⟩
    exact ⟨rfl, rfl⟩
  · intro given
    rcases given with ⟨rfl, rfl⟩
    exact ⟨(), [], rfl, rfl, rfl⟩

theorem takes_log_bind (level : LogLevel) (message : String) (fields : List (String × String))
    (next : Unit → Attempt Result) (steps : List Step) (outcome : Except ServiceError Result) :
    (liftM (Program.log level message fields) >>= next : Attempt Result).run.Takes steps outcome ↔
      ∃ rest, steps = ⟨.log ⟨level, message, fields⟩, ()⟩ :: rest ∧
        (next ()).run.Takes rest outcome := by
  constructor
  · intro given
    rcases given with ⟨_, rest, rfl, taken⟩
    exact ⟨rest, rfl, taken⟩
  · intro given
    rcases given with ⟨rest, rfl, taken⟩
    exact ⟨(), rest, rfl, taken⟩

theorem takes_bind (first : Attempt First) (next : First → Attempt Second) (steps : List Step)
    (outcome : Except ServiceError Second) :
    (first >>= next).run.Takes steps outcome ↔
      (∃ failure, first.run.Takes steps (.error failure) ∧ outcome = .error failure) ∨
        ∃ earlier later value, steps = earlier ++ later ∧ first.run.Takes earlier (.ok value) ∧
          (next value).run.Takes later outcome := by
  rw [ExceptT.run_bind, Program.takes_bind]
  constructor
  · intro given
    rcases given with ⟨earlier, later, firstOutcome, rfl, taken, continued⟩
    cases firstOutcome with
    | ok value => exact .inr ⟨earlier, later, value, rfl, taken, continued⟩
    | error failure =>
        rcases continued with ⟨rfl, rfl⟩
        exact .inl ⟨failure, by rwa [List.append_nil], rfl⟩
  · intro cause
    rcases cause with ⟨failure, taken, rfl⟩ | ⟨earlier, later, value, rfl, taken, continued⟩
    · exact ⟨steps, [], .error failure, (List.append_nil steps).symm, taken, rfl, rfl⟩
    · exact ⟨earlier, later, .ok value, rfl, taken, continued⟩

theorem takes_lift_bind (program : Program First) (next : First → Attempt Second)
    (steps : List Step) (outcome : Except ServiceError Second) :
    ((liftM program : Attempt First) >>= next).run.Takes steps outcome ↔
      ∃ earlier later value, steps = earlier ++ later ∧ program.Takes earlier value ∧
        (next value).run.Takes later outcome := by
  rw [takes_bind]
  simp only [takes_lift]
  constructor
  · intro cause
    rcases cause with ⟨_, ⟨_, -, impossible⟩, -⟩ | ⟨earlier, later, value, rfl, ⟨_, taken, same⟩, rest⟩
    · cases impossible
    · cases same
      exact ⟨earlier, later, value, rfl, taken, rest⟩
  · intro given
    rcases given with ⟨earlier, later, value, rfl, taken, rest⟩
    exact .inr ⟨earlier, later, value, rfl, ⟨value, taken, rfl⟩, rest⟩

theorem yields_pure {value : Result} {history : List Exchange}
    {outcome : Except ServiceError Result} :
    (pure value : Attempt Result).run.Yields history outcome ↔
      history = [] ∧ outcome = .ok value :=
  Program.yields_pure

theorem yields_lift {program : Program Result} {history : List Exchange} {value : Result} :
    (liftM program : Attempt Result).run.Yields history (.ok value) ↔
      program.Yields history value := by
  change (program >>= fun result => pure (Except.ok result)).Yields history (.ok value) ↔ _
  rw [Program.yields_bind]
  constructor
  · intro given
    rcases given with ⟨own, later, result, rfl, yielded, ended⟩
    obtain ⟨rfl, same⟩ := Program.yields_pure.mp ended
    cases same
    rwa [List.append_nil]
  · intro yielded
    exact ⟨history, [], value, (List.append_nil history).symm, yielded,
      Program.yields_pure.mpr ⟨rfl, rfl⟩⟩

theorem yields_log_bind {level : LogLevel} {message : String} {fields : List (String × String)}
    {next : Unit → Attempt Result} {history : List Exchange}
    {outcome : Except ServiceError Result} :
    (liftM (Program.log level message fields) >>= next : Attempt Result).run.Yields history
      outcome ↔ (next ()).run.Yields history outcome :=
  Program.yields_log_bind

theorem yields_bind_ok {first : Attempt First} {next : First → Attempt Second}
    {history : List Exchange} {value : Second} :
    (first >>= next).run.Yields history (.ok value) ↔
      ∃ earlier later between, history = earlier ++ later ∧
        first.run.Yields earlier (.ok between) ∧ (next between).run.Yields later (.ok value) := by
  rw [ExceptT.run_bind, Program.yields_bind]
  constructor
  · intro given
    rcases given with ⟨earlier, later, outcome, rfl, yielded, continued⟩
    cases outcome with
    | ok between => exact ⟨earlier, later, between, rfl, yielded, continued⟩
    | error failure =>
        obtain ⟨-, impossible⟩ := Program.yields_pure.mp continued
        cases impossible
  · intro given
    rcases given with ⟨earlier, later, between, rfl, yielded, continued⟩
    exact ⟨earlier, later, .ok between, rfl, yielded, continued⟩

theorem yields_lift_bind {program : Program First} {next : First → Attempt Second}
    {history : List Exchange} {outcome : Except ServiceError Second} :
    (liftM program >>= next : Attempt Second).run.Yields history outcome ↔
      ∃ earlier later value, history = earlier ++ later ∧ program.Yields earlier value ∧
        (next value).run.Yields later outcome := by
  rw [ExceptT.run_bind, Program.yields_bind]
  constructor
  · rintro ⟨earlier, later, lifted, rfl, yielded, continued⟩
    obtain ⟨value, given, rfl⟩ := Program.yields_bind_pure.mp yielded
    exact ⟨earlier, later, value, rfl, given, continued⟩
  · rintro ⟨earlier, later, value, rfl, given, continued⟩
    exact ⟨earlier, later, .ok value, rfl, Program.yields_bind_pure.mpr ⟨value, given, rfl⟩,
      continued⟩

theorem yields_call_bind {request : Call} {refused : DirectoryError → Program ServiceError}
    {next : request.Reply → Attempt Result} {history : List Exchange}
    {outcome : Except ServiceError Result} :
    (call request refused >>= next).run.Yields history outcome ↔
      (∃ reply later, history = ⟨request, .ok reply⟩ :: later ∧
          (next reply).run.Yields later outcome) ∨
        ∃ failure later error, history = ⟨request, .error failure⟩ :: later ∧
          (refused failure).Yields later error ∧ outcome = .error error := by
  rw [ExceptT.run_bind, Program.yields_bind]
  constructor
  · rintro ⟨_, later, between, rfl, yielded, continued⟩
    obtain ⟨answer, own, rfl, ended⟩ := Program.yields_call_bind.mp yielded
    cases answer with
    | ok reply =>
        obtain ⟨rfl, rfl⟩ := Program.yields_pure.mp ended
        exact .inl ⟨reply, later, rfl, continued⟩
    | error failure =>
        obtain ⟨error, turned, rfl⟩ := Program.yields_bind_pure.mp ended
        obtain ⟨rfl, rfl⟩ := Program.yields_pure.mp continued
        exact .inr ⟨failure, own, error, by rw [List.append_nil], turned, rfl⟩
  · rintro (⟨reply, later, rfl, continued⟩ | ⟨failure, later, error, rfl, turned, rfl⟩)
    · exact ⟨[_], later, .ok reply, rfl,
        Program.yields_call_bind.mpr ⟨.ok reply, [], rfl, Program.yields_pure.mpr ⟨rfl, rfl⟩⟩,
        continued⟩
    · exact ⟨_ :: later, [], .error error, (List.append_nil _).symm,
        Program.yields_call_bind.mpr ⟨.error failure, later, rfl,
          Program.yields_bind_pure.mpr ⟨error, turned, rfl⟩⟩,
        Program.yields_pure.mpr ⟨rfl, rfl⟩⟩

end Attempt

end TeacherDirectory
