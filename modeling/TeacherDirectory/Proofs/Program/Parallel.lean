import TeacherDirectory.Proofs.Directory.Encodings
import TeacherDirectory.Proofs.Metrics
import TeacherDirectory.Proofs.Program.Composition

/-!
# Runs side by side

Two runs are compared step by step: at each place both perform effects that are alike, and as long
as the answers to these are alike too, the runs go on together and end alike. What counts as alike
is a parameter. Two programs that stand in this relation cannot be told apart by what their runs show,
up to this likeness; only the answers can, and those are given.
-/

namespace TeacherDirectory

set_option autoImplicit false

/-- Two lists agree as far as both of them go. -/
def Concur {Item : Type} (alike : Item → Item → Prop) (items others : List Item) : Prop :=
  ∀ pair ∈ items.zip others, alike pair.1 pair.2

theorem concur_cons {Item : Type} {alike : Item → Item → Prop} {item other : Item}
    {items others : List Item} :
    Concur alike (item :: items) (other :: others) ↔ alike item other ∧ Concur alike items others :=
  List.forall_mem_cons

theorem concur_always {Item : Type} {alike : Item → Item → Prop}
    (all : ∀ item other, alike item other) (items others : List Item) :
    Concur alike items others :=
  fun pair _ => all pair.1 pair.2

theorem map_alike {Item Image : Type} {alike : Item → Item → Prop} {read : Item → Image}
    (same : ∀ item other, alike item other → read item = read other) {items others : List Item}
    (all : List.Forall₂ alike items others) : items.map read = others.map read := by
  rw [← List.forall₂_eq_eq_eq, List.forall₂_map_left_iff, List.forall₂_map_right_iff]
  exact all.imp same

def told (steps : List Step) : List DirectoryAnswer :=
  (exchanges steps).map fun exchange => exchange.request.told exchange.answer

def Step.receipt? : Step → Option (Except PublishError Unit)
  | ⟨.publish _, answer⟩ => some answer
  | _ => none

def receipts (steps : List Step) : List (Except PublishError Unit) := steps.filterMap Step.receipt?

def Step.drawn? : Step → Option Draws
  | ⟨.draw, draws⟩ => some draws
  | _ => none

def drawn (steps : List Step) : List Draws := steps.filterMap Step.drawn?

/-- Two traces that log, count, hand over and wait for the same, in the same order, so that any
recorder shows the same after them. -/
structure SameReport (steps others : List Step) : Prop where
  logs : logs steps = logs others
  counters : counters steps = counters others
  metrics : ∀ recorder : Recorder, recorder.observe steps = recorder.observe others
  events : events steps = events others
  waits : waits steps = waits others

/-- Which calls, answers of the directory and draws of two runs count as alike. Answers that do are
read in the same way. -/
structure Likeness where
  calls : Call → Call → Prop
  answers : DirectoryAnswer → DirectoryAnswer → Prop
  draws : Draws → Draws → Prop
  readable : ∀ {answer other : DirectoryAnswer}, answers answer other → answer.Alike other

namespace Likeness

variable {likeness : Likeness}

inductive Beside (likeness : Likeness) : Effect → Effect → Prop
  | same (effect : Effect) : Beside likeness effect effect
  | call {request other : Call} (alike : likeness.calls request other) :
      Beside likeness (.call request) (.call other)

def Answered (likeness : Likeness) : Step → Step → Prop
  | ⟨.call request, answer⟩, ⟨.call other, answer'⟩ =>
      likeness.answers (request.told answer) (other.told answer')
  | ⟨.publish _, answer⟩, ⟨.publish _, answer'⟩ => answer = answer'
  | ⟨.draw, draws⟩, ⟨.draw, draws'⟩ => likeness.draws draws draws'
  | _, _ => True

/-- All that the world tells in two traces is alike, as far as both go. -/
structure AnsweredAlike (likeness : Likeness) (steps others : List Step) : Prop where
  told : Concur likeness.answers (told steps) (told others)
  receipts : Concur Eq (receipts steps) (receipts others)
  drawn : Concur likeness.draws (drawn steps) (drawn others)

theorem answered_cons {effect other : Effect} {answer : effect.Answer} {answer' : other.Answer}
    {steps others : List Step} (beside : likeness.Beside effect other) :
    likeness.AnsweredAlike (⟨effect, answer⟩ :: steps) (⟨other, answer'⟩ :: others) ↔
      likeness.Answered ⟨effect, answer⟩ ⟨other, answer'⟩ ∧
        likeness.AnsweredAlike steps others := by
  constructor
  · rintro ⟨told, receipts, drawn⟩
    cases beside with
    | call calls =>
        obtain ⟨first, told⟩ := concur_cons.mp told
        exact ⟨first, told, receipts, drawn⟩
    | same =>
        cases effect with
        | call request =>
            obtain ⟨first, told⟩ := concur_cons.mp told
            exact ⟨first, told, receipts, drawn⟩
        | publish event =>
            obtain ⟨first, receipts⟩ := concur_cons.mp receipts
            exact ⟨first, told, receipts, drawn⟩
        | draw =>
            obtain ⟨first, drawn⟩ := concur_cons.mp drawn
            exact ⟨first, told, receipts, drawn⟩
        | _ => exact ⟨trivial, told, receipts, drawn⟩
  · rintro ⟨first, told, receipts, drawn⟩
    cases beside with
    | call calls => exact ⟨concur_cons.mpr ⟨first, told⟩, receipts, drawn⟩
    | same =>
        cases effect with
        | call request => exact ⟨concur_cons.mpr ⟨first, told⟩, receipts, drawn⟩
        | publish event => exact ⟨told, concur_cons.mpr ⟨first, receipts⟩, drawn⟩
        | draw => exact ⟨told, receipts, concur_cons.mpr ⟨first, drawn⟩⟩
        | _ => exact ⟨told, receipts, drawn⟩

theorem read_alike {Item : Type} {read : Step → Option Item}
    (blind : ∀ {effect other : Effect} (answer : effect.Answer) (answer' : other.Answer),
      likeness.Beside effect other → read ⟨effect, answer⟩ = read ⟨other, answer'⟩)
    {steps others : List Step}
    (effects : List.Forall₂ likeness.Beside (steps.map Step.effect) (others.map Step.effect)) :
    steps.filterMap read = others.filterMap read := by
  rw [List.forall₂_map_left_iff, List.forall₂_map_right_iff] at effects
  induction effects with
  | nil => rfl
  | @cons step other steps others beside _ induction =>
      rw [List.filterMap_cons, List.filterMap_cons, blind step.answer other.answer beside,
        induction]

theorem same_report {steps others : List Step}
    (effects : List.Forall₂ likeness.Beside (steps.map Step.effect) (others.map Step.effect)) :
    SameReport steps others := by
  have counted : counters steps = counters others :=
    read_alike (fun _ _ beside => by cases beside <;> rfl) effects
  exact
    { logs := read_alike (fun _ _ beside => by cases beside <;> rfl) effects
      counters := counted
      metrics := fun recorder => congrArg (List.foldl Recorder.count recorder) counted
      events := read_alike (fun _ _ beside => by cases beside <;> rfl) effects
      waits := read_alike (fun _ _ beside => by cases beside <;> rfl) effects }

end Likeness

namespace Program

variable {likeness : Likeness} {First First' Second Second' : Type}

/-- Answered alike, the two programs perform effects that are alike, and their results satisfy a
relation. -/
def Parallel (likeness : Likeness) (post : First → Second → Prop) :
    Program First → Program Second → Prop
  | done value, done other => post value other
  | perform effect next, perform other following =>
      likeness.Beside effect other ∧
        ∀ answer answer', likeness.Answered ⟨effect, answer⟩ ⟨other, answer'⟩ →
          (next answer).Parallel likeness post (following answer')
  | _, _ => False

theorem Parallel.traced {post : First → Second → Prop} {program : Program First}
    {beside : Program Second} (parallel : program.Parallel likeness post beside)
    {steps others : List Step} {result : First} {other : Second}
    (taken : program.Takes steps result) (taken' : beside.Takes others other)
    (alike : likeness.AnsweredAlike steps others) :
    List.Forall₂ likeness.Beside (steps.map Step.effect) (others.map Step.effect) ∧
      post result other := by
  -- The second program has the shape of the first one at every step, or they are not parallel.
  induction program generalizing beside steps others with
  | done value =>
      cases beside with
      | done value' =>
          rcases taken with ⟨rfl, rfl⟩
          rcases taken' with ⟨rfl, rfl⟩
          exact ⟨.nil, parallel⟩
      | perform effect' next' => exact parallel.elim
  | perform effect next induction =>
      cases beside with
      | done value' => exact parallel.elim
      | perform effect' next' =>
          rcases taken with ⟨answer, rest, rfl, continued⟩
          rcases taken' with ⟨answer', rest', rfl, continued'⟩
          obtain ⟨answered, later⟩ := (Likeness.answered_cons parallel.1).mp alike
          obtain ⟨effects, ended⟩ :=
            induction answer (parallel.2 answer answer' answered) continued continued' later
          exact ⟨.cons parallel.1 effects, ended⟩

/-- From related states two worlds answer effects that are alike in like ways, and come to related
states. -/
def Mirrors {State Other : Type} (likeness : Likeness) (related : State → Other → Prop)
    (world : World State) (replaced : World Other) : Prop :=
  ∀ ⦃state : State⦄ ⦃other : Other⦄, related state other → ∀ ⦃effect effect' : Effect⦄,
    likeness.Beside effect effect' →
      likeness.Answered ⟨effect, (world.answer effect state).1⟩
          ⟨effect', (replaced.answer effect' other).1⟩ ∧
        related (world.answer effect state).2 (replaced.answer effect' other).2

theorem Parallel.answered {State Other : Type} {related : State → Other → Prop}
    {world : World State} {replaced : World Other}
    (mirrors : Mirrors likeness related world replaced) {post : First → Second → Prop}
    {program : Program First} {beside : Program Second}
    (parallel : program.Parallel likeness post beside) {state : State} {other : Other}
    (start : related state other) :
    likeness.AnsweredAlike (program.run world state).steps (beside.run replaced other).steps := by
  induction program generalizing beside state other with
  | done value =>
      cases beside with
      | done value' => exact ⟨List.forall_mem_nil _, List.forall_mem_nil _, List.forall_mem_nil _⟩
      | perform effect' next' => exact parallel.elim
  | perform effect next induction =>
      cases beside with
      | done value' => exact parallel.elim
      | perform effect' next' =>
          obtain ⟨answered, after⟩ := mirrors start parallel.1
          exact (Likeness.answered_cons parallel.1).mpr
            ⟨answered, induction _ (parallel.2 _ _ answered) after⟩

theorem Parallel.weaken {post wider : First → Second → Prop} {program : Program First}
    {beside : Program Second} (parallel : program.Parallel likeness post beside)
    (implies : ∀ value other, post value other → wider value other) :
    program.Parallel likeness wider beside := by
  induction program generalizing beside with
  | done value =>
      cases beside with
      | done value' => exact implies _ _ parallel
      | perform effect' next' => exact parallel
  | perform effect next induction =>
      cases beside with
      | done value' => exact parallel
      | perform effect' next' =>
          exact ⟨parallel.1, fun answer answer' answered =>
            induction answer (parallel.2 answer answer' answered)⟩

theorem parallel_ask {effect : Effect} {post : effect.Answer → effect.Answer → Prop}
    (each : ∀ answer answer', likeness.Answered ⟨effect, answer⟩ ⟨effect, answer'⟩ →
      post answer answer') :
    (ask effect).Parallel likeness post (ask effect) :=
  ⟨.same effect, each⟩

theorem parallel_bind {between : First → First' → Prop} {post : Second → Second' → Prop}
    {first : Program First} {other : Program First'} {next : First → Program Second}
    {following : First' → Program Second'} (earlier : first.Parallel likeness between other)
    (later : ∀ value value', between value value' →
      (next value).Parallel likeness post (following value')) :
    (first >>= next).Parallel likeness post (other >>= following) := by
  change (first.bind next).Parallel likeness post (other.bind following)
  induction first generalizing other with
  | done value =>
      cases other with
      | done value' => exact later _ _ earlier
      | perform effect' rest' => exact earlier.elim
  | perform effect rest induction =>
      cases other with
      | done value' => exact earlier.elim
      | perform effect' rest' =>
          exact ⟨earlier.1, fun answer answer' answered =>
            induction answer (earlier.2 answer answer' answered)⟩

theorem parallel_congruent (likeness : Likeness) :
    Congruent fun _ program other => program.Parallel likeness Eq other where
  done _ := rfl
  sequence earlier later := parallel_bind earlier fun value _ same => same ▸ later value

theorem parallel_log {level : LogLevel} {message : String} {fields : List (String × String)} :
    (log level message fields).Parallel likeness Eq (log level message fields) :=
  parallel_ask fun _ _ _ => rfl

theorem parallel_count {counter : Counter} :
    (count counter).Parallel likeness Eq (count counter) :=
  parallel_ask fun _ _ _ => rfl

theorem parallel_call {request other : Call} {post : First → Second → Prop}
    {next : request.Answer → Program First} {following : other.Answer → Program Second}
    (beside : likeness.Beside (.call request) (.call other))
    (replied : ∀ reply reply',
      likeness.answers (request.told (.ok reply)) (other.told (.ok reply')) →
        (next (.ok reply)).Parallel likeness post (following (.ok reply')))
    (failed : ∀ failure, (next (.error failure)).Parallel likeness post
      (following (.error failure))) :
    (call request >>= next).Parallel likeness post (call other >>= following) := by
  refine ⟨beside, fun answer answer' answered => ?_⟩
  have alike := likeness.readable answered
  -- One of the calls failing alone is out of the question, for no likeness reads that as the same.
  cases answer with
  | ok reply =>
      cases answer' with
      | ok reply' => exact replied reply reply' answered
      | error failure' =>
          rw [Call.told_failure] at alike
          exact ((DirectoryAnswer.carried_out_unlike_failed _ _ _).1 alike).elim
  | error failure =>
      rw [Call.told_failure] at alike
      cases answer' with
      | ok reply' => exact ((DirectoryAnswer.carried_out_unlike_failed _ _ _).2 alike).elim
      | error failure' =>
          rw [Call.told_failure] at alike
          obtain rfl : failure = failure' := alike
          exact failed failure

end Program

namespace Attempt

variable {likeness : Likeness} {First First' Second Second' : Type}

inductive EndAlike (good : First → Second → Prop) :
    Except ServiceError First → Except ServiceError Second → Prop
  | ok {value : First} {other : Second} (related : good value other) :
      EndAlike good (.ok value) (.ok other)
  | error (failure : ServiceError) : EndAlike good (.error failure) (.error failure)

theorem end_alike_eq {outcome other : Except ServiceError First} :
    EndAlike Eq outcome other ↔ outcome = other := by
  constructor
  · rintro (same | failure)
    · exact congrArg Except.ok same
    · rfl
  · intro same
    subst same
    cases outcome with
    | ok value => exact .ok rfl
    | error failure => exact .error failure

/-- Answered alike, the two attempts perform effects that are alike and succeed with values that are
related or fail with the same error. -/
def Parallel (likeness : Likeness) (good : First → Second → Prop) (attempt : Attempt First)
    (other : Attempt Second) : Prop :=
  Program.Parallel likeness (EndAlike good) attempt.run other.run

theorem parallel_eq {attempt other : Attempt First} :
    attempt.Parallel likeness Eq other ↔ attempt.run.Parallel likeness Eq other.run :=
  ⟨fun parallel => parallel.weaken fun _ _ => end_alike_eq.mp,
    fun parallel => parallel.weaken fun _ _ => end_alike_eq.mpr⟩

theorem parallel_pure {good : First → Second → Prop} {value : First} {other : Second}
    (related : good value other) :
    (pure value : Attempt First).Parallel likeness good (pure other) :=
  .ok related

theorem parallel_lift {good : First → Second → Prop} {program : Program First}
    {other : Program Second} (parallel : program.Parallel likeness good other) :
    (liftM program : Attempt First).Parallel likeness good (liftM other) :=
  Program.parallel_bind parallel fun _ _ related => .ok related

theorem parallel_bind {between : First → First' → Prop} {good : Second → Second' → Prop}
    {first : Attempt First} {other : Attempt First'} {next : First → Attempt Second}
    {following : First' → Attempt Second'} (earlier : first.Parallel likeness between other)
    (later : ∀ value value', between value value' →
      (next value).Parallel likeness good (following value')) :
    (first >>= next).Parallel likeness good (other >>= following) := by
  refine Program.parallel_bind earlier fun outcome outcome' ended => ?_
  cases ended with
  | ok related => exact later _ _ related
  | error failure => exact .error failure

theorem parallel_log {level : LogLevel} {message : String} {fields : List (String × String)} :
    (liftM (Program.log level message fields) : Attempt Unit).Parallel likeness Eq
      (liftM (Program.log level message fields)) :=
  parallel_lift Program.parallel_log

theorem parallel_refuse {good : First → Second → Prop} {message : String} {failure : ServiceError} :
    (refuse message failure : Attempt First).Parallel likeness good
      (refuse message failure : Attempt Second) :=
  parallel_bind parallel_log fun _ _ _ => .error failure

theorem parallel_call {request other : Call} {good : request.Reply → other.Reply → Prop}
    {refused : DirectoryError → Program ServiceError}
    (beside : likeness.Beside (.call request) (.call other))
    (replied : ∀ reply reply',
      likeness.answers (request.told (.ok reply)) (other.told (.ok reply')) →
        good reply reply')
    (failed : ∀ failure, (refused failure).Parallel likeness Eq (refused failure)) :
    @Parallel request.Reply other.Reply likeness good (call request refused)
      (call other refused) := by
  refine Program.parallel_call beside
    (fun reply reply' answered => .ok (replied reply reply' answered)) fun failure => ?_
  refine Program.parallel_bind (failed failure) fun reason _ same => ?_
  exact same ▸ .error reason

end Attempt

namespace RetryPolicy

variable {likeness : Likeness} {First Second : Type}

/-- Attempts side by side are repeated side by side: they fail together, and after a failure both
runs count, log and wait in the same way. -/
theorem parallel_retry {policy : RetryPolicy} {operation : String} {good : First → Second → Prop}
    {once : Nat → Attempt First} {other : Nat → Attempt Second}
    (each : ∀ number, (once number).Parallel likeness good (other number)) :
    (policy.retry operation once).Parallel likeness good (policy.retry operation other) := by
  have attempted (attempt : UInt32) :
      (attemptOnce operation (once attempt.toNat) attempt).Parallel likeness (Attempt.EndAlike good)
        (attemptOnce operation (other attempt.toNat) attempt) := by
    refine Program.parallel_bind (each _) fun outcome outcome' ended => ?_
    cases ended with
    | ok related => exact Program.parallel_bind Program.parallel_count fun _ _ _ => .ok related
    | error failure =>
        exact Program.parallel_bind Program.parallel_count fun _ _ _ =>
          Program.parallel_bind Program.parallel_log fun _ _ _ => .error failure
  have paused (attempt : UInt32) :
      (policy.pause attempt).Parallel likeness Eq (policy.pause attempt) := by
    simp only [pause]
    split
    · exact rfl
    · exact Program.parallel_ask fun _ _ _ => rfl
  change (policy.retryFrom operation once 0 policy.maxRetries.toNat).Parallel likeness
    (Attempt.EndAlike good) (policy.retryFrom operation other 0 policy.maxRetries.toNat)
  generalize (0 : UInt32) = attempt
  generalize policy.maxRetries.toNat = left
  -- Both runs have as many retries left, since they fail together.
  induction left generalizing attempt with
  | zero =>
      refine Program.parallel_bind (attempted attempt) fun outcome outcome' ended => ?_
      cases ended with
      | ok related => exact .ok related
      | error failure =>
          exact Program.parallel_bind Program.parallel_count fun _ _ _ => .error failure
  | succ left induction =>
      refine Program.parallel_bind (attempted attempt) fun outcome outcome' ended => ?_
      cases ended with
      | ok related => exact .ok related
      | error failure => exact Program.parallel_bind (paused attempt) fun _ _ _ => induction _

end RetryPolicy

end TeacherDirectory
