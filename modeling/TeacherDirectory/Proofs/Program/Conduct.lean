import TeacherDirectory.Proofs.Metrics
import TeacherDirectory.Proofs.Program.Effects

/-!
# Conduct of programs

Which call a program may make can depend on the calls before it and on their answers. A conduct says
so, and a program keeps to it if it makes no other call, whatever it is answered; besides calls it
may log and draw. The rules go through a program in the order of its steps, with the calls made so
far at hand, so that a call is judged where it stands.
-/

namespace TeacherDirectory

set_option autoImplicit false

/-- The calls that are allowed after some calls were answered. -/
abbrev Conduct := List Exchange → Call → Prop

namespace Conduct

variable {conduct wider : Conduct} {earlier first second : List Exchange}

def unconditional : Conduct := fun _ _ => True

def Admits (conduct : Conduct) : List Exchange → List Exchange → Prop
  | _, [] => True
  | earlier, exchange :: rest =>
      conduct earlier exchange.request ∧ conduct.Admits (earlier ++ [exchange]) rest

theorem admits_append :
    conduct.Admits earlier (first ++ second) ↔
      conduct.Admits earlier first ∧ conduct.Admits (earlier ++ first) second := by
  induction first generalizing earlier with
  | nil => simp [Admits]
  | cons exchange rest induction => simp [Admits, induction, and_assoc]

theorem Admits.before {before after : List Exchange} {exchange : Exchange}
    (admits : conduct.Admits earlier (before ++ exchange :: after)) :
    conduct (earlier ++ before) exchange.request :=
  (admits_append.mp admits).2.1

theorem Admits.weaken {history : List Exchange} (admits : conduct.Admits earlier history)
    (implies : ∀ before request, conduct before request → wider before request) :
    wider.Admits earlier history := by
  induction history generalizing earlier with
  | nil => trivial
  | cons exchange rest induction =>
      exact ⟨implies _ _ admits.1, induction admits.2⟩

theorem Admits.each {history : List Exchange} {calls : Call → Prop}
    (admits : conduct.Admits earlier history)
    (implies : ∀ before request, conduct before request → calls request) :
    ∀ exchange ∈ history, calls exchange.request := by
  induction history generalizing earlier with
  | nil => exact List.forall_mem_nil _
  | cons exchange rest induction =>
      exact List.forall_mem_cons.mpr ⟨implies _ _ admits.1, induction admits.2⟩

end Conduct

def Effect.Plain (calls : Call → Prop) : Effect → Prop
  | call request => calls request
  | log _ => True
  | draw => True
  | _ => False

theorem Effect.Plain.weaken {calls more : Call → Prop}
    (implies : ∀ request, calls request → more request) {effect : Effect}
    (plain : effect.Plain calls) : effect.Plain more := by
  cases effect with
  | call request => exact implies request plain
  | _ => exact plain

theorem Effect.Plain.unheard {calls : Call → Prop} {effect : Effect} (plain : effect.Plain calls)
    (answer : effect.Answer) :
    Step.counter? ⟨effect, answer⟩ = none ∧ Step.event? ⟨effect, answer⟩ = none := by
  cases effect with
  | count counter => exact plain.elim
  | publish event => exact plain.elim
  | _ => exact ⟨rfl, rfl⟩

theorem Effect.Plain.unwaited {calls : Call → Prop} {effect : Effect} (plain : effect.Plain calls)
    (answer : effect.Answer) : Step.wait? ⟨effect, answer⟩ = none := by
  cases effect with
  | wait span => exact plain.elim
  | _ => rfl

theorem Effect.Plain.admitted {conduct : Conduct} {history : List Exchange} {effect : Effect}
    (plain : effect.Plain (conduct history)) (answer : effect.Answer) :
    conduct.Admits history (Step.exchange? ⟨effect, answer⟩).toList := by
  cases effect with
  | call request => exact ⟨plain, trivial⟩
  | _ => trivial

namespace Program

variable {First Second Result : Type} {conduct : Conduct} {history : List Exchange}

/-- Whatever the answers, every call is allowed after those before it, and `post` holds of the result
and of all calls made by then. -/
def KeepsTo (conduct : Conduct) :
    Program Result → (Result → List Exchange → Prop) → List Exchange → Prop
  | done value, post, history => post value history
  | perform effect next, post, history =>
      effect.Plain (conduct history) ∧
        ∀ answer, (next answer).KeepsTo conduct post
          (history ++ (Step.exchange? ⟨effect, answer⟩).toList)

theorem keeps_pure {value : Result} {post : Result → List Exchange → Prop} :
    (pure value : Program Result).KeepsTo conduct post history ↔ post value history :=
  Iff.rfl

theorem keeps_bind {first : Program First} {next : First → Program Second}
    {post : Second → List Exchange → Prop} :
    (first >>= next).KeepsTo conduct post history ↔
      first.KeepsTo conduct (fun value between => (next value).KeepsTo conduct post between)
        history := by
  change (first.bind next).KeepsTo conduct post history ↔ _
  induction first generalizing history with
  | done value => exact Iff.rfl
  | perform effect rest induction =>
      exact and_congr_right fun _ => forall_congr' fun answer => induction answer

theorem keeps_call {request : Call} {post : request.Answer → List Exchange → Prop} :
    (call request).KeepsTo conduct post history ↔
      conduct history request ∧ ∀ answer, post answer (history ++ [⟨request, answer⟩]) :=
  Iff.rfl

theorem keeps_ask {effect : Effect} (plain : effect.Plain fun _ => False)
    {post : effect.Answer → List Exchange → Prop} :
    (ask effect).KeepsTo conduct post history ↔ ∀ answer, post answer history := by
  have allowed : effect.Plain (conduct history) := plain.weaken fun _ => False.elim
  have same (answer : effect.Answer) :
      history ++ (Step.exchange? ⟨effect, answer⟩).toList = history := by
    cases effect with
    | call request => exact plain.elim
    | _ => exact List.append_nil history
  constructor
  · intro keeps answer
    exact same answer ▸ keeps.2 answer
  · intro holds
    refine ⟨allowed, fun answer => ?_⟩
    rw [same]
    exact holds answer

theorem keeps_log {level : LogLevel} {message : String} {fields : List (String × String)}
    {post : Unit → List Exchange → Prop} :
    (log level message fields).KeepsTo conduct post history ↔ post () history :=
  (keeps_ask (show (Effect.log _).Plain _ from trivial)).trans
    ⟨fun holds => holds (), fun holds _ => holds⟩

theorem keeps_draw {post : Draws → List Exchange → Prop} :
    draw.KeepsTo conduct post history ↔ ∀ draws, post draws history :=
  keeps_ask (show Effect.draw.Plain _ from trivial)

theorem keeps_logged {level : LogLevel} {message : String} {fields : List (String × String)}
    {value : Result} {post : Result → List Exchange → Prop} :
    (do log level message fields; return value : Program Result).KeepsTo conduct post history ↔
      post value history := by
  rw [keeps_bind, keeps_log, keeps_pure]

theorem KeepsTo.weaken {program : Program Result} {post weaker : Result → List Exchange → Prop}
    (keeps : program.KeepsTo conduct post history)
    (implies : ∀ result after, post result after → weaker result after) :
    program.KeepsTo conduct weaker history := by
  induction program generalizing history with
  | done value => exact implies value history keeps
  | perform effect next induction => exact ⟨keeps.1, fun answer => induction answer (keeps.2 answer)⟩

theorem keeps_congr {program : Program Result} {post other : Result → List Exchange → Prop}
    (same : ∀ result after, post result after ↔ other result after) :
    program.KeepsTo conduct post history ↔ program.KeepsTo conduct other history :=
  ⟨fun keeps => keeps.weaken fun result after => (same result after).mp,
    fun keeps => keeps.weaken fun result after => (same result after).mpr⟩

theorem KeepsTo.traced {program : Program Result} {post : Result → List Exchange → Prop}
    (keeps : program.KeepsTo conduct post history) {steps : List Step} {result : Result}
    (taken : program.Takes steps result) :
    conduct.Admits history (exchanges steps) ∧ counters steps = [] ∧ events steps = [] ∧
      post result (history ++ exchanges steps) := by
  induction program generalizing history steps with
  | done value =>
      rcases taken with ⟨rfl, rfl⟩
      exact ⟨trivial, rfl, rfl, by rwa [exchanges_nil, List.append_nil]⟩
  | perform effect next induction =>
      rcases taken with ⟨answer, rest, rfl, continued⟩
      obtain ⟨admitted, uncounted, unheard, ended⟩ := induction answer (keeps.2 answer) continued
      obtain ⟨noCounter, noEvent⟩ := keeps.1.unheard answer
      rw [exchanges_cons, counters_cons, events_cons, uncounted, unheard, noCounter, noEvent,
        ← List.append_assoc]
      exact ⟨Conduct.admits_append.mpr ⟨keeps.1.admitted answer, admitted⟩, rfl, rfl, ended⟩

theorem KeepsTo.unwaited {program : Program Result} {post : Result → List Exchange → Prop}
    (keeps : program.KeepsTo conduct post history) {steps : List Step} {result : Result}
    (taken : program.Takes steps result) : waits steps = [] := by
  induction program generalizing history steps with
  | done value =>
      rcases taken with ⟨rfl, rfl⟩
      rfl
  | perform effect next induction =>
      rcases taken with ⟨answer, rest, rfl, continued⟩
      exact (List.filterMap_cons_none (keeps.1.unwaited answer)).trans
        (induction answer (keeps.2 answer) continued)

theorem KeepsTo.performs {program : Program Result} {post : Result → List Exchange → Prop}
    {allowed : Effect → Prop} (keeps : program.KeepsTo conduct post history)
    (implies : ∀ before effect, effect.Plain (conduct before) → allowed effect) :
    program.Performs allowed := by
  induction program generalizing history with
  | done value => trivial
  | perform effect next induction =>
      exact ⟨implies history effect keeps.1, fun answer => induction answer (keeps.2 answer)⟩

end Program

namespace Attempt

variable {First Second Result : Type} {conduct : Conduct} {history : List Exchange}
  {bad : ServiceError → List Exchange → Prop}

def KeepsTo (conduct : Conduct) (attempt : Attempt Result) (good : Result → List Exchange → Prop)
    (bad : ServiceError → List Exchange → Prop) (history : List Exchange) : Prop :=
  attempt.run.KeepsTo conduct (Ending good bad) history

theorem keeps_pure {value : Result} {good : Result → List Exchange → Prop} :
    (pure value : Attempt Result).KeepsTo conduct good bad history ↔ good value history :=
  Iff.rfl

theorem keeps_lift {program : Program Result} {good : Result → List Exchange → Prop} :
    (liftM program : Attempt Result).KeepsTo conduct good bad history ↔
      program.KeepsTo conduct good history := by
  change (program >>= fun value => pure (Except.ok value)).KeepsTo conduct _ history ↔ _
  rw [Program.keeps_bind]
  exact Iff.rfl

theorem keeps_bind {first : Attempt First} {next : First → Attempt Second}
    {good : Second → List Exchange → Prop} :
    (first >>= next).KeepsTo conduct good bad history ↔
      first.KeepsTo conduct (fun value between => (next value).KeepsTo conduct good bad between)
        bad history := by
  unfold KeepsTo
  rw [ExceptT.run_bind, Program.keeps_bind]
  apply Program.keeps_congr
  intro outcome between
  cases outcome <;> exact Iff.rfl

theorem keeps_call {request : Call} {refused : DirectoryError → Program ServiceError}
    {good : request.Reply → List Exchange → Prop} :
    @KeepsTo (no_index request.Reply) conduct (call request refused) good bad history ↔
      conduct history request ∧ (∀ reply, good reply (history ++ [⟨request, .ok reply⟩])) ∧
        ∀ failure, (refused failure).KeepsTo conduct bad
          (history ++ [⟨request, .error failure⟩]) := by
  unfold KeepsTo call
  rw [ExceptT.run_mk, Program.keeps_bind, Program.keeps_call]
  refine and_congr_right fun _ => ⟨fun each => ⟨fun reply => ?_, fun failure => ?_⟩, ?_⟩
  · exact each (.ok reply)
  · exact Program.keeps_bind.mp (each (.error failure))
  · rintro ⟨onReply, onFailure⟩ answer
    cases answer with
    | ok reply => exact onReply reply
    | error failure => exact Program.keeps_bind.mpr (onFailure failure)

theorem keeps_log {level : LogLevel} {message : String} {fields : List (String × String)}
    {good : Unit → List Exchange → Prop} :
    (liftM (Program.log level message fields) : Attempt Unit).KeepsTo conduct good bad history ↔
      good () history := by
  rw [keeps_lift, Program.keeps_log]

theorem keeps_refuse {message : String} {failure : ServiceError}
    {good : Result → List Exchange → Prop} :
    (refuse message failure : Attempt Result).KeepsTo conduct good bad history ↔
      bad failure history := by
  unfold refuse
  rw [keeps_bind, keeps_log]
  exact Iff.rfl

end Attempt

end TeacherDirectory
