import TeacherDirectory.Directory.Call
import TeacherDirectory.Log
import TeacherDirectory.Metrics
import TeacherDirectory.PersonEvent
import TeacherDirectory.Time

/-!
# Programs over a directory

A program is a tree: it is done with a result, or it performs an effect and goes on with the answer.
A world answers effects from a state. Running a program in a world gives its result, the final
state and the steps taken, each an effect with its answer; calls, log events, counters, waits and
published events of a run are read off its steps. A world may answer in any way, so what holds in
every world holds whatever the directory does.
-/

namespace TeacherDirectory

set_option autoImplicit false

/-- Twelve draws of one of sixty-two letters. -/
abbrev Draws := Vector (Fin 62) 12

inductive PublishError
  | serialization (reason : String)
  deriving DecidableEq

def PublishError.message : PublishError → String
  | serialization reason => s!"cannot serialize event: {reason}"

inductive Effect
  | call (call : Call)
  | log (event : LogEvent)
  | count (counter : Counter)
  | wait (span : Span)
  | publish (event : PersonEvent)
  | draw

abbrev Effect.Answer : Effect → Type
  | call request => request.Answer
  | publish _ => Except PublishError Unit
  | draw => Draws
  | _ => Unit

inductive Program (Result : Type)
  | done (result : Result)
  | perform (effect : Effect) (next : effect.Answer → Program Result)

structure Step where
  effect : Effect
  answer : effect.Answer

structure World (State : Type) where
  answer : (effect : Effect) → State → effect.Answer × State

structure Run (State Result : Type) where
  steps : List Step
  result : Result
  state : State

namespace Program

def bind {First Second : Type} :
    Program First → (First → Program Second) → Program Second
  | done result, next => next result
  | perform effect rest, next => perform effect fun answer => (rest answer).bind next

instance : Monad Program where
  pure := done
  bind := bind

def ask (effect : Effect) : Program effect.Answer := perform effect done

def call (request : Call) : Program request.Answer := ask (.call request)

def log (level : LogLevel) (message : String) (fields : List (String × String)) : Program Unit :=
  ask (.log ⟨level, message, fields⟩)

def count (counter : Counter) : Program Unit := ask (.count counter)

def wait (span : Span) : Program Unit := ask (.wait span)

def publish (event : PersonEvent) : Program (Except PublishError Unit) := ask (.publish event)

def draw : Program Draws := ask .draw

def run {State Result : Type} (world : World State) :
    Program Result → State → Run State Result
  | done result, state => ⟨[], result, state⟩
  | perform effect next, state =>
      let (answer, after) := world.answer effect state
      let rest := (next answer).run world after
      { rest with steps := ⟨effect, answer⟩ :: rest.steps }

/-- Runs a program for as long as the state allows it; the effect that ends the run is answered,
and nothing follows it. -/
def runWhile {State Result : Type} (world : World State) (allowed : State → Bool) :
    Program Result → State → Run State (Option Result)
  | done result, state => ⟨[], some result, state⟩
  | perform effect next, state =>
      let (answer, after) := world.answer effect state
      if allowed after then
        let rest := (next answer).runWhile world allowed after
        { rest with steps := ⟨effect, answer⟩ :: rest.steps }
      else ⟨[⟨effect, answer⟩], none, after⟩

end Program

namespace Step

def call? (step : Step) : Option Call :=
  match step.effect with
  | .call request => some request
  | _ => none

def log? (step : Step) : Option LogEvent :=
  match step.effect with
  | .log event => some event
  | _ => none

def event? (step : Step) : Option PersonEvent :=
  match step.effect with
  | .publish event => some event
  | _ => none

def counter? (step : Step) : Option Counter :=
  match step.effect with
  | .count counter => some counter
  | _ => none

end Step

def Recorder.observe (recorder : Recorder) (steps : List Step) : Recorder :=
  (steps.filterMap Step.counter?).foldl Recorder.count recorder

end TeacherDirectory
