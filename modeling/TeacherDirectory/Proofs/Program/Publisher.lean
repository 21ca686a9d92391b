import TeacherDirectory.Proofs.Program.Effects

/-!
# Publishers beside a directory

A publisher takes events and may refuse them; it has a state of its own and none of the directory's. A
program that is told of a refusal can act on it. One that does not agrees with itself whatever the
publisher is: it gives the same result and makes the same calls, hands over the same events and leaves
the directory in the same state. This goes over to sequences, so only what hands an event over needs to
be looked at.
-/

namespace TeacherDirectory

set_option autoImplicit false

structure Publisher (Held : Type) where
  answer : PersonEvent → Held → Except PublishError Unit × Held

namespace World

variable {State Held : Type}

/-- The world with a publisher in it. Log lines go to neither of the two. -/
def announcing (world : World State) (publisher : Publisher Held) : World (State × Held) where
  answer
    | .log _, state => ((), state)
    | .publish event, state =>
        let (answer, held) := publisher.answer event state.2
        (answer, state.1, held)
    | effect, state =>
        let (answer, after) := world.answer effect state.1
        (answer, after, state.2)

end World

namespace Effect

def Unannounced : Effect → Prop
  | publish _ => False
  | _ => True

end Effect

namespace Program

variable {State First Second Result : Type}

/-- Two runs that cannot be told apart without a look at the publisher. -/
structure Alike {Held Other : Type} (run : Run (State × Held) Result)
    (other : Run (State × Other) Result) : Prop where
  result : run.result = other.result
  calls : exchanges run.steps = exchanges other.steps
  handedOver : events run.steps = events other.steps
  directory : run.state.1 = other.state.1

/-- Whatever the publishers are, the runs from one state of the directory are alike. -/
def Agrees (world : World State) (program : Program Result) : Prop :=
  ∀ ⦃Held Other : Type⦄ (publisher : Publisher Held) (replaced : Publisher Other) (state : State)
    (held : Held) (other : Other),
    Alike (program.run (world.announcing publisher) (state, held))
      (program.run (world.announcing replaced) (state, other))

variable {world : World State}

theorem agrees_compositional : Compositional fun _ program => program.Agrees world where
  done value _ _ _ _ _ _ _ := ⟨rfl, rfl, rfl, rfl⟩
  sequence {_ _ first next} earlier later _ _ publisher replaced state held other := by
    have same := earlier publisher replaced state held other
    rw [run_bind, run_bind]
    dsimp only
    generalize first.run (world.announcing publisher) (state, held) = before at same
    generalize first.run (world.announcing replaced) (state, other) = before' at same
    rcases before with ⟨steps, value, between, kept⟩
    rcases before' with ⟨steps', value', between', kept'⟩
    obtain ⟨rfl, calls, handedOver, rfl⟩ := same
    have rest := later value publisher replaced between kept kept'
    refine ⟨rest.result, ?_, ?_, rest.directory⟩
    · rw [exchanges_append, exchanges_append, rest.calls]
      exact congrArg (· ++ _) calls
    · rw [events_append, events_append, rest.handedOver]
      exact congrArg (· ++ _) handedOver

/-- Only one who hands an event over learns of a publisher. -/
theorem unannounced_agrees {effect : Effect} (unannounced : effect.Unannounced) :
    (ask effect).Agrees world := by
  intro Held Other publisher replaced state held other
  cases effect with
  | publish event => exact unannounced.elim
  | _ => exact ⟨rfl, rfl, rfl, rfl⟩

theorem Performs.agrees {program : Program Result} (performs : program.Performs Effect.Unannounced) :
    program.Agrees world := by
  induction program with
  | done value => exact agrees_compositional.done value
  | perform effect next induction =>
      exact agrees_compositional.sequence (unannounced_agrees performs.1)
        fun answer => induction answer (performs.2 answer)

end Program

end TeacherDirectory
