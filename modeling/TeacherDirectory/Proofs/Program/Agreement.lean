import TeacherDirectory.Proofs.Program.Composition

/-!
# Programs that agree until an answer parts them

Two programs may differ in what they do after certain answers and in nothing else. As long as no such
answer is given they cannot be told apart: a trace of one of them is a trace of the other, and in one
world both have the same run. Sequences of such programs are such programs again.
-/

namespace TeacherDirectory

set_option autoImplicit false

namespace Program

variable {First Second Result : Type} {parting : Step → Prop}

/-- The programs have the same effects in the same order up to a step that parts them. -/
def SameUntil (parting : Step → Prop) : Program Result → Program Result → Prop
  | done value, other => other = done value
  | perform effect next, other =>
      ∃ following, other = perform effect following ∧
        ∀ answer, ¬parting ⟨effect, answer⟩ →
          (next answer).SameUntil parting (following answer)

theorem same_until_self (program : Program Result) : program.SameUntil parting program := by
  induction program with
  | done value => rfl
  | perform effect next induction => exact ⟨next, rfl, fun answer _ => induction answer⟩

theorem same_until_bind {first other : Program First} {next following : First → Program Second}
    (earlier : first.SameUntil parting other)
    (later : ∀ value, (next value).SameUntil parting (following value)) :
    (first >>= next).SameUntil parting (other >>= following) := by
  change (first.bind next).SameUntil parting (other.bind following)
  induction first generalizing other with
  | done value =>
      obtain rfl : other = done value := earlier
      exact later value
  | perform effect rest induction =>
      rcases earlier with ⟨continued, rfl, same⟩
      refine ⟨fun answer => (continued answer).bind following, rfl, ?_⟩
      intro answer together
      exact induction answer (same answer together)

theorem same_until_congruent (parting : Step → Prop) :
    Congruent fun _ program other => program.SameUntil parting other where
  done _ := rfl
  sequence := same_until_bind

theorem SameUntil.takes {program other : Program Result} (same : program.SameUntil parting other)
    {steps : List Step} {result : Result} (taken : program.Takes steps result)
    (together : ∀ step ∈ steps, ¬parting step) : other.Takes steps result := by
  induction program generalizing other steps with
  | done value =>
      obtain rfl : other = done value := same
      exact taken
  | perform effect next induction =>
      rcases same with ⟨following, rfl, agree⟩
      rcases taken with ⟨answer, rest, rfl, continued⟩
      rcases List.forall_mem_cons.mp together with ⟨first, later⟩
      exact ⟨answer, rest, rfl, induction answer (agree answer first) continued later⟩

theorem SameUntil.run {State : Type} {program other : Program Result}
    (same : program.SameUntil parting other) (world : World State) (state : State)
    (together : ∀ step ∈ (program.run world state).steps, ¬parting step) :
    other.run world state = program.run world state := by
  induction program generalizing other state with
  | done value =>
      obtain rfl : other = done value := same
      rfl
  | perform effect next induction =>
      rcases same with ⟨following, rfl, agree⟩
      rcases List.forall_mem_cons.mp together with ⟨first, later⟩
      have rest := induction _ (agree _ first) (world.answer effect state).2 later
      simp only [Program.run, rest]

end Program

end TeacherDirectory
