import Mathlib.Data.DFinsupp.WellFounded
import Mathlib.Logic.Relation
import TeacherDirectory.Proofs.Program.Effects

/-!
# Programs that share a world

Several clients run their programs in one world, and in each turn one of them performs its next
effect. What a client ensures when anything it relies on may happen before each of its calls holds in
every interleaving, if the calls of the others do no more than that. A session of finitely many
clients is over after finitely many turns, and until then some client can take one.
-/

namespace TeacherDirectory

set_option autoImplicit false

/-- What is left of the program of each client, and the state of the world. -/
structure Session (Client State Result : Type) where
  left : Client → Program Result
  state : State

inductive Session.Turn {Client State Result : Type} [DecidableEq Client] (world : World State) :
    Session Client State Result → Session Client State Result → Prop
  | perform {session : Session Client State Result} (client : Client) (effect : Effect)
      (next : effect.Answer → Program Result)
      (waits : session.left client = .perform effect next) :
      Turn world session
        ⟨Function.update session.left client (next (world.answer effect session.state).1),
          (world.answer effect session.state).2⟩

/-- Before a call is answered, others may have changed the state in ways that are relied on. -/
def CallRule.among {State : Type} (rule : CallRule State) (rely : State → State → Prop) :
    CallRule State :=
  fun before request answer after =>
    ∃ between, rely before between ∧ rule between request answer after

section Sharing

variable {State Result : Type} {rule : CallRule State} {rely : State → State → Prop}
  {before after : State}

theorem CallRule.among_permits (refl : ∀ state, rely state state) {step : Step}
    (permitted : rule.Permits before step after) : (rule.among rely).Permits before step after := by
  rcases step with ⟨effect, answer⟩
  cases effect with
  | call request => exact ⟨before, refl before, permitted⟩
  | _ => exact permitted

theorem Program.Ensures.later {program : Program Result} {post : Result → State → Prop}
    (ensured : program.Ensures (rule.among rely) post before)
    (trans : ∀ {first second third}, rely first second → rely second third → rely first third)
    (stable : ∀ {result first second}, rely first second → post result first → post result second)
    (changed : rely before after) : program.Ensures (rule.among rely) post after := by
  induction program generalizing before after with
  | done value =>
      have ended : post value before := Program.ensures_pure.mp ensured
      exact Program.ensures_pure.mpr (stable changed ended)
  | perform effect next induction =>
      have continued (answer : effect.Answer) (between : State)
          (permitted : (rule.among rely).Permits before ⟨effect, answer⟩ between) :
          (next answer).Ensures (rule.among rely) post between :=
        fun steps result last taken follows =>
          ensured (⟨effect, answer⟩ :: steps) result last ⟨answer, steps, rfl, taken⟩
            ⟨between, permitted, follows⟩
      intro steps result last taken follows
      rcases taken with ⟨answer, rest, rfl, taken⟩
      rcases follows with ⟨between, permitted, follows⟩
      -- The change counts as one more of those before the first call; until then nothing reads it.
      cases effect with
      | call request =>
          rcases permitted with ⟨middle, relied, answered⟩
          exact continued answer between ⟨middle, trans changed relied, answered⟩ rest result last
            taken follows
      | _ =>
          obtain rfl : between = after := permitted
          exact induction answer (continued answer before rfl) changed rest result last taken follows

theorem Attempt.ensures_call_among {request : Call}
    {refused : DirectoryError → Program ServiceError} {good : request.Reply → State → Prop}
    {bad : ServiceError → State → Prop} :
    @Attempt.Ensures (no_index request.Reply) _ (rule.among rely) (Attempt.call request refused)
        good bad before ↔
      ∀ between, rely before between →
        (∀ reply after, rule between request (.ok reply) after → good reply after) ∧
          ∀ failure after, rule between request (.error failure) after →
            (refused failure).Ensures (rule.among rely) bad after := by
  rw [Attempt.ensures_call]
  constructor
  · intro given between relied
    exact ⟨fun reply after answered => given.1 reply after ⟨between, relied, answered⟩,
      fun failure after answered => given.2 failure after ⟨between, relied, answered⟩⟩
  · intro each
    refine ⟨fun reply after given => ?_, fun failure after given => ?_⟩
    · rcases given with ⟨between, relied, answered⟩
      exact (each between relied).1 reply after answered
    · rcases given with ⟨between, relied, answered⟩
      exact (each between relied).2 failure after answered

end Sharing

/-- Clients whose calls disturb no other one: each may rely on what the calls of the others do, and
what it ensures in the end stays so. -/
structure Cooperation {Client Held Result : Type} (rule : CallRule Held)
    (calls : Client → Call → Prop) (rely : Client → Held → Held → Prop)
    (post : Client → Result → Held → Prop) : Prop where
  refl : ∀ client state, rely client state state
  trans : ∀ client {first second third}, rely client first second → rely client second third →
    rely client first third
  guaranteed : ∀ {client other}, other ≠ client → ∀ {before request answer after},
    calls other request → rule before request answer after → rely client before after
  stable : ∀ client {result before after}, rely client before after → post client result before →
    post client result after

namespace Session

variable {Client State Held Result : Type} {world : World State} {rule : CallRule Held}
  {held : State → Held} {calls : Client → Call → Prop} {rely : Client → Held → Held → Prop}
  {post : Client → Result → Held → Prop} {session later : Session Client State Result}

/-- What is left of a program makes the calls of its client only, and ensures the end that is due. -/
structure Behaves (rule : CallRule Held) (held : State → Held) (calls : Client → Call → Prop)
    (rely : Client → Held → Held → Prop) (post : Client → Result → Held → Prop)
    (session : Session Client State Result) (client : Client) : Prop where
  plain : (session.left client).Performs (Effect.Only (calls client))
  ensured : (session.left client).Ensures (rule.among (rely client)) (post client)
    (held session.state)

theorem Behaves.finished {client : Client} {result : Result}
    (behaves : Behaves rule held calls rely post session client)
    (ended : session.left client = .done result) : post client result (held session.state) := by
  have ensured := behaves.ensured
  rw [ended] at ensured
  exact Program.ensures_pure.mp ensured

variable [DecidableEq Client]

/-- A turn of one client keeps what all of them have to do: its own program goes on, and the others
rely on what its call did. -/
theorem turn_behaves (obeys : world.Obeys rule held) (cooperation : Cooperation rule calls rely post)
    (turn : Turn world session later)
    (behaves : ∀ client, Behaves rule held calls rely post session client) (client : Client) :
    Behaves rule held calls rely post later client := by
  rcases turn with ⟨mover, effect, next, waits⟩
  have permitted := obeys effect session.state
  obtain ⟨plain, ensured⟩ := behaves mover
  rw [waits] at plain ensured
  by_cases own : client = mover
  · subst own
    refine ⟨?_, ?_⟩
    · dsimp only
      rw [Function.update_self]
      exact plain.2 _
    · dsimp only
      rw [Function.update_self]
      intro steps result last taken follows
      exact ensured (⟨effect, _⟩ :: steps) result last ⟨_, steps, rfl, taken⟩
        ⟨_, CallRule.among_permits (cooperation.refl client) permitted, follows⟩
  · have relied : rely client (held session.state)
        (held (world.answer effect session.state).2) := by
      cases effect with
      | call request => exact cooperation.guaranteed (Ne.symm own) plain.1 permitted
      | _ =>
          have same : held (world.answer _ session.state).2 = held session.state := permitted
          rw [same]
          exact cooperation.refl client _
    refine ⟨?_, ?_⟩
    · dsimp only
      rw [Function.update_of_ne own]
      exact (behaves client).plain
    · dsimp only
      rw [Function.update_of_ne own]
      exact (behaves client).ensured.later (cooperation.trans client) (cooperation.stable client)
        relied

theorem reachable_behaves (obeys : world.Obeys rule held)
    (cooperation : Cooperation rule calls rely post)
    (reached : Relation.ReflTransGen (Turn world) session later)
    (behaves : ∀ client, Behaves rule held calls rely post session client) :
    ∀ client, Behaves rule held calls rely post later client := by
  induction reached with
  | refl => exact behaves
  | tail _ turn induction => exact turn_behaves obeys cooperation turn induction

theorem reachable_invariant (obeys : world.Obeys rule held) {invariant : Held → Prop}
    (kept : ∀ client before request answer after, calls client request →
      rule before request answer after → invariant before → invariant after)
    (reached : Relation.ReflTransGen (Turn world) session later)
    (plain : ∀ client, (session.left client).Performs (Effect.Only (calls client)))
    (start : invariant (held session.state)) : invariant (held later.state) := by
  have both : invariant (held later.state) ∧
      ∀ client, (later.left client).Performs (Effect.Only (calls client)) := by
    induction reached with
    | refl => exact ⟨start, plain⟩
    | @tail between last _ turn induction =>
        rcases turn with ⟨mover, effect, next, waits⟩
        have permitted := obeys effect between.state
        have moving := induction.2 mover
        rw [waits] at moving
        refine ⟨?_, fun client => ?_⟩
        · cases effect with
          | call request => exact kept mover _ request _ _ moving.1 permitted induction.1
          | _ =>
              have same : held (world.answer _ between.state).2 = held between.state := permitted
              dsimp only
              rw [same]
              exact induction.1
        · dsimp only
          by_cases own : client = mover
          · subst own
            rw [Function.update_self]
            exact moving.2 _
          · rw [Function.update_of_ne own]
            exact induction.2 client
  exact both.1

theorem idle_done (idle : ∀ later, ¬Turn world session later) (client : Client) :
    ∃ result, session.left client = .done result := by
  cases waits : session.left client with
  | done result => exact ⟨result, rfl⟩
  | perform effect next => exact (idle _ (.perform client effect next waits)).elim

end Session

inductive Program.Continues {Result : Type} : Program Result → Program Result → Prop
  | answered (effect : Effect) (next : effect.Answer → Program Result) (answer : effect.Answer) :
      Continues (next answer) (.perform effect next)

theorem Program.continues_well_founded {Result : Type} :
    WellFounded (@Program.Continues Result) := by
  refine ⟨fun program => ?_⟩
  induction program with
  | done value => exact ⟨_, nofun⟩
  | perform effect next induction =>
      refine ⟨_, fun rest continues => ?_⟩
      cases continues with
      | answered _ _ answer => exact induction answer

/-- However the turns go, there are only finitely many. -/
theorem Session.turns_end {State Result : Type} {world : World State} {count : Nat}
    (sessions : Nat → Session (Fin count) State Result) :
    ¬∀ turn, Session.Turn world (sessions turn) (sessions (turn + 1)) := by
  intro turns
  have ordered : WellFounded (Pi.Lex (· < · : Fin count → Fin count → Prop)
      fun {_} => @Program.Continues Result) :=
    Pi.Lex.wellFounded _ fun _ => Program.continues_well_founded
  -- The client that moves is left with less, and the clients before it with what they had.
  have falls (turn : Nat) : Pi.Lex (· < · : Fin count → Fin count → Prop)
      (fun {_} => @Program.Continues Result) (sessions (turn + 1)).left
      (sessions turn).left := by
    have moved := turns turn
    generalize sessions (turn + 1) = later at moved
    generalize sessions turn = session at moved
    rcases moved with ⟨client, effect, next, waits⟩
    refine ⟨client, fun other below => ?_, ?_⟩
    · exact Function.update_of_ne (ne_of_lt below) _ _
    · dsimp only
      rw [Function.update_self, waits]
      exact .answered effect next _
  exact (wellFounded_iff_isEmpty_descending_chain.mp ordered).false
    ⟨fun turn => (sessions turn).left, falls⟩

end TeacherDirectory
