import TeacherDirectory.Proofs.Directory.Calls
import TeacherDirectory.Proofs.Directory.Catalogue

/-!
# A directory whose answers get lost

A call may be reported as failed although nothing stood in its way. Nobody can tell from the report
whether it was carried out. A journal is a store with the calls that were lost on the way to it, and a
rule over journals says which calls may be lost; all others are answered as the reference directory
answers them. So one rule covers a directory where any call may be lost, one that loses a single call,
and one that carries a write out and keeps silent about it.
-/

namespace TeacherDirectory

set_option autoImplicit false

/-- A call after which a name has an entry that it had not before. -/
def Call.occupies (name : String) : Call → Bool
  | .add added _ => added == name
  | .rename renamed leaf => Store.movedName renamed leaf == name
  | _ => false

namespace Store

variable {before after : Store} {request : Call} {name : String}

theorem write_keeps_free (unoccupied : request.occupies name = false)
    (written : before.write request = some after) (free : before name = none) :
    after name = none := by
  cases request with
  | add added attributes =>
      have different : name ≠ added := fun same => by simp [Call.occupies, same] at unoccupied
      rw [(write_add_iff.mp written).2, Function.update_of_ne different, free]
  | modify modified changes =>
      obtain ⟨_, stored, _, -, rfl⟩ := write_modify_iff.mp written
      have different : name ≠ modified := by
        rintro rfl
        rw [free] at stored
        cases stored
      rw [Function.update_of_ne different, free]
  | rename renamed leaf =>
      have different : name ≠ movedName renamed leaf := fun same => by
        simp [Call.occupies, same] at unoccupied
      obtain ⟨_, -, -, rfl⟩ := write_rename_iff.mp written
      rw [Function.update_of_ne different]
      by_cases same : name = renamed
      · rw [same, Function.update_self]
      · rw [Function.update_of_ne same, free]
  | delete deleted =>
      rw [(write_delete_iff.mp written).2]
      by_cases same : name = deleted
      · rw [same, Function.update_self]
      · rw [Function.update_of_ne same, free]
  | connect => exact Option.some.inj written ▸ free
  | bind admin password => exact Option.some.inj written ▸ free
  | search base scope filter names => exact Option.some.inj written ▸ free

end Store

/-- A call that was reported as failed though nothing stood in its way. -/
structure Loss where
  request : Call
  applied : Bool

namespace Loss

def wrote (loss : Loss) : Bool := loss.applied && loss.request.isWrite

def anything (_ : List Loss) (_ : Loss) : Prop := True

def once (losses : List Loss) (_ : Loss) : Prop := losses = []

/-- The answer to one call of a kind may be lost after the call was carried out. -/
def onceCarriedOut (kind : Call → Bool) (losses : List Loss) (loss : Loss) : Prop :=
  losses = [] ∧ loss.applied = true ∧ kind loss.request = true

def occupied (name : String) (loss : Loss) : Bool :=
  loss.applied && loss.request.occupies name

theorem read_not_occupied {request : Call} {name : String} (read : request.isWrite = false)
    (applied : Bool) : (Loss.mk request applied).occupied name = false := by
  have unnamed : request.occupies name = false := by
    cases request with
    | add added attributes => cases read
    | rename renamed leaf => cases read
    | _ => rfl
  exact (congrArg (applied && ·) unnamed).trans (Bool.and_false applied)

end Loss

structure Journal where
  store : Store
  losses : List Loss

namespace Journal

inductive Loses (may : List Loss → Loss → Prop) (before : Journal) (request : Call) :
    Journal → Prop
  | undone (permitted : may before.losses ⟨request, false⟩) :
      Loses may before request ⟨before.store, before.losses ++ [⟨request, false⟩]⟩
  | applied {later : Store} (permitted : may before.losses ⟨request, true⟩)
      (written : before.store.write request = some later) :
      Loses may before request ⟨later, before.losses ++ [⟨request, true⟩]⟩

/-- A call is carried out if the store admits it and refused otherwise, unless it is lost. -/
def losing (may : List Loss → Loss → Prop) : CallRule Journal := fun before request answer after =>
  match answer with
  | .ok reply => before.store.Replies request reply ∧
      before.store.write request = some after.store ∧ after.losses = before.losses
  | .error _ =>
      (before.store.write request = none ∧ after = before) ∨ before.Loses may request after

/-- A call that writes nothing was lost. -/
def Stumbles (may : List Loss → Loss → Prop) (before after : Journal) : Prop :=
  ∃ request, request.isWrite = false ∧ before.Loses may request after

variable {may : List Loss → Loss → Prop} {before after : Journal} {request : Call}

theorem losing_of_answering {store later : Store} {answer : request.Answer} (losses : List Loss)
    (answered : Store.answering False store request answer later) :
    losing may ⟨store, losses⟩ request answer ⟨later, losses⟩ := by
  cases answer with
  | ok reply => exact ⟨answered.1, answered.2, rfl⟩
  | error failure =>
      rcases answered with ⟨impossible | refused, rfl⟩
      · exact impossible.elim
      · exact .inl ⟨refused, rfl⟩

theorem Loses.recorded (loses : before.Loses may request after) :
    ∃ applied, may before.losses ⟨request, applied⟩ ∧
      after.losses = before.losses ++ [⟨request, applied⟩] := by
  cases loses with
  | undone permitted => exact ⟨false, permitted, rfl⟩
  | applied permitted written => exact ⟨true, permitted, rfl⟩

theorem not_stumbles_again (lost : before.losses ≠ []) : ¬before.Stumbles Loss.once after := by
  rintro ⟨_, -, loses⟩
  obtain ⟨_, none, -⟩ := loses.recorded
  exact lost none

theorem Loses.store_cases (loses : before.Loses may request after) :
    after.store = before.store ∨ before.store.write request = some after.store := by
  cases loses with
  | undone permitted => exact .inl rfl
  | applied permitted written => exact .inr written

theorem Stumbles.same_store (stumbles : before.Stumbles may after) : after.store = before.store := by
  rcases stumbles with ⟨request, read, loses⟩
  rcases loses.store_cases with same | written
  · exact same
  · rw [Store.write_of_read read] at written
    exact (Option.some.inj written).symm

theorem losing_losses {answer : request.Answer}
    (answered : losing may before request answer after) :
    after.losses = before.losses ∨ ∃ loss, may before.losses loss ∧
      after.losses = before.losses ++ [loss] := by
  cases answer with
  | ok reply => exact .inl answered.2.2
  | error failure =>
      rcases answered with ⟨-, rfl⟩ | loses
      · exact .inl rfl
      · obtain ⟨applied, permitted, recorded⟩ := loses.recorded
        exact .inr ⟨_, permitted, recorded⟩

theorem losing_read {answer : request.Answer} (read : request.isWrite = false)
    (answered : losing may before request answer after) : after.store = before.store := by
  cases answer with
  | ok reply =>
      have written := answered.2.1
      rw [Store.write_of_read read] at written
      exact (Option.some.inj written).symm
  | error failure =>
      rcases answered with ⟨-, rfl⟩ | loses
      · rfl
      · exact Stumbles.same_store ⟨request, read, loses⟩

theorem losing_remembers {answer : request.Answer} {loss : Loss}
    (lost : loss ∈ before.losses) (answered : losing may before request answer after) :
    loss ∈ after.losses := by
  rcases losing_losses answered with same | ⟨_, -, longer⟩
  · exact same ▸ lost
  · exact longer ▸ List.mem_append_left _ lost

theorem losing_keeps_occupied {target : String} (before : Journal) (request : Call)
    (answer : request.Answer) (after : Journal) (lost : before.losses.any (Loss.occupied target) = true)
    (answered : losing may before request answer after) :
    after.losses.any (Loss.occupied target) = true := by
  obtain ⟨loss, member, occupied⟩ := List.any_eq_true.mp lost
  exact List.any_eq_true.mpr ⟨loss, losing_remembers member answered, occupied⟩

section Calls

variable {refused : DirectoryError → Program ServiceError} {bad : ServiceError → Journal → Prop}
  {later : Store}

theorem ensures_call {post : request.Answer → Journal → Prop} :
    (Program.call request).Ensures (losing may) post before ↔
      (∀ reply later, before.store.Replies request reply →
        before.store.write request = some later → post (.ok reply) ⟨later, before.losses⟩) ∧
      (∀ failure, before.store.write request = none → post (.error failure) before) ∧
      ∀ failure after, before.Loses may request after → post (.error failure) after := by
  rw [Program.ensures_call]
  constructor
  · intro each
    refine ⟨fun reply later replied written => ?_, fun failure unwritten => ?_,
      fun failure after loses => ?_⟩
    · exact each (.ok reply) ⟨later, before.losses⟩ ⟨replied, written, rfl⟩
    · exact each (.error failure) before (.inl ⟨unwritten, rfl⟩)
    · exact each (.error failure) after (.inr loses)
  · intro given answer after answered
    rcases given with ⟨onReply, onRefusal, onLoss⟩
    cases answer with
    | ok reply =>
        rcases after with ⟨store, losses⟩
        rcases answered with ⟨replied, written, same⟩
        obtain rfl : losses = before.losses := same
        exact onReply reply store replied written
    | error failure =>
        rcases answered with ⟨unwritten, rfl⟩ | loses
        · exact onRefusal failure unwritten
        · exact onLoss failure after loses

theorem ensures_admitted {good : request.Reply → Journal → Prop}
    (written : before.store.write request = some later) :
    @Attempt.Ensures (no_index request.Reply) _ (losing may) (Attempt.call request refused) good bad
        before ↔
      (∀ reply, before.store.Replies request reply → good reply ⟨later, before.losses⟩) ∧
        ∀ failure after, before.Loses may request after →
          (refused failure).Ensures (losing may) bad after := by
  unfold Attempt.call
  rw [Attempt.ensures_mk, Program.ensures_bind, ensures_call]
  simp only [Program.ensures_bind, Program.ensures_pure, Attempt.Ending, written, reduceCtorEq,
    false_imp_iff, implies_true, true_and, Option.some.injEq]
  constructor
  · exact fun given => ⟨fun reply replied => given.1 reply later replied rfl, given.2⟩
  · exact fun given => ⟨fun reply _ replied same => same ▸ given.1 reply replied, given.2⟩

theorem ensures_unadmitted {good : request.Reply → Journal → Prop}
    (unwritten : before.store.write request = none)
    (onRefusal : ∀ failure, (refused failure).Ensures (losing may) bad before)
    (onLoss : ∀ failure after, before.Loses may request after →
      (refused failure).Ensures (losing may) bad after) :
    @Attempt.Ensures (no_index request.Reply) _ (losing may) (Attempt.call request refused) good bad
      before := by
  unfold Attempt.call
  rw [Attempt.ensures_mk, Program.ensures_bind, ensures_call]
  simp only [Program.ensures_bind, Program.ensures_pure, Attempt.Ending, unwritten, reduceCtorEq,
    false_imp_iff, implies_true, true_and]
  exact ⟨fun failure _ => onRefusal failure, onLoss⟩

theorem ensures_search {base : String} {scope : SearchScope} {filter : Filter String}
    {names : List String} {good : List Entry → Journal → Prop}
    (found : ∀ entries, before.store.Finds base scope filter names entries → good entries before)
    (onLoss : ∀ failure after, before.Stumbles may after →
      (refused failure).Ensures (losing may) bad after) :
    @Attempt.Ensures (no_index _) _ (losing may)
      (Attempt.call (.search base scope filter names) refused) good bad before := by
  have admitted : before.store.write (.search base scope filter names) = some before.store := rfl
  rw [ensures_admitted admitted]
  exact ⟨found, fun failure after loses => onLoss failure after ⟨_, rfl, loses⟩⟩

end Calls

end Journal

/-! ## A directory that keeps silent about one call -/

namespace Catalogue

open Classical in
/-- Answers a call; the first call of a kind that is carried out is reported as failed. -/
noncomputable def answerLosing (kind : Call → Bool) (request : Call)
    (state : Catalogue × List Loss) : request.Answer × (Catalogue × List Loss) :=
  let (answer, later) := state.1.answer request
  if kind request = true ∧ state.2 = [] ∧ ∃ reply, answer = .ok reply
  then (.error (.transport "connection reset"), later, [⟨request, true⟩])
  else (answer, later, state.2)

noncomputable def forgetful (kind : Call → Bool) : World (Catalogue × List Loss) :=
  .ofCalls (answerLosing kind)

def journal (state : Catalogue × List Loss) : Journal := ⟨state.1.store, state.2⟩

variable {kind : Call → Bool}

theorem answer_losing_permitted {may : List Loss → Loss → Prop}
    (permits : ∀ request, kind request = true → may [] ⟨request, true⟩) (request : Call)
    (state : Catalogue × List Loss) :
    Journal.losing may (journal state) request (answerLosing kind request state).1
      (journal (answerLosing kind request state).2) := by
  rcases state with ⟨catalogue, losses⟩
  have answered := @catalogue.answer_permitted request False
  unfold answerLosing
  dsimp only
  split
  case isTrue chosen =>
    rcases chosen with ⟨ofKind, rfl, reply, replied⟩
    rw [replied] at answered
    exact .inr (.applied (permits request ofKind) answered.2)
  case isFalse => exact Journal.losing_of_answering losses answered

theorem forgetful_obeys {may : List Loss → Loss → Prop}
    (permits : ∀ request, kind request = true → may [] ⟨request, true⟩) :
    (forgetful kind).Obeys (Journal.losing may) journal :=
  World.of_calls_obeys (answer_losing_permitted permits)

theorem answer_losing_cases (request : Call) (state : Catalogue × List Loss) :
    let later := (answerLosing kind request state).2
    (kind request = true ∧ later.2 = [⟨request, true⟩]) ∨
      (later.2 = state.2 ∧ (later.1.store = state.1.store ∨
        (state.1.store.write request = some later.1.store ∧
          (state.2 = [] → kind request = false)))) := by
  rcases state with ⟨catalogue, losses⟩
  have answered := @catalogue.answer_permitted request False
  unfold answerLosing
  dsimp only
  split
  case isTrue chosen => exact .inl ⟨chosen.1, rfl⟩
  case isFalse other =>
    refine .inr ⟨rfl, ?_⟩
    cases replied : (catalogue.answer request).1 with
    | ok reply =>
        rw [replied] at answered
        exact .inr ⟨answered.2, fun none =>
          Bool.eq_false_iff.mpr fun ofKind => other ⟨ofKind, none, reply, replied⟩⟩
    | error failure =>
        rw [replied] at answered
        exact .inl answered.2

/-- As long as nothing was lost no call of the kind was carried out, and one call is lost at most. -/
theorem forgetful_losses {Result : Type} {program : Program Result} {catalogue : Catalogue}
    (invariant : Store → Prop) (start : invariant catalogue.store)
    (each : ∀ store request later, kind request = false → store.write request = some later →
      invariant store → invariant later) :
    let after := (program.run (forgetful kind) (catalogue, [])).state
    (after.2 = [] ∧ invariant after.1.store) ∨
      ∃ request, kind request = true ∧ after.2 = [⟨request, true⟩] := by
  let kept (state : Catalogue × List Loss) : Prop :=
    (state.2 = [] ∧ invariant state.1.store) ∨
      ∃ request, kind request = true ∧ state.2 = [⟨request, true⟩]
  -- What the world does with a call, as a rule about the whole of its state.
  let rule : CallRule (Catalogue × List Loss) := fun before request _ after =>
    after = (answerLosing kind request before).2
  have obeys : (forgetful kind).Obeys rule id := World.of_calls_obeys fun _ _ => rfl
  have step (state : Catalogue × List Loss) (request : Call) (answer : request.Answer)
      (later : Catalogue × List Loss) (holds : kept state) (answered : rule state request answer later) :
      kept later := by
    obtain rfl : later = _ := answered
    rcases answer_losing_cases request state with lost | ⟨same, changed⟩
    · exact .inr ⟨request, lost⟩
    · refine holds.imp (fun given => ?_) fun lost => ?_
      · refine ⟨same.trans given.1, ?_⟩
        rcases changed with unchanged | ⟨written, unchosen⟩
        · exact unchanged ▸ given.2
        · exact each _ request _ (unchosen given.1) written given.2
      · rcases lost with ⟨earlier, ofKind, alone⟩
        exact ⟨earlier, ofKind, same.trans alone⟩
  have follows := Program.run_follows obeys program (catalogue, [])
  exact follows.keeps step (.inl ⟨rfl, start⟩)

theorem forgetful_writes {Result : Type} {program : Program Result} {catalogue : Catalogue} :
    let after := (program.run (forgetful Call.isWrite) (catalogue, [])).state
    (after.2 = [] ∧ after.1.store = catalogue.store) ∨
      ∃ request, Call.isWrite request = true ∧ after.2 = [⟨request, true⟩] := by
  refine forgetful_losses (· = catalogue.store) rfl fun store request later read written same => ?_
  rw [Store.write_of_read read] at written
  exact (Option.some.inj written).symm.trans same

end Catalogue

end TeacherDirectory
