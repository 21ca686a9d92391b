import TeacherDirectory.Proofs.Service.Parallel
import TeacherDirectory.Script

/-!
# Sessions on directories that encode in other ways

How a directory encodes what it answers makes no difference to a session. Two directories that
answer with the same bytes under the same attribute names, whatever the letter case and whether as
texts or as bytes, alone or in a list, see the same calls in the same order; and all else that a
session does is the same, as are its results.
-/

namespace TeacherDirectory

set_option autoImplicit false

namespace Likeness

/-- Two runs that draw the same and get answers which may be encoded in other ways. -/
def encoded : Likeness where
  calls := Eq
  answers := DirectoryAnswer.Alike
  draws := Eq
  readable alike := alike

theorem encoded_beside {effect other : Effect} (beside : encoded.Beside effect other) :
    effect = other := by
  cases beside with
  | same => rfl
  | call alike => exact congrArg Effect.call alike

end Likeness

namespace Service

theorem encoded_alike {performed other : Performed} (alike : performed.Alike .encoded other) :
    performed = other := by
  rcases alike.same_or_drawn with same | ⟨_, _, _, _, rfl, rfl, draws, _, rfl, rfl, rfl⟩
  · exact same
  · rfl

theorem covers_itself (service : Service) :
    Covers .encoded service service.settings.password :=
  ⟨rfl, fun name _ _ same => congrArg (passwordChange name) same⟩

/-- Two runs that have the same effects in the same order and the same results. -/
structure Indistinguishable {State Other : Type} (run : Run State (List Performed))
    (other : Run Other (List Performed)) : Prop where
  effects : run.steps.map Step.effect = other.steps.map Step.effect
  calls : run.steps.filterMap Step.call? = other.steps.filterMap Step.call?
  report : SameReport run.steps other.steps
  results : run.result = other.result

/-- Entries are alike however their attributes are written and encoded, and sessions that are
answered alike cannot be told apart. -/
theorem encodings_make_no_difference {State Other : Type} (world : World State)
    (replaced : World Other) (state : State) (other : Other) (service : Service)
    (tasks : List Task)
    (alikeAnswers : Concur DirectoryAnswer.Alike
      (told ((service.performAll tasks).run world state).steps)
      (told ((service.performAll tasks).run replaced other).steps))
    (sameReceipts : Concur Eq (receipts ((service.performAll tasks).run world state).steps)
      (receipts ((service.performAll tasks).run replaced other).steps))
    (sameDraws : Concur Eq (drawn ((service.performAll tasks).run world state).steps)
      (drawn ((service.performAll tasks).run replaced other).steps)) :
    (∀ (name : String) (attributes others : List (String × AttributeValue)),
        List.Forall₂ Entry.Reencoded attributes others →
          (Entry.delivered name attributes).Alike (Entry.delivered name others)) ∧
      Indistinguishable ((service.performAll tasks).run world state)
        ((service.performAll tasks).run replaced other) := by
  obtain ⟨effects, results⟩ :=
    sessions_alike (covers_itself service) ⟨alikeAnswers, sameReceipts, sameDraws⟩
  refine ⟨fun name _ _ => Entry.delivered_alike name, ?_, ?_, Likeness.same_report effects, ?_⟩
  · exact List.forall₂_eq_eq_eq ▸ effects.imp fun _ _ => Likeness.encoded_beside
  · refine Likeness.read_alike (fun _ _ beside => ?_) effects
    cases beside with
    | same => rfl
    | call alike => exact congrArg some alike
  · exact List.forall₂_eq_eq_eq ▸ results.imp fun _ _ => encoded_alike

def givingBytes {State : Type} (world : World State) : World State where
  answer
    | .call (.search base scope filter names), state =>
        let (answer, after) := world.answer (.call (.search base scope filter names)) state
        (answer.map fun entries => entries.map Entry.inBytes, after)
    | effect, state => world.answer effect state

theorem giving_bytes_mirrors {State : Type} (world : World State) :
    Program.Mirrors .encoded Eq world (givingBytes world) := by
  intro state other same effect effect' beside
  subst same
  obtain rfl := Likeness.encoded_beside beside
  cases effect with
  | call request =>
      cases request with
      | search base scope filter names =>
          refine ⟨?_, rfl⟩
          have recoded (answer : Except DirectoryError (List Entry)) :
              ((Call.search base scope filter names).told answer).Alike
                ((Call.search base scope filter names).told
                  (answer.map fun entries => entries.map Entry.inBytes)) := by
            cases answer with
            | error failure => exact DirectoryAnswer.Alike.refl _
            | ok entries =>
                exact List.forall₂_map_right_iff.mpr
                  (List.forall₂_same.mpr fun entry _ => entry.alike_in_bytes)
          exact recoded _
      | _ => exact ⟨DirectoryAnswer.Alike.refl _, rfl⟩
  | draw => exact ⟨rfl, rfl⟩
  | publish event => exact ⟨rfl, rfl⟩
  | _ => exact ⟨trivial, rfl⟩

/-- A member is found and an address read, in texts and in bytes. -/
theorem member_found_in_bytes :
    let service : Service :=
      ⟨⟨"", "cn=admin", some "secret", "dc=schule", none, none, none, none, none, none⟩,
        .immediate 0⟩
    let tasks : List Task :=
      [.joinGroup "anna" "0705" "uid=anna", .changeAddress "7" "anna" "neu@schule-sh.de"]
    let script : Script :=
      { Script.empty with
        searches :=
          [⟨"cn=lehrer-0705", .ok [⟨"cn=lehrer-0705",
              [("member", .textList ["uid=anna", "uid=jörg"])]⟩], false⟩,
            ⟨"uid=anna", .ok [⟨"uid=anna", [("mailprimaryaddress", .text "alt@schule-sh.de")]⟩],
              false⟩] }
    let run := (service.performAll tasks).run Stage.world ⟨script, 0, false, 0⟩
    let other := (service.performAll tasks).run (givingBytes Stage.world) ⟨script, 0, false, 0⟩
    Concur DirectoryAnswer.Alike (told run.steps) (told other.steps) ∧
      Concur Eq (receipts run.steps) (receipts other.steps) ∧
        Concur Eq (drawn run.steps) (drawn other.steps) ∧ Indistinguishable run other := by
  intro service tasks script run other
  have answered : Likeness.encoded.AnsweredAlike run.steps other.steps :=
    (parallel_session (covers_itself service) tasks).answered (giving_bytes_mirrors _) rfl
  obtain ⟨alikeAnswers, sameReceipts, sameDraws⟩ := answered
  exact ⟨alikeAnswers, sameReceipts, sameDraws, (encodings_make_no_difference Stage.world
    (givingBytes Stage.world) _ _ service tasks alikeAnswers sameReceipts sameDraws).2⟩

end Service

end TeacherDirectory
