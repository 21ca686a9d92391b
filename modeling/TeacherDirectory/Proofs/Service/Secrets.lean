import TeacherDirectory.Proofs.Service.Parallel
import TeacherDirectory.Script

/-!
# Passwords stay hidden

Two kinds of passwords pass through the service: the one it binds with and the ones it draws. With
both blotted out, nothing that a session does depends on them: two sessions that are answered alike
make the same calls, log, count, wait and hand over the same, and have the same results. So whoever
sees no more than that learns nothing about a password.
-/

namespace TeacherDirectory

set_option autoImplicit false

/-- The change with a password's values blotted out. Their number stays. -/
def Change.redacted (change : Change) : Change :=
  if change.name = "userPassword" then { change with values := change.values.map fun _ => "" }
  else change

def Call.redacted : Call → Call
  | .bind name _ => .bind name ""
  | .modify name changes => .modify name (changes.map Change.redacted)
  | request => request

/-- The effect with the passwords in it blotted out. Only calls may hold one. -/
def Effect.redacted : Effect → Effect
  | .call request => .call request.redacted
  | effect => effect

namespace Likeness

/-- Two runs that get the same answers and draw at will; their calls differ in passwords only. -/
def blotted : Likeness where
  calls request other := request.redacted = other.redacted
  answers := Eq
  draws _ _ := True
  readable same := same ▸ .refl _

theorem redacted_beside {effect other : Effect} (beside : blotted.Beside effect other) :
    effect.redacted = other.redacted := by
  cases beside with
  | same => rfl
  | call alike => exact congrArg Effect.call alike

end Likeness

namespace Service

def Performed.redacted : Performed → Performed
  | ⟨.changePassword personId referrer, .ok _⟩ => ⟨.changePassword personId referrer, .ok ""⟩
  | performed => performed

theorem redacted_alike {performed other : Performed} (alike : performed.Alike .blotted other) :
    performed.redacted = other.redacted := by
  rcases alike.same_or_drawn with rfl | ⟨_, _, _, _, rfl, rfl, -⟩ <;> rfl

structure Unrevealing {State Other : Type} (run : Run State (List Performed))
    (other : Run Other (List Performed)) : Prop where
  effects : run.steps.map (fun step => step.effect.redacted) =
    other.steps.map fun step => step.effect.redacted
  report : SameReport run.steps other.steps
  calls : (run.steps.filterMap Step.call?).map Call.redacted =
    (other.steps.filterMap Step.call?).map Call.redacted
  results : run.result.map Performed.redacted = other.result.map Performed.redacted

/-- Neither the password to bind with nor any that is drawn shows in what a session does, whatever
the directory and the publisher answer, as long as they answer both sessions the same. -/
theorem passwords_stay_hidden {State Other : Type} (world : World State) (replaced : World Other)
    (state : State) (other : Other) (service : Service) (password : Option String)
    (tasks : List Task)
    (sameAnswers : Concur Eq (told ((service.performAll tasks).run world state).steps)
      (told (((service.rekeyed password).performAll tasks).run replaced other).steps))
    (sameReceipts : Concur Eq (receipts ((service.performAll tasks).run world state).steps)
      (receipts (((service.rekeyed password).performAll tasks).run replaced other).steps)) :
    Unrevealing ((service.performAll tasks).run world state)
      (((service.rekeyed password).performAll tasks).run replaced other) := by
  have covers : Covers .blotted service password := ⟨rfl, fun _ _ _ _ => rfl⟩
  obtain ⟨effects, results⟩ := sessions_alike covers
    ⟨sameAnswers, sameReceipts, concur_always (fun _ _ => trivial) _ _⟩
  refine ⟨?_, Likeness.same_report effects, ?_, ?_⟩
  · have blotted := map_alike (fun _ _ beside => Likeness.redacted_beside beside) effects
    rwa [List.map_map, List.map_map] at blotted
  · rw [List.map_filterMap, List.map_filterMap]
    refine Likeness.read_alike (fun _ _ beside => ?_) effects
    cases beside with
    | same => rfl
    | call alike => exact congrArg some alike
  · exact map_alike (fun _ _ alike => redacted_alike alike) results

/-- A reset password, between a check and a failed one, under two passwords and with other draws. -/
theorem two_resets_show_the_same :
    let service : Service :=
      ⟨⟨"", "cn=admin", some "secret", "dc=schule", none, none, none, none, none, none⟩,
        .immediate 0⟩
    let password := some "other secret"
    let tasks : List Task :=
      [.checkConnection, .changePassword "7" "anna", .changePassword "8" "bert"]
    let script : Script :=
      { Script.empty with
        searches := [⟨"uid=anna", .ok [⟨"uid=anna,dc=schule", []⟩], false⟩] }
    let run := (service.performAll tasks).run Stage.world ⟨script, 0, false, 0⟩
    let other :=
      ((service.rekeyed password).performAll tasks).run Stage.world ⟨script, 0, false, 63⟩
    Concur Eq (told run.steps) (told other.steps) ∧
      Concur Eq (receipts run.steps) (receipts other.steps) ∧
        drawn run.steps ≠ drawn other.steps ∧ Unrevealing run other := by
  intro service password tasks script run other
  have sameAnswers : Concur Eq (told run.steps) (told other.steps) := by
    unfold Concur
    decide +kernel
  have sameReceipts : Concur Eq (receipts run.steps) (receipts other.steps) := by
    unfold Concur
    decide +kernel
  have otherDraws : drawn run.steps ≠ drawn other.steps := by decide +kernel
  exact ⟨sameAnswers, sameReceipts, otherDraws,
    passwords_stay_hidden Stage.world Stage.world _ _ service password tasks sameAnswers
      sameReceipts⟩

end Service

end TeacherDirectory
