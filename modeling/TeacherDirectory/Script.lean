import TeacherDirectory.Program

/-!
# Scripted directories

A scripted directory plays prepared results instead of keeping entries. Each kind of call has a queue
of results; an empty queue means success. A search is answered by the first prepared search whose key
occurs in the search's text, and by no entries if there is none. Time is virtual: it passes only
while a result is delayed and while a program waits, and never for more than thirty years at once.
-/

namespace TeacherDirectory

set_option autoImplicit false

structure Prepared where
  delay : Nat
  outcome : Except DirectoryError Unit

/-- The answer to searches in whose text the key occurs. A lasting one is never used up. -/
structure PreparedSearch where
  key : String
  outcome : Except DirectoryError (List Entry)
  lasting : Bool

structure Script where
  connects : List Prepared
  binds : List Prepared
  searches : List PreparedSearch
  adds : List Prepared
  modifications : List Prepared
  renamings : List Prepared
  deletions : List Prepared

namespace Script

def empty : Script := ⟨[], [], [], [], [], [], []⟩

def append (script more : Script) : Script where
  connects := script.connects ++ more.connects
  binds := script.binds ++ more.binds
  searches := script.searches ++ more.searches
  adds := script.adds ++ more.adds
  modifications := script.modifications ++ more.modifications
  renamings := script.renamings ++ more.renamings
  deletions := script.deletions ++ more.deletions

end Script

structure Stage where
  script : Script
  clock : Nat
  refusesEvents : Bool
  drawn : Nat

namespace Stage

def next : List Prepared → Prepared × List Prepared
  | [] => (⟨0, .ok ()⟩, [])
  | prepared :: rest => (prepared, rest)

def nextSearch (text : List Char) :
    List PreparedSearch → Except DirectoryError (List Entry) × List PreparedSearch
  | [] => (.ok [], [])
  | prepared :: rest =>
      if Text.occursIn prepared.key.toList text then
        (prepared.outcome, if prepared.lasting then prepared :: rest else rest)
      else
        let (outcome, left) := nextSearch text rest
        (outcome, prepared :: left)

/-- The longest time that passes at once, in milliseconds: thirty years of 365 days. -/
def longestPause : Nat := 30 * 365 * 24 * 60 * 60 * 1000

def pass (stage : Stage) (milliseconds : Nat) : Stage :=
  { stage with clock := stage.clock + Nat.min milliseconds longestPause }

def after (stage : Stage) (prepared : Prepared) (script : Script) : Stage :=
  { stage.pass prepared.delay with script := script }

def answerCall (stage : Stage) : (request : Call) → request.Answer × Stage
  | .connect =>
      let (prepared, rest) := next stage.script.connects
      (prepared.outcome, stage.after prepared { stage.script with connects := rest })
  | .bind .. =>
      let (prepared, rest) := next stage.script.binds
      (prepared.outcome, stage.after prepared { stage.script with binds := rest })
  | .search base _ filter _ =>
      let text := base ++ " " ++ filter.render
      let (outcome, rest) := nextSearch text.toList stage.script.searches
      (outcome, { stage with script := { stage.script with searches := rest } })
  | .add .. =>
      let (prepared, rest) := next stage.script.adds
      (prepared.outcome, stage.after prepared { stage.script with adds := rest })
  | .modify .. =>
      let (prepared, rest) := next stage.script.modifications
      (prepared.outcome, stage.after prepared { stage.script with modifications := rest })
  | .rename .. =>
      let (prepared, rest) := next stage.script.renamings
      (prepared.outcome, stage.after prepared { stage.script with renamings := rest })
  | .delete .. =>
      let (prepared, rest) := next stage.script.deletions
      (prepared.outcome, stage.after prepared { stage.script with deletions := rest })

def drawsOf (number : Nat) : Draws := Vector.ofFn fun place => Fin.ofNat 62 (number / Nat.pow 62 place.val)

/-- Answers an effect. Passwords are drawn in counting order. -/
def answer : (effect : Effect) → Stage → effect.Answer × Stage
  | .call request, stage => stage.answerCall request
  | .log _, stage => ((), stage)
  | .count _, stage => ((), stage)
  | .wait span, stage => ((), stage.pass span.ticks)
  | .publish _, stage =>
      (if stage.refusesEvents then .error (.serialization "broker unavailable") else .ok (), stage)
  | .draw, stage => (drawsOf stage.drawn, { stage with drawn := stage.drawn + 1 })

def world : World Stage := ⟨answer⟩

end Stage

end TeacherDirectory
