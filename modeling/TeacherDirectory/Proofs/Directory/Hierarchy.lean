import TeacherDirectory.Proofs.Directory.Calls
import TeacherDirectory.Proofs.Directory.Catalogue

/-!
# A directory whose entries need parents

An addition below a name that has no entry is rejected with the code for a missing object and changes
nothing. All else goes as in the reference directory: a call that the store admits is carried out. So
as long as every addition has its parent, both directories answer alike.
-/

namespace TeacherDirectory

set_option autoImplicit false

open DistinguishedName

namespace Store

/-- An addition below a name without an entry. A name of one component needs no parent. -/
def Orphaned (store : Store) : Call → Prop
  | .add name _ => ∃ leaf parent, split? name = some (leaf, parent) ∧ store parent = none
  | _ => False

/-- The code with which a directory rejects a call that needs an entry which is missing. -/
def noSuchObject : UInt32 := 32

/-- An addition without a parent is rejected. Of the other calls none fails without a reason. -/
def hierarchical : CallRule Store := fun before request answer after =>
  (before.Orphaned request ∧ (∃ text, answer = .error (.rejected noSuchObject text)) ∧
      after = before) ∨
    (¬before.Orphaned request ∧ answering False before request answer after)

def Rooted (base : String) (store : Store) : Prop :=
  ∀ name leaf parent, split? name = some (leaf, parent) → Within base parent →
    store name ≠ none → store parent ≠ none

variable {before after : Store} {request : Call} {name : String}

theorem Rooted.free {base leaf parent : String} {store : Store} (rooted : store.Rooted base)
    (cut : split? name = some (leaf, parent)) (inside : Within base parent)
    (free : store parent = none) : store name = none := by
  by_contra taken
  exact rooted name leaf parent cut inside taken free

theorem not_orphaned {leaf parent : String} {attributes : Attributes}
    (cut : split? name = some (leaf, parent)) (present : before parent ≠ none) :
    ¬before.Orphaned (.add name attributes) := by
  intro orphaned
  rcases orphaned with ⟨_, _, same, free⟩
  cases cut.symm.trans same
  exact present free

/-- No write but a rename or a deletion takes an entry away. -/
theorem write_keeps (written : before.write request = some after)
    (renames : ∀ name leaf, request ≠ .rename name leaf)
    (deletes : ∀ name, request ≠ .delete name) (present : before name ≠ none) :
    after name ≠ none := by
  cases request with
  | add added attributes =>
      obtain ⟨-, rfl⟩ := write_add_iff.mp written
      exact update_keeps _ present
  | modify modified changes =>
      obtain ⟨_, -, _, -, rfl⟩ := write_modify_iff.mp written
      exact update_keeps _ present
  | rename renamed leaf => exact (renames renamed leaf rfl).elim
  | delete deleted => exact (deletes deleted rfl).elim
  | connect => exact Option.some.inj written ▸ present
  | bind admin password => exact Option.some.inj written ▸ present
  | search base scope filter names => exact Option.some.inj written ▸ present

theorem answering_keeps {failing : Prop} {answer : request.Answer}
    (answered : answering failing before request answer after)
    (renames : ∀ name leaf, request ≠ .rename name leaf)
    (deletes : ∀ name, request ≠ .delete name) (present : before name ≠ none) :
    after name ≠ none := by
  cases answer with
  | ok reply => exact write_keeps answered.2 renames deletes present
  | error failure => exact answered.2 ▸ present

theorem hierarchical_answers {answer : request.Answer} (accepted : ¬before.Orphaned request)
    (answered : hierarchical before request answer after) :
    answering False before request answer after :=
  (answered.resolve_left fun rejected => accepted rejected.1).2

variable {refused : DirectoryError → Program ServiceError} {bad : ServiceError → Store → Prop}

theorem ensures_orphaned {good : request.Reply → Store → Prop}
    (orphaned : before.Orphaned request) :
    (Attempt.call request refused).Ensures hierarchical good bad before ↔
      ∀ text, (refused (.rejected noSuchObject text)).Ensures hierarchical bad before := by
  rw [Attempt.ensures_call]
  constructor
  · intro given text
    exact given.2 _ before (.inl ⟨orphaned, ⟨text, rfl⟩, rfl⟩)
  · intro each
    refine ⟨fun reply after answered => ?_, fun failure after answered => ?_⟩
    · obtain ⟨-, ⟨_, impossible⟩, -⟩ := answered.resolve_right fun other => other.1 orphaned
      cases impossible
    · obtain ⟨-, ⟨text, same⟩, rfl⟩ := answered.resolve_right fun other => other.1 orphaned
      cases same
      exact each text

end Store

namespace Catalogue

def single (name : String) : Catalogue where
  store := fun other => if other = name then some fun _ => [] else none
  names := [name]
  keys := []
  distinct := List.nodup_singleton name
  listed := fun other record stored => by
    split at stored
    case isTrue same =>
      obtain rfl := Option.some.inj stored
      exact ⟨List.mem_singleton.mpr same, fun key filled => (filled rfl).elim⟩
    case isFalse => cases stored

theorem single_present (name : String) : (single name).store name ≠ none := by
  unfold single
  dsimp only
  rw [if_pos rfl]
  exact Option.some_ne_none _

theorem single_free {name other : String} (different : other ≠ name) :
    (single name).store other = none := if_neg different

open Classical in
noncomputable def answerBelow (catalogue : Catalogue) (request : Call) :
    request.Answer × Catalogue :=
  if catalogue.store.Orphaned request
  then (.error (.rejected Store.noSuchObject "no such object"), catalogue)
  else catalogue.answer request

noncomputable def hierarchy : World Catalogue :=
  .ofCalls fun request catalogue => catalogue.answerBelow request

theorem hierarchy_obeys : hierarchy.Obeys Store.hierarchical Catalogue.store := by
  refine World.of_calls_obeys fun request catalogue => ?_
  unfold answerBelow
  split
  case isTrue orphaned => exact .inl ⟨orphaned, ⟨_, rfl⟩, rfl⟩
  case isFalse accepted => exact .inr ⟨accepted, catalogue.answer_permitted False⟩

end Catalogue

end TeacherDirectory
