import TeacherDirectory.Proofs.DistinguishedName.Value

/-!
# Names taken apart leaf by leaf

Components put in front of a base one after the other come off again one after the other, and what
is left is the base as it was, whatever that is. Nothing else comes off, so a name above a base tells
which attributes it was made of. A leaf that is replaced by a component leaves the parent as it was,
and a name without a parent stays without one.
-/

namespace TeacherDirectory.DistinguishedName

set_option autoImplicit false

/-- Cutting a name again and again takes off the components of these attributes, each of which is read
as its attribute, and leaves the rest. -/
inductive CutsInto (rest : String) : String → List (String × String) → Prop
  | whole : CutsInto rest rest []
  | leaf {name parent type value : String} {attributes : List (String × String)}
      (cut : split? name = some (component type value, parent))
      (read : readComponent? (component type value) = some (type, value))
      (further : CutsInto rest parent attributes) :
      CutsInto rest name ((type, value) :: attributes)

variable {name parent rest type : String} {attributes others : List (String × String)}

theorem cuts_into_component (isType : IsType type) (value : String)
    (further : CutsInto rest parent attributes) :
    CutsInto rest (below (component type value) parent) ((type, value) :: attributes) :=
  .leaf (split_below isType value parent) (read_component isType value) further

theorem CutsInto.length_le (cuts : CutsInto rest name attributes) : rest.length ≤ name.length := by
  induction cuts with
  | whole => exact Nat.le_refl _
  | leaf cut _ _ shorter => exact Nat.le_trans shorter (Nat.le_of_lt (split_shorter cut))

/-- A rest is never cut off from itself, because every cut makes a name shorter. -/
theorem CutsInto.nothing_left (cuts : CutsInto name name attributes) : attributes = [] := by
  cases cuts with
  | whole => rfl
  | leaf cut _ further =>
      exact absurd (Nat.lt_of_le_of_lt further.length_le (split_shorter cut)) (Nat.lt_irrefl _)

theorem CutsInto.unique (cuts : CutsInto rest name attributes)
    (otherCuts : CutsInto rest name others) : attributes = others := by
  induction cuts generalizing others with
  | whole => exact otherCuts.nothing_left.symm
  | leaf cut read further unique =>
      cases otherCuts with
      | whole => exact (CutsInto.leaf cut read further).nothing_left
      | leaf otherCut otherRead otherFurther =>
          obtain ⟨sameLeaf, rfl⟩ := Prod.mk.inj (Option.some.inj (cut.symm.trans otherCut))
          rw [sameLeaf, otherRead] at read
          rw [unique otherFurther, Option.some.inj read]

theorem CutsInto.determined (cuts : CutsInto rest name attributes) (others : List (String × String)) :
    CutsInto rest name others ↔ others = attributes := by
  constructor
  · intro otherCuts
    exact otherCuts.unique cuts
  · rintro rfl
    exact cuts

theorem CutsInto.injective {other : String} (cuts : CutsInto rest name attributes)
    (otherCuts : CutsInto rest other others) (same : name = other) : attributes = others := by
  subst same
  exact cuts.unique otherCuts

theorem split_component (isType : IsType type) (value : String) :
    split? (component type value) = none := by
  have uncut := uncut_component isType value []
  rw [List.append_nil, cutFrom, Option.map_none] at uncut
  unfold split?
  rw [uncut, Option.map_none]

theorem split_rename_user (name username : String) :
    split? (renameUser name username) =
      (split? name).map fun (_, parent) => (userComponent username, parent) := by
  unfold renameUser
  cases split? name with
  | none => exact split_component is_type_uid username
  | some cut => exact split_below is_type_uid username cut.2

theorem rename_renamed_user (name first second : String) :
    renameUser (renameUser name first) second = renameUser name second := by
  rw [renameUser, split_rename_user, renameUser]
  cases split? name <;> rfl

end TeacherDirectory.DistinguishedName
