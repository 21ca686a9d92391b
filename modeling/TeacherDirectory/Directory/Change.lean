/-!
# Changes to entries

A change names an attribute and what happens to its values. A directory takes the values of a
change as a set, so they are sent without repetitions; the order is that of their code points.
-/

namespace TeacherDirectory

set_option autoImplicit false

/-- The attributes of a new entry, in the order in which they are sent. -/
abbrev Attributes := List (String × List String)

inductive ChangeKind
  | add
  | delete
  | replace
  deriving DecidableEq

structure Change where
  kind : ChangeKind
  name : String
  values : List String
  deriving DecidableEq

/-- A list of texts as a set: ascending and without repetitions. -/
def valueSet (values : List String) : List String :=
  (values.mergeSort fun left right => decide (left ≤ right)).eraseReps

namespace Change

def add (name : String) (values : List String) : Change := ⟨.add, name, values⟩

def delete (name : String) (values : List String) : Change := ⟨.delete, name, values⟩

def replace (name : String) (values : List String) : Change := ⟨.replace, name, values⟩

def sent (change : Change) : Change := { change with values := valueSet change.values }

end Change

end TeacherDirectory
