import Mathlib.Data.List.Induction
import TeacherDirectory.Proofs.Directory.AttributeNames
import TeacherDirectory.Proofs.Directory.Encodings

/-!
# An entry is a map in which the last write counts

An entry is built by writing one attribute after another. What is read under a name is the value of
the last write under any spelling of this name. The order of two writes matters only if they are
under spellings of one name: else the entries are the same map.
-/

namespace TeacherDirectory.Entry

set_option autoImplicit false

variable {entry other : Entry} {wanted : String} {value : AttributeValue}

/-- What the last write under a spelling of the name wrote; absent if there is no such write. -/
inductive LastWritten (wanted : String) (writes : List (String × AttributeValue)) :
    AttributeValue → Prop
  | written {earlier later : List (String × AttributeValue)} {name : String}
      {value : AttributeValue} (cut : writes = earlier ++ (name, value) :: later)
      (spelled : OneName name wanted) (last : ∀ given ∈ later, ¬OneName given.1 wanted) :
      LastWritten wanted writes value
  | unwritten (none : ∀ given ∈ writes, ¬OneName given.1 wanted) :
      LastWritten wanted writes .absent

def setAll (entry : Entry) (writes : List (String × AttributeValue)) : Entry :=
  writes.foldl (fun entry given => entry.set given.1 given.2) entry

theorem delivered_eq (name : String) (writes : List (String × AttributeValue)) :
    delivered name writes = (empty name).setAll writes := rfl

theorem set_all_append (entry : Entry) (earlier later : List (String × AttributeValue)) :
    entry.setAll (earlier ++ later) = (entry.setAll earlier).setAll later :=
  List.foldl_append

@[simp] theorem set_all_name (entry : Entry) (writes : List (String × AttributeValue)) :
    (entry.setAll writes).name = entry.name := by
  induction writes generalizing entry with
  | nil => rfl
  | cons given later induction => exact induction (entry.set given.1 given.2)

theorem get_set_spelled {name : String} (spelled : OneName name wanted) :
    (entry.set name value).get wanted = value := by
  rw [get_set, if_pos ((key_eq_iff name wanted).mpr spelled).symm]

theorem get_set_apart {name : String} (apart : ¬OneName name wanted) :
    (entry.set name value).get wanted = entry.get wanted := by
  rw [get_set, if_neg fun same => apart ((key_eq_iff name wanted).mp same.symm)]

theorem get_set_all_apart {writes : List (String × AttributeValue)}
    (apart : ∀ given ∈ writes, ¬OneName given.1 wanted) :
    (entry.setAll writes).get wanted = entry.get wanted := by
  induction writes generalizing entry with
  | nil => rfl
  | cons given later induction =>
      have rest : (entry.setAll (given :: later)).get wanted =
          (entry.set given.1 given.2).get wanted :=
        induction fun next listed => apart next (List.mem_cons_of_mem given listed)
      exact rest.trans (get_set_apart (apart given List.mem_cons_self))

theorem LastWritten.beyond {earlier : List (String × AttributeValue)}
    {given : String × AttributeValue} (last : LastWritten wanted earlier value)
    (apart : ¬OneName given.1 wanted) : LastWritten wanted (earlier ++ [given]) value := by
  cases last with
  | written cut spelled last =>
      apply LastWritten.written (by rw [cut, List.append_assoc, List.cons_append]) spelled
      exact List.forall_mem_append.mpr ⟨last, List.forall_mem_singleton.mpr apart⟩
  | unwritten none =>
      apply LastWritten.unwritten
      exact List.forall_mem_append.mpr ⟨none, List.forall_mem_singleton.mpr apart⟩

/-- There is a last write under a name or there is none. The induction is on the writes from behind,
since the later one counts. -/
theorem last_written (name wanted : String) (writes : List (String × AttributeValue)) :
    LastWritten wanted writes ((delivered name writes).get wanted) := by
  induction writes using List.reverseRecOn with
  | nil => exact .unwritten (by simp)
  | append_singleton earlier given induction =>
      have same : delivered name (earlier ++ [given]) =
          (delivered name earlier).set given.1 given.2 := set_all_append _ earlier [given]
      rw [same]
      by_cases spelled : OneName given.1 wanted
      · rw [get_set_spelled spelled]
        exact .written rfl spelled (by simp)
      · rw [get_set_apart spelled]
        exact induction.beyond spelled

theorem LastWritten.get {name : String} {writes : List (String × AttributeValue)}
    (last : LastWritten wanted writes value) : (delivered name writes).get wanted = value := by
  cases last with
  | written cut spelled last =>
      rw [cut, delivered_eq, set_all_append]
      exact (get_set_all_apart last).trans (get_set_spelled spelled)
  | unwritten none => exact get_set_all_apart none

theorem get_delivered_iff {name : String} {writes : List (String × AttributeValue)} :
    (delivered name writes).get wanted = value ↔ LastWritten wanted writes value := by
  constructor
  · rintro rfl
    exact last_written name wanted writes
  · exact LastWritten.get

/-- Entries of one name that hold the same value under every key, or none. -/
structure SameMap (entry other : Entry) : Prop where
  name : entry.name = other.name
  held : ∀ key, entry.attributes.lookup key = other.attributes.lookup key

theorem SameMap.refl (entry : Entry) : entry.SameMap entry := ⟨rfl, fun _ => rfl⟩

theorem SameMap.trans {third : Entry} (same : entry.SameMap other) (further : other.SameMap third) :
    entry.SameMap third :=
  ⟨same.name.trans further.name, fun key => (same.held key).trans (further.held key)⟩

theorem SameMap.set (same : entry.SameMap other) (name : String) (value : AttributeValue) :
    (entry.set name value).SameMap (other.set name value) where
  name := same.name
  held wanted := by
    unfold Entry.set
    rw [List.lookup_cons, List.lookup_cons, same.held]

theorem SameMap.set_all (same : entry.SameMap other) (writes : List (String × AttributeValue)) :
    (entry.setAll writes).SameMap (other.setAll writes) := by
  induction writes generalizing entry other with
  | nil => exact same
  | cons given later induction => exact induction (same.set given.1 given.2)

theorem set_comm (entry : Entry) {name second : String} (apart : ¬OneName name second)
    (value after : AttributeValue) :
    ((entry.set name value).set second after).SameMap
      ((entry.set second after).set name value) where
  name := rfl
  held wanted := by
    have keys : key name ≠ key second := fun same => apart ((key_eq_iff name second).mp same)
    unfold Entry.set
    simp only [List.lookup_cons]
    by_cases first : wanted = key name
    · rw [first, beq_self_eq_true, beq_false_of_ne keys]
    · rw [beq_false_of_ne first]

def NamesApart {Value : Type} (listed : List (String × Value)) : Prop :=
  listed.Pairwise fun given next => ¬OneName given.1 next.1

instance {Value : Type} (listed : List (String × Value)) : Decidable (NamesApart listed) :=
  inferInstanceAs (Decidable (listed.Pairwise _))

theorem NamesApart.perm {Value : Type} {listed others : List (String × Value)}
    (apart : NamesApart listed) (reordered : listed.Perm others) : NamesApart others :=
  (reordered.pairwise_iff fun different same => different same.symm).mp apart

theorem NamesApart.map {Value Other : Type} {listed : List (String × Value)}
    (apart : NamesApart listed) (other : Value → Other) :
    NamesApart (listed.map fun given => (given.1, other given.2)) :=
  List.pairwise_map.mpr apart

theorem get_set_all_listed {writes : List (String × AttributeValue)} (apart : NamesApart writes)
    {name : String} (listed : (name, value) ∈ writes) (spelled : OneName name wanted) :
    (entry.setAll writes).get wanted = value := by
  rcases List.append_of_mem listed with ⟨earlier, later, rfl⟩
  have behind := (List.pairwise_cons.mp (List.pairwise_append.mp apart).2.1).1
  have unseen : ∀ given ∈ later, ¬OneName given.1 wanted := by
    intro given present same
    exact behind given present (spelled.trans same.symm)
  rw [set_all_append]
  exact (get_set_all_apart unseen).trans (get_set_spelled spelled)

theorem set_all_perm (entry : Entry) {writes others : List (String × AttributeValue)}
    (reordered : writes.Perm others) (apart : NamesApart writes) :
    (entry.setAll writes).SameMap (entry.setAll others) := by
  induction reordered generalizing entry with
  | nil => exact .refl entry
  | cons given _ induction =>
      exact induction (entry.set given.1 given.2) (List.pairwise_cons.mp apart).2
  | swap given next rest =>
      have different : ¬OneName next.1 given.1 :=
        (List.pairwise_cons.mp apart).1 given List.mem_cons_self
      exact (set_comm entry different next.2 given.2).set_all rest
  | trans first _ former latter =>
      exact (former entry apart).trans (latter entry (apart.perm first))

/-- An entry that is built by writes keeps its name, holds under every name what the last write
under a spelling of this name wrote, and is the same map when two neighbouring writes under other
names change places. -/
theorem last_write_wins (name : String) (writes : List (String × AttributeValue)) :
    (delivered name writes).name = name ∧
      (∀ wanted value,
        (delivered name writes).get wanted = value ↔ LastWritten wanted writes value) ∧
      (∀ wanted value, LastWritten wanted writes value →
        (delivered name writes).values wanted = value.texts ∧
          (delivered name writes).first? wanted = value.texts.head?) ∧
      (∀ earlier given next later, writes = earlier ++ given :: next :: later →
        ¬OneName given.1 next.1 →
          (delivered name writes).SameMap (delivered name (earlier ++ next :: given :: later))) ∧
      ∀ (wanted other : String) (place : Nat) (letter read : Char), OneName wanted other →
        wanted.toList[place]? = some letter → other.toList[place]? = some read →
          128 ≤ letter.toNat ∨ 128 ≤ read.toNat → letter = read := by
  constructor
  · exact set_all_name (empty name) writes
  constructor
  · intro wanted value
    exact get_delivered_iff
  constructor
  · intro wanted value last
    have held : (delivered name writes).get wanted = value := last.get
    have read : (delivered name writes).values wanted = value.texts := congrArg _ held
    exact ⟨read, congrArg List.head? read⟩
  constructor
  · rintro earlier given next later rfl apart
    simp only [delivered_eq, set_all_append]
    exact (set_comm _ apart given.2 next.2).set_all later
  · intro wanted other place letter read one written spelled beyond
    exact one.beyond_ascii written spelled beyond

end TeacherDirectory.Entry
