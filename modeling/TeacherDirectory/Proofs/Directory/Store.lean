import Mathlib.Logic.Function.Basic
import TeacherDirectory.Proofs.DistinguishedName.Value
import TeacherDirectory.Proofs.Filter
import TeacherDirectory.Proofs.Program.Rule

/-!
# A reference directory

A directory keeps the values of attributes for each name it has an entry of. It reads a filter from
its text and compares values byte by byte; only the names of attributes are folded. It answers a
search with all entries that match, in any order. An entry needs no parent. A write is refused
where an entry is missing or in the way, or where a value to be added is there and one to be deleted
is not; a refused call changes nothing.
-/

namespace TeacherDirectory

set_option autoImplicit false

open DistinguishedName Text
open Function (update)

/-- The values of each attribute of an entry, by its folded name. -/
abbrev Record := String → List String

abbrev Store := String → Option Record

theorem Entry.key_member : Entry.key "member" = "member" := by decide +kernel

namespace Record

/-- The record of a new entry; attributes of one name are taken together. -/
def ofAttributes (attributes : Attributes) : Record :=
  fun key => (attributes.filter fun (name, _) => Entry.key name = key).flatMap Prod.snd

def change (record : Record) (change : Change) : Option Record :=
  let key := Entry.key change.name
  let values := record key
  match change.kind with
  | .add =>
      if change.values.any values.contains then none
      else some (update record key (values ++ change.values))
  | .delete =>
      if change.values.all values.contains then
        some (update record key (values.filter fun value => !change.values.contains value))
      else none
  | .replace => some (update record key change.values)

theorem change_other {record changed : Record} {change : Change} {key : String}
    (made : record.change change = some changed) (other : Entry.key change.name ≠ key) :
    changed key = record key := by
  have kept (values : List String) :
      update record (Entry.key change.name) values key = record key :=
    Function.update_of_ne other.symm values record
  unfold Record.change at made
  dsimp only at made
  split at made
  · split at made
    · cases made
    · exact Option.some.inj made ▸ kept _
  · split at made
    · exact Option.some.inj made ▸ kept _
    · cases made
  · exact Option.some.inj made ▸ kept _

theorem changes_other {record changed : Record} {changes : List Change} {key : String}
    (made : changes.foldlM Record.change record = some changed)
    (others : ∀ change ∈ changes, Entry.key change.name ≠ key) : changed key = record key := by
  induction changes generalizing record with
  | nil => exact congrFun (Option.some.inj made).symm key
  | cons change rest induction =>
      rw [List.foldlM_cons, Option.bind_eq_bind, Option.bind_eq_some_iff] at made
      rcases made with ⟨between, first, later⟩
      rw [induction later fun other member => others other (List.mem_cons_of_mem change member),
        change_other first (others change List.mem_cons_self)]

/-- Takes the value of an old leaf out of a record and puts that of a new one in. -/
def renamed (record : Record) (oldLeaf newLeaf : Option (String × String)) : Record :=
  let without := match oldLeaf with
    | some (type, value) =>
        update record (Entry.key type) ((record (Entry.key type)).filter (· ≠ value))
    | none => record
  match newLeaf with
  | some (type, value) =>
      let values := without (Entry.key type)
      update without (Entry.key type) (if values.contains value then values else values ++ [value])
  | none => without

theorem renamed_single {record : Record} {type value other : String}
    (single : record (Entry.key type) = [value]) :
    record.renamed (some (type, value)) (some (type, other)) =
      update record (Entry.key type) [other] := by
  simp [renamed, single, Function.update_idem]

theorem renamed_values (record : Record) (oldLeaf : Option (String × String))
    (type value : String) :
    value ∈ record.renamed oldLeaf (some (type, value)) (Entry.key type) ∧
      ∀ key, ∀ listed ∈ record.renamed oldLeaf (some (type, value)) key,
        (key = Entry.key type ∧ listed = value) ∨ listed ∈ record key := by
  -- The value of the old leaf may have been taken out before.
  have adding (without : Record) (fewer : ∀ key, without key ⊆ record key) :
      let values := without (Entry.key type)
      let added := update without (Entry.key type)
        (if values.contains value then values else values ++ [value])
      value ∈ added (Entry.key type) ∧ ∀ key, ∀ listed ∈ added key,
        (key = Entry.key type ∧ listed = value) ∨ listed ∈ record key := by
    intro values added
    have here : value ∈ added (Entry.key type) ∧
        ∀ listed ∈ added (Entry.key type), listed = value ∨ listed ∈ values := by
      dsimp only [added]
      rw [Function.update_self]
      split
      case isTrue there =>
        exact ⟨List.contains_iff_mem.mp there, fun listed member => .inr member⟩
      case isFalse => simp [or_comm]
    refine ⟨here.1, fun key listed member => ?_⟩
    by_cases same : key = Entry.key type
    · subst same
      exact (here.2 listed member).imp (⟨rfl, ·⟩) fun earlier => fewer _ earlier
    · have unmoved : added key = without key := Function.update_of_ne same _ without
      exact .inr (fewer key (unmoved ▸ member))
  cases oldLeaf with
  | none => exact adding record fun _ => List.Subset.refl _
  | some leaf =>
      rcases leaf with ⟨oldType, oldValue⟩
      refine adding (update record (Entry.key oldType) _) fun key => ?_
      by_cases same : key = Entry.key oldType
      · rw [same, Function.update_self]
        exact fun _ chosen => (List.mem_filter.mp chosen).1
      · rw [Function.update_of_ne same]
        exact List.Subset.refl _

section Replacing

def replaced (record : Record) (changes : List Change) : Record :=
  changes.foldl (fun record change => update record (Entry.key change.name) change.values) record

variable {record other : Record} {change : Change} {changes : List Change} {key : String}

theorem replaced_cons : record.replaced (change :: changes) =
    replaced (update record (Entry.key change.name) change.values) changes := rfl

theorem replaced_other (others : ∀ change ∈ changes, Entry.key change.name ≠ key) :
    record.replaced changes key = record key := by
  induction changes generalizing record with
  | nil => rfl
  | cons change rest induction =>
      have first := others change List.mem_cons_self
      rw [replaced_cons, induction fun later member => others later (List.mem_cons_of_mem _ member),
        Function.update_of_ne first.symm]

theorem replaced_same (same : record key = other key) :
    record.replaced changes key = other.replaced changes key := by
  induction changes generalizing record other with
  | nil => exact same
  | cons change rest induction =>
      rw [replaced_cons, replaced_cons]
      apply induction
      by_cases here : key = Entry.key change.name
      · rw [here, Function.update_self, Function.update_self]
      · rw [Function.update_of_ne here, Function.update_of_ne here, same]

theorem replaced_named (named : ∃ change ∈ changes, Entry.key change.name = key) :
    record.replaced changes key = other.replaced changes key := by
  induction changes generalizing record other with
  | nil => simp at named
  | cons change rest induction =>
      rw [replaced_cons, replaced_cons]
      rcases named with ⟨chosen, member, same⟩
      rcases List.mem_cons.mp member with rfl | later
      · subst same
        apply replaced_same
        rw [Function.update_self, Function.update_self]
      · exact induction ⟨chosen, later, same⟩

theorem replaced_twice : (record.replaced changes).replaced changes = record.replaced changes := by
  funext key
  by_cases named : ∃ change ∈ changes, Entry.key change.name = key
  · exact replaced_named named
  · exact replaced_other fun change member same => named ⟨change, member, same⟩

theorem changes_replaced (replaces : ∀ change ∈ changes, change.kind = .replace) :
    changes.foldlM Record.change record = some (record.replaced changes) := by
  induction changes generalizing record with
  | nil => rfl
  | cons change rest induction =>
      have made : record.change change =
          some (update record (Entry.key change.name) change.values) := by
        unfold Record.change
        rw [replaces change List.mem_cons_self]
      rw [List.foldlM_cons, made]
      exact induction fun later member => replaces later (List.mem_cons_of_mem change member)

end Replacing

end Record

inductive Within (base : String) : String → Prop
  | self : Within base base
  | child {name leaf parent : String} (cut : split? name = some (leaf, parent))
      (inside : Within base parent) : Within base name

theorem Within.trans {base middle name : String} (inside : Within middle name)
    (outer : Within base middle) : Within base name := by
  induction inside with
  | self => exact outer
  | child cut _ induction => exact .child cut induction

theorem Within.parent {base name leaf parent : String} (inside : Within base name)
    (cut : split? name = some (leaf, parent)) (apart : name ≠ base) : Within base parent := by
  cases inside with
  | self => exact (apart rfl).elim
  | child cutThere inside =>
      cases cut.symm.trans cutThere
      exact inside

theorem Within.longer {base name : String} (inside : Within base name) :
    name = base ∨ base.length < name.length := by
  induction inside with
  | self => exact .inl rfl
  | child cut _ induction =>
      have shorter := split_shorter cut
      rcases induction with rfl | longer
      · exact .inr shorter
      · exact .inr (longer.trans shorter)

def SearchScope.Covers (base : String) : SearchScope → String → Prop
  | .base, name => name = base
  | .oneLevel, name => ∃ leaf, split? name = some (leaf, base)
  | .subtree, name => Within base name

namespace Filter

mutual

def Holds (record : Record) : Filter Bytes → Prop
  | equal name value => ∃ text ∈ record (Entry.key name), encode text = value
  | present name => record (Entry.key name) ≠ []
  | all conditions => AllHold record conditions
  | any conditions => AnyHolds record conditions
  | not condition => ¬Holds record condition

def AllHold (record : Record) : List (Filter Bytes) → Prop
  | [] => True
  | condition :: rest => Holds record condition ∧ AllHold record rest

def AnyHolds (record : Record) : List (Filter Bytes) → Prop
  | [] => False
  | condition :: rest => Holds record condition ∨ AnyHolds record rest

end

/-- A record satisfies the condition that is read from the text of a filter. -/
def Matches (filter : Filter String) (record : Record) : Prop :=
  ∃ condition, read? filter.render = some condition ∧ Holds record condition

theorem matches_iff {filter : Filter String} (named : filter.WellNamed) (record : Record) :
    filter.Matches record ↔ Holds record filter.encoded := by
  unfold Matches
  rw [read_render named]
  simp

/-- Whatever characters a value holds, a record matches if it has just this value. -/
theorem matches_equal {name value : String} (isName : IsName name) (record : Record) :
    (equal name value).Matches record ↔ value ∈ record (Entry.key name) := by
  rw [matches_iff (show (equal name value).WellNamed from isName)]
  constructor
  · intro given
    rcases given with ⟨text, member, same⟩
    rwa [← encode_injective same]
  · intro member
    exact ⟨value, member, rfl⟩

theorem matches_username {username : String} {record : Record} :
    (byUsername username).Matches record ↔ username ∈ record "uid" := by
  have folded : Entry.key "uid" = "uid" := by decide +kernel
  unfold byUsername
  rw [matches_equal (by decide +kernel), folded]

theorem matches_member {name : String} {record : Record} :
    (byMember name).Matches record ↔ name ∈ record "member" := by
  unfold byMember
  rw [matches_equal (by decide +kernel), Entry.key_member]

theorem matches_all_two {first second value other : String} (firstName : IsName first)
    (secondName : IsName second) (record : Record) :
    (all [equal first value, equal second other]).Matches record ↔
      value ∈ record (Entry.key first) ∧ other ∈ record (Entry.key second) := by
  have named : (all [equal first value, equal second other]).WellNamed :=
    ⟨firstName, secondName, trivial⟩
  have each : (all [equal first value, equal second other]).Matches record ↔
      Holds record (equal first (encode value)) ∧ Holds record (equal second (encode other)) := by
    rw [matches_iff named]
    exact and_congr_right fun _ => and_iff_left trivial
  rw [each, ← matches_equal firstName, ← matches_equal secondName,
    matches_iff (show (equal first value).WellNamed from firstName),
    matches_iff (show (equal second other).WellNamed from secondName)]
  rfl

end Filter

namespace Store

theorem update_keeps {store : Store} {name other : String} (record : Record)
    (present : store name ≠ none) : update store other (some record) name ≠ none := by
  by_cases same : name = other
  · rw [same, Function.update_self]
    exact Option.some_ne_none record
  · rwa [Function.update_of_ne same]

def movedName (name leaf : String) : String :=
  match split? name with
  | some (_, parent) => below leaf parent
  | none => leaf

def write (store : Store) : Call → Option Store
  | .add name attributes =>
      match store name with
      | some _ => none
      | none => some (update store name (some (Record.ofAttributes attributes)))
  | .modify name changes => do
      let changed ← changes.foldlM Record.change (← store name)
      some (update store name (some changed))
  | .rename name leaf => do
      let record ← store name
      let removed := update store name none
      match removed (movedName name leaf) with
      | some _ => none
      | none =>
          let oldLeaf := (split? name).map Prod.fst |>.getD name
          some (update removed (movedName name leaf)
            (some (record.renamed (readComponent? oldLeaf) (readComponent? leaf))))
  | .delete name =>
      match store name with
      | some _ => some (update store name none)
      | none => none
  | _ => some store

def Shows (record : Record) (names : List String) (entry : Entry) : Prop :=
  ∀ name, names = [] ∨ name ∈ names → entry.values name = record (Entry.key name)

theorem Shows.members {record : Record} {entry : Entry} (shown : Shows record ["member"] entry) :
    entry.values "member" = record "member" := by
  rw [shown "member" (.inr (List.mem_singleton.mpr rfl)), Entry.key_member]

/-- A search answers with all entries that match, each of them once. -/
structure Finds (store : Store) (base : String) (scope : SearchScope) (filter : Filter String)
    (names : List String) (entries : List Entry) : Prop where
  distinct : (entries.map Entry.name).Nodup
  found : ∀ entry ∈ entries, ∃ record, store entry.name = some record ∧
    scope.Covers base entry.name ∧ filter.Matches record ∧ Shows record names entry
  complete : ∀ name record, store name = some record → scope.Covers base name →
    filter.Matches record → ∃ entry ∈ entries, entry.name = name

section Searches

variable {store : Store} {base name : String} {scope : SearchScope} {filter : Filter String}
  {names : List String} {entries : List Entry} {record : Record}

theorem Finds.eq_nil (finds : store.Finds base scope filter names entries)
    (none : ∀ name record, store name = some record → scope.Covers base name →
      ¬filter.Matches record) : entries = [] := by
  apply List.eq_nil_iff_forall_not_mem.mpr
  intro entry member
  obtain ⟨record, stored, covered, matched, -⟩ := finds.found entry member
  exact none entry.name record stored covered matched

theorem Finds.none_matches (finds : store.Finds base scope filter names [])
    (stored : store name = some record) (covered : scope.Covers base name) :
    ¬filter.Matches record := by
  intro matched
  obtain ⟨_, impossible, -⟩ := finds.complete name record stored covered matched
  cases impossible

theorem Finds.free (finds : store.Finds base scope filter names [])
    (found : ∀ record, store name = some record →
      scope.Covers base name ∧ filter.Matches record) : store name = none := by
  by_contra taken
  obtain ⟨record, stored⟩ := Option.ne_none_iff_exists'.mp taken
  exact finds.none_matches stored (found record stored).1 (found record stored).2

theorem Finds.base_matched (finds : store.Finds base .base filter names entries)
    (nonempty : entries ≠ []) : ∃ record, store base = some record ∧ filter.Matches record := by
  obtain ⟨entry, listed⟩ := List.exists_mem_of_ne_nil entries nonempty
  obtain ⟨record, stored, covered, matched, -⟩ := finds.found entry listed
  obtain rfl : entry.name = base := covered
  exact ⟨record, stored, matched⟩

theorem Finds.base_taken (finds : store.Finds base .base filter names entries)
    (nonempty : entries ≠ []) : store base ≠ none := by
  obtain ⟨record, stored, -⟩ := finds.base_matched nonempty
  rw [stored]
  exact Option.some_ne_none record

theorem Finds.eq_singleton (finds : store.Finds base scope filter names entries)
    (stored : store name = some record) (covered : scope.Covers base name)
    (matched : filter.Matches record)
    (only : ∀ other record, store other = some record → scope.Covers base other →
      filter.Matches record → other = name) :
    ∃ entry, entries = [entry] ∧ entry.name = name ∧ Shows record names entry := by
  obtain ⟨entry, member, named⟩ := finds.complete name record stored covered matched
  have same (other : Entry) (listed : other ∈ entries) : other.name = name := by
    obtain ⟨otherRecord, otherStored, otherCovered, otherMatched, -⟩ := finds.found other listed
    exact only other.name otherRecord otherStored otherCovered otherMatched
  have shown : Shows record names entry := by
    obtain ⟨own, ownStored, -, -, shown⟩ := finds.found entry member
    rw [named, stored] at ownStored
    exact Option.some.inj ownStored ▸ shown
  -- All entries found have this name, and no two entries have the same name.
  have alone : entries.map Entry.name = [name] := by
    have repeated : entries.map Entry.name = List.replicate entries.length name := by
      refine List.eq_replicate_iff.mpr ⟨List.length_map _, fun other listed => ?_⟩
      obtain ⟨found, foundListed, rfl⟩ := List.mem_map.mp listed
      exact same found foundListed
    have single : entries.length ≤ 1 :=
      List.nodup_replicate.mp (repeated ▸ finds.distinct)
    have some : 0 < entries.length := List.length_pos_of_mem member
    rw [repeated, Nat.le_antisymm single some]
    rfl
  obtain ⟨found, only, -⟩ := List.map_eq_singleton_iff.mp alone
  rw [only, List.mem_singleton] at member
  exact ⟨entry, by rw [only, member], named, shown⟩

end Searches

def Replies (store : Store) : (request : Call) → request.Reply → Prop
  | .search base scope filter names, entries => store.Finds base scope filter names entries
  | _, _ => True

/-- A call is carried out if the store admits it, and is refused otherwise. With `failing`, any call
may fail as well. What fails changes nothing. -/
def answering (failing : Prop) : CallRule Store := fun before request answer after =>
  match answer with
  | .ok reply => before.Replies request reply ∧ before.write request = some after
  | .error _ => (failing ∨ before.write request = none) ∧ after = before

section Writes

variable {before after : Store} {name leaf : String} {attributes : Attributes}
  {changes : List Change} {record changed : Record}

theorem write_add_iff : before.write (.add name attributes) = some after ↔
    before name = none ∧ after = update before name (some (Record.ofAttributes attributes)) := by
  cases stored : before name <;> simp [write, stored, eq_comm]

theorem write_modify_iff : before.write (.modify name changes) = some after ↔
    ∃ record, before name = some record ∧ ∃ changed,
      changes.foldlM Record.change record = some changed ∧
        after = update before name (some changed) := by
  simp only [write, Option.bind_eq_bind, Option.bind_eq_some_iff, Option.some.injEq,
    @eq_comm _ after]

theorem write_rename_iff : before.write (.rename name leaf) = some after ↔
    ∃ record, before name = some record ∧
      (update before name none) (movedName name leaf) = none ∧
      after = update (update before name none) (movedName name leaf)
        (some (record.renamed (readComponent? ((split? name).map Prod.fst |>.getD name))
          (readComponent? leaf))) := by
  cases stored : before name with
  | none => simp [write, stored]
  | some record =>
      cases moved : (update before name none) (movedName name leaf) <;>
        simp [write, stored, moved, eq_comm]

theorem write_delete_iff : before.write (.delete name) = some after ↔
    before name ≠ none ∧ after = update before name none := by
  cases stored : before name <;> simp [write, stored, eq_comm]

theorem write_add (free : before name = none) :
    before.write (.add name attributes) =
      some (update before name (some (Record.ofAttributes attributes))) :=
  write_add_iff.mpr ⟨free, rfl⟩

theorem write_add_taken (taken : before name ≠ none) :
    before.write (.add name attributes) = none := by
  obtain ⟨record, stored⟩ := Option.ne_none_iff_exists'.mp taken
  simp [write, stored]

theorem write_modify (stored : before name = some record)
    (made : changes.foldlM Record.change record = some changed) :
    before.write (.modify name changes) = some (update before name (some changed)) :=
  write_modify_iff.mpr ⟨record, stored, changed, made, rfl⟩

theorem write_replace (stored : before name = some record)
    (replaces : ∀ change ∈ changes, change.kind = .replace) :
    before.write (.modify name changes) =
      some (update before name (some (record.replaced changes))) :=
  write_modify stored (Record.changes_replaced replaces)

theorem write_rename (stored : before name = some record)
    (free : (update before name none) (movedName name leaf) = none) :
    before.write (.rename name leaf) =
      some (update (update before name none) (movedName name leaf)
        (some (record.renamed (readComponent? ((split? name).map Prod.fst |>.getD name))
          (readComponent? leaf)))) :=
  write_rename_iff.mpr ⟨record, stored, free, rfl⟩

theorem write_delete (stored : before name = some record) :
    before.write (.delete name) = some (update before name none) :=
  write_delete_iff.mpr ⟨by simp [stored], rfl⟩

end Writes

end Store

end TeacherDirectory
