import Mathlib.Data.List.Basic
import Mathlib.Data.List.Dedup
import TeacherDirectory.Proofs.Directory.Store

/-!
# A directory that answers every call

A catalogue is a store with finitely many entries and attributes. Every call that a store admits
leads to a catalogue again, and every search of a catalogue has a finite answer. So there is a
world that obeys the rules of a reference directory from every catalogue on, and no call of it
fails without a reason.
-/

namespace TeacherDirectory

set_option autoImplicit false

open Function (update)

namespace Record

/-- All attributes of a record that have values are among some keys. -/
def KeyedBy (keys : List String) (record : Record) : Prop := ∀ key, record key ≠ [] → key ∈ keys

variable {keys : List String} {record changed : Record}

theorem KeyedBy.weaken {more : List String} (inside : record.KeyedBy keys) (included : keys ⊆ more) :
    record.KeyedBy more :=
  fun key filled => included (inside key filled)

theorem KeyedBy.updated (inside : record.KeyedBy keys) (key : String) (values : List String) :
    KeyedBy (key :: keys) (update record key values) := by
  intro other filled
  by_cases same : other = key
  · exact List.mem_cons.mpr (.inl same)
  · rw [Function.update_of_ne same] at filled
    exact List.mem_cons_of_mem key (inside other filled)

theorem keyed_by_attributes (attributes : Attributes) :
    (ofAttributes attributes).KeyedBy (attributes.map fun (name, _) => Entry.key name) := by
  intro key filled
  obtain ⟨value, member⟩ := List.exists_mem_of_ne_nil _ filled
  obtain ⟨pair, chosen, -⟩ := List.mem_flatMap.mp member
  obtain ⟨present, named⟩ := List.mem_filter.mp chosen
  exact List.mem_map.mpr ⟨pair, present, of_decide_eq_true named⟩

theorem KeyedBy.change (inside : record.KeyedBy keys) {change : Change}
    (made : record.change change = some changed) :
    changed.KeyedBy (Entry.key change.name :: keys) := by
  unfold Record.change at made
  dsimp only at made
  split at made
  · split at made
    · cases made
    · obtain rfl := Option.some.inj made
      exact inside.updated _ _
  · split at made
    · obtain rfl := Option.some.inj made
      exact inside.updated _ _
    · cases made
  · obtain rfl := Option.some.inj made
    exact inside.updated _ _

theorem KeyedBy.changes (inside : record.KeyedBy keys) {changes : List Change}
    (made : changes.foldlM Record.change record = some changed) :
    ∃ more, changed.KeyedBy more := by
  induction changes generalizing record keys with
  | nil => exact ⟨keys, Option.some.inj made ▸ inside⟩
  | cons change rest induction =>
      rw [List.foldlM_cons, Option.bind_eq_bind, Option.bind_eq_some_iff] at made
      rcases made with ⟨between, first, others⟩
      exact induction (inside.change first) others

theorem KeyedBy.renamed (inside : record.KeyedBy keys) (oldLeaf newLeaf : Option (String × String)) :
    ∃ more, (record.renamed oldLeaf newLeaf).KeyedBy more := by
  cases oldLeaf with
  | none =>
      cases newLeaf with
      | none => exact ⟨keys, inside⟩
      | some leaf => exact ⟨_, inside.updated _ _⟩
  | some leaf =>
      cases newLeaf with
      | none => exact ⟨_, inside.updated _ _⟩
      | some other => exact ⟨_, (inside.updated _ _).updated _ _⟩

end Record

/-- A store with finitely many entries, which have finitely many attributes. -/
structure Catalogue where
  store : Store
  names : List String
  keys : List String
  distinct : names.Nodup
  listed : ∀ name record, store name = some record → name ∈ names ∧ record.KeyedBy keys

namespace Catalogue

def empty : Catalogue := ⟨fun _ => none, [], [], .nil, nofun⟩

variable {request : Call} {after : Store}

theorem exists_removed (catalogue : Catalogue) (name : String) :
    ∃ later : Catalogue, later.store = update catalogue.store name none := by
  refine ⟨⟨update catalogue.store name none, catalogue.names, catalogue.keys, catalogue.distinct,
    fun other record stored => ?_⟩, rfl⟩
  by_cases same : other = name
  · rw [same, Function.update_self] at stored
    cases stored
  · rw [Function.update_of_ne same] at stored
    exact catalogue.listed other record stored

def put (catalogue : Catalogue) (name : String) {keys : List String} {record : Record}
    (inside : record.KeyedBy keys) : Catalogue where
  store := update catalogue.store name (some record)
  names := (name :: catalogue.names).dedup
  keys := keys ++ catalogue.keys
  distinct := List.nodup_dedup _
  listed := fun other found stored => by
    rw [List.mem_dedup]
    by_cases same : other = name
    · rw [same, Function.update_self] at stored
      obtain rfl := Option.some.inj stored
      exact ⟨List.mem_cons.mpr (.inl same), inside.weaken (List.subset_append_left _ _)⟩
    · rw [Function.update_of_ne same] at stored
      obtain ⟨member, within⟩ := catalogue.listed other found stored
      exact ⟨List.mem_cons_of_mem name member, within.weaken (List.subset_append_right _ _)⟩

theorem exists_set (catalogue : Catalogue) (name : String) {keys : List String} {record : Record}
    (inside : record.KeyedBy keys) :
    ∃ later : Catalogue, later.store = update catalogue.store name (some record) :=
  ⟨catalogue.put name inside, rfl⟩

/-- Every call that the store admits leads to a catalogue again. -/
theorem exists_written (catalogue : Catalogue)
    (written : catalogue.store.write request = some after) :
    ∃ later : Catalogue, later.store = after := by
  cases request with
  | add name attributes =>
      obtain ⟨-, rfl⟩ := Store.write_add_iff.mp written
      exact catalogue.exists_set name (Record.keyed_by_attributes attributes)
  | modify name changes =>
      obtain ⟨record, stored, _, made, rfl⟩ := Store.write_modify_iff.mp written
      obtain ⟨keys, inside⟩ := (catalogue.listed name record stored).2.changes made
      exact catalogue.exists_set name inside
  | rename name leaf =>
      obtain ⟨record, stored, -, rfl⟩ := Store.write_rename_iff.mp written
      obtain ⟨removed, same⟩ := catalogue.exists_removed name
      obtain ⟨keys, inside⟩ := (catalogue.listed name record stored).2.renamed _ _
      rw [← same]
      exact removed.exists_set _ inside
  | delete name =>
      obtain ⟨-, rfl⟩ := Store.write_delete_iff.mp written
      exact catalogue.exists_removed name
  | connect => exact ⟨catalogue, Option.some.inj written⟩
  | bind name password => exact ⟨catalogue, Option.some.inj written⟩
  | search base scope filter names => exact ⟨catalogue, Option.some.inj written⟩

def entry (catalogue : Catalogue) (name : String) : Entry where
  name := name
  attributes := catalogue.keys.map fun key =>
    (key, .textList (((catalogue.store name).map (· key)).getD []))

theorem entry_shows (catalogue : Catalogue) {name : String} {record : Record} (names : List String)
    (stored : catalogue.store name = some record) :
    Store.Shows record names (catalogue.entry name) := by
  intro type _
  unfold Entry.values Entry.get entry
  by_cases member : Entry.key type ∈ catalogue.keys
  · rw [List.lookup_graph _ member, stored]
    rfl
  · have empty : record (Entry.key type) = [] :=
      not_not.mp (mt ((catalogue.listed name record stored).2 _) member)
    have unknown : ∀ pair ∈ catalogue.keys.map fun key => (key, AttributeValue.textList
        (((catalogue.store name).map (· key)).getD [])), (Entry.key type != pair.1) = true := by
      intro pair chosen
      obtain ⟨key, known, rfl⟩ := List.mem_map.mp chosen
      exact bne_iff_ne.mpr fun same => member (same ▸ known)
    rw [List.lookup_eq_none_iff.mpr unknown, empty]
    rfl

open Classical in
noncomputable def find (catalogue : Catalogue) (base : String) (scope : SearchScope)
    (filter : Filter String) : List Entry :=
  (catalogue.names.filter fun name => ∃ record, catalogue.store name = some record ∧
    scope.Covers base name ∧ filter.Matches record).map catalogue.entry

open Classical in
theorem find_finds (catalogue : Catalogue) (base : String) (scope : SearchScope)
    (filter : Filter String) (names : List String) :
    catalogue.store.Finds base scope filter names (catalogue.find base scope filter) where
  distinct := by
    have same : Entry.name ∘ catalogue.entry = id := rfl
    rw [find, List.map_map, same, List.map_id]
    exact catalogue.distinct.filter _
  found := fun entry member => by
    obtain ⟨name, chosen, rfl⟩ := List.mem_map.mp member
    obtain ⟨record, stored, covered, matched⟩ := of_decide_eq_true (List.mem_filter.mp chosen).2
    exact ⟨record, stored, covered, matched, catalogue.entry_shows names stored⟩
  complete := fun name record stored covered matched => by
    have listed := (catalogue.listed name record stored).1
    refine ⟨catalogue.entry name, List.mem_map_of_mem (List.mem_filter.mpr ⟨listed, ?_⟩), rfl⟩
    exact decide_eq_true ⟨record, stored, covered, matched⟩

noncomputable def reply (catalogue : Catalogue) : (request : Call) → request.Reply
  | .search base scope filter _ => catalogue.find base scope filter
  | .connect => ()
  | .bind .. => ()
  | .add .. => ()
  | .modify .. => ()
  | .rename .. => ()
  | .delete .. => ()

theorem replies (catalogue : Catalogue) :
    catalogue.store.Replies request (catalogue.reply request) := by
  cases request with
  | search base scope filter names => exact catalogue.find_finds base scope filter names
  | _ => trivial

open Classical in
noncomputable def answer (catalogue : Catalogue) (request : Call) : request.Answer × Catalogue :=
  if admitted : ∃ later : Catalogue, catalogue.store.write request = some later.store
  then (.ok (catalogue.reply request), admitted.choose)
  else (.error (.rejected 53 "unwilling to perform"), catalogue)

noncomputable def world : World Catalogue :=
  .ofCalls fun request catalogue => catalogue.answer request

theorem answer_permitted (failing : Prop) (catalogue : Catalogue) :
    Store.answering failing catalogue.store request (catalogue.answer request).1
      (catalogue.answer request).2.store := by
  unfold answer
  split
  case isTrue admitted => exact ⟨catalogue.replies, admitted.choose_spec⟩
  case isFalse refused =>
    refine ⟨.inr (Option.eq_none_iff_forall_ne_some.mpr fun after written => ?_), rfl⟩
    obtain ⟨later, rfl⟩ := catalogue.exists_written written
    exact refused ⟨later, written⟩

/-- The rules of a reference directory can be obeyed, with failing calls or without. -/
theorem world_obeys (failing : Prop) : world.Obeys (Store.answering failing) Catalogue.store :=
  World.of_calls_obeys fun _ catalogue => catalogue.answer_permitted failing

end Catalogue

end TeacherDirectory
