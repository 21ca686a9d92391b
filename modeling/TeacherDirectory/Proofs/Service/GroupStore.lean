import Mathlib.Data.Finset.Basic
import TeacherDirectory.Proofs.Service.Names
import TeacherDirectory.Service.Group

/-!
# Groups in a directory

The groups of all schools together are a map from schools to finite sets of members; a school
without a group has none. A directory represents the map if each school has at most one group, no
group belongs to two schools, and members are listed without repetition. Here is what the writes to
groups do to the map, and that the other writes leave it alone.
-/

namespace TeacherDirectory.Service

set_option autoImplicit false

open Function (update)

abbrev Memberships := String → Finset String

structure IsGroup (base : String) (store : Store) (schoolCode name : String) (record : Record) :
    Prop where
  stored : store name = some record
  inside : Within base name
  matched : (groupFilter (groupId schoolCode)).Matches record

def OneGroup (base schoolCode : String) (store : Store) : Prop :=
  ∀ {name other record content}, IsGroup base store schoolCode name record →
    IsGroup base store schoolCode other content → name = other

/-- A store that represents the members of all schools. -/
structure Represents (base : String) (store : Store) (map : Memberships) : Prop where
  members : ∀ {schoolCode name record}, IsGroup base store schoolCode name record →
    (record "member").toFinset = map schoolCode
  filled : ∀ {schoolCode name record}, IsGroup base store schoolCode name record →
    record "member" ≠ []
  distinct : ∀ {schoolCode name record}, IsGroup base store schoolCode name record →
    (record "member").Nodup
  single : ∀ {schoolCode name other record otherRecord},
    IsGroup base store schoolCode name record →
      IsGroup base store schoolCode other otherRecord → name = other
  own : ∀ {schoolCode otherSchool name record}, IsGroup base store schoolCode name record →
    IsGroup base store otherSchool name record → schoolCode = otherSchool
  absent : ∀ {schoolCode}, (∀ name record, ¬IsGroup base store schoolCode name record) →
    map schoolCode = ∅

variable {base schoolCode otherSchool group name : String} {store before after : Store}
  {record otherRecord : Record} {map : Memberships}

theorem group_matches :
    (groupFilter (groupId schoolCode)).Matches record ↔
      "groupOfNames" ∈ record "objectclass" ∧ groupId schoolCode ∈ record "cn" := by
  have folded : Entry.key "objectclass" = "objectclass" ∧ Entry.key "cn" = "cn" := by
    decide +kernel
  have matched : (groupFilter (groupId schoolCode)).Matches record ↔
      "groupOfNames" ∈ record (Entry.key "objectclass") ∧
        groupId schoolCode ∈ record (Entry.key "cn") :=
    Filter.matches_all_two (by decide +kernel) (by decide +kernel) record
  rwa [folded.1, folded.2] at matched

theorem is_group_set {content : Option Record} :
    IsGroup base (update store name content) schoolCode group record ↔
      (group = name ∧ content = some record ∧ Within base name ∧
        (groupFilter (groupId schoolCode)).Matches record) ∨
        (group ≠ name ∧ IsGroup base store schoolCode group record) := by
  constructor
  · intro given
    rcases given with ⟨stored, inside, matched⟩
    by_cases same : group = name
    · subst same
      rw [Function.update_self] at stored
      exact .inl ⟨rfl, stored, inside, matched⟩
    · rw [Function.update_of_ne same] at stored
      exact .inr ⟨same, stored, inside, matched⟩
  · intro cause
    rcases cause with ⟨rfl, replaced, inside, matched⟩ | ⟨different, stored, inside, matched⟩
    · exact ⟨(Function.update_self group content store).trans replaced, inside, matched⟩
    · exact ⟨(Function.update_of_ne different content store).trans stored, inside, matched⟩

theorem IsGroup.name_ne (isGroup : IsGroup base store schoolCode group record)
    (free : store name = none) : group ≠ name := by
  intro same
  subst same
  have stored := isGroup.stored
  rw [free] at stored
  cases stored

theorem is_group_new {content : Record} (free : store name = none)
    (noGroup : ¬(groupFilter (groupId schoolCode)).Matches content) :
    IsGroup base (update store name (some content)) schoolCode group record ↔
      IsGroup base store schoolCode group record := by
  rw [is_group_set]
  constructor
  · intro cause
    rcases cause with ⟨-, same, -, matched⟩ | ⟨-, isGroup⟩
    · rw [← Option.some.inj same] at matched
      exact (noGroup matched).elim
    · exact isGroup
  · intro isGroup
    exact .inr ⟨isGroup.name_ne free, isGroup⟩

theorem group_found {entries : List Entry}
    (finds : store.Finds base .subtree (groupFilter (groupId schoolCode)) ["member"] entries)
    (holds : Option Entry → Prop)
    (present : ∀ entry record, IsGroup base store schoolCode entry.name record →
      entry.values "member" = record "member" → holds (some entry))
    (absent : (∀ name record, ¬IsGroup base store schoolCode name record) → holds none) :
    holds entries.head? := by
  cases entries with
  | nil =>
      exact absent fun name record isGroup =>
        finds.none_matches isGroup.stored isGroup.inside isGroup.matched
  | cons entry rest =>
      obtain ⟨record, stored, covered, matched, shown⟩ := finds.found entry List.mem_cons_self
      exact present entry record ⟨stored, covered, matched⟩ shown.members

theorem group_matches_members {values : List String} :
    (groupFilter (groupId schoolCode)).Matches (update record "member" values) ↔
      (groupFilter (groupId schoolCode)).Matches record := by
  rw [group_matches, group_matches, Function.update_of_ne (by decide),
    Function.update_of_ne (by decide)]

theorem Represents.congr (represents : Represents base before map)
    (same : ∀ {schoolCode name record}, IsGroup base after schoolCode name record ↔
      IsGroup base before schoolCode name record) : Represents base after map where
  members := fun isGroup => represents.members (same.mp isGroup)
  filled := fun isGroup => represents.filled (same.mp isGroup)
  distinct := fun isGroup => represents.distinct (same.mp isGroup)
  single := fun isGroup other => represents.single (same.mp isGroup) (same.mp other)
  own := fun isGroup other => represents.own (same.mp isGroup) (same.mp other)
  absent := fun none => represents.absent fun name record isGroup =>
    none name record (same.mpr isGroup)

theorem Represents.mem_iff (represents : Represents base store map)
    (isGroup : IsGroup base store schoolCode group record) {member : String} :
    member ∈ map schoolCode ↔ member ∈ record "member" := by
  rw [← represents.members isGroup, List.mem_toFinset]

theorem Represents.exists_group (represents : Represents base store map) :
    map schoolCode ≠ ∅ ↔ ∃ name record, IsGroup base store schoolCode name record := by
  constructor
  · intro nonempty
    by_contra none
    push Not at none
    exact nonempty (represents.absent none)
  · intro given empty
    rcases given with ⟨name, record, isGroup⟩
    obtain ⟨member, listed⟩ := List.exists_mem_of_ne_nil _ (represents.filled isGroup)
    have inMap := (represents.mem_iff isGroup).mpr listed
    rw [empty] at inMap
    exact Finset.notMem_empty member inMap

/-- A store whose groups have members, each of them once, and in which no school has two groups and
no group two schools. One entry that is the group of two schools would let a request for one school
change the members of the other, so no map from schools to members could follow it. -/
structure Sound (base : String) (store : Store) : Prop where
  filled : ∀ {schoolCode name record}, IsGroup base store schoolCode name record →
    record "member" ≠ []
  distinct : ∀ {schoolCode name record}, IsGroup base store schoolCode name record →
    (record "member").Nodup
  single : ∀ {schoolCode name other record otherRecord},
    IsGroup base store schoolCode name record →
      IsGroup base store schoolCode other otherRecord → name = other
  own : ∀ {schoolCode otherSchool name record}, IsGroup base store schoolCode name record →
    IsGroup base store otherSchool name record → schoolCode = otherSchool

open Classical in
theorem Sound.represents (sound : Sound base store) : ∃ map, Represents base store map := by
  refine ⟨fun schoolCode =>
    if found : ∃ record name, IsGroup base store schoolCode name record
    then (found.choose "member").toFinset else ∅, ?_⟩
  refine ⟨fun {schoolCode name record} isGroup => ?_, sound.filled, sound.distinct, sound.single,
    sound.own, fun {schoolCode} none => ?_⟩
  · have found : ∃ record name, IsGroup base store schoolCode name record := ⟨record, name, isGroup⟩
    rcases found.choose_spec with ⟨other, chosen⟩
    obtain rfl := sound.single isGroup chosen
    have same := Option.some.inj (isGroup.stored.symm.trans chosen.stored)
    rw [dif_pos found, ← same]
  · apply dif_neg
    intro given
    rcases given with ⟨record, name, isGroup⟩
    exact none name record isGroup

structure IsGroupRecord (schoolCode : String) (record : Record) (members : Finset String) :
    Prop where
  belongs : ∀ otherSchool, (groupFilter (groupId otherSchool)).Matches record ↔
    otherSchool = schoolCode
  filled : record "member" ≠ []
  distinct : (record "member").Nodup
  members : (record "member").toFinset = members

/-- After the group of one school was replaced, created or removed, the groups are this one, if there
is one, and those of other schools. -/
theorem is_group_replaced {content : Option Record} {members : Finset String}
    (inside : Within base group)
    (only : ∀ {name record}, IsGroup base store schoolCode name record → name = group)
    (apart : ∀ {otherSchool name record}, otherSchool ≠ schoolCode →
      IsGroup base store otherSchool name record → name ≠ group)
    (present : ∀ record, content = some record → IsGroupRecord schoolCode record members) :
    IsGroup base (update store group content) otherSchool name record ↔
      (otherSchool = schoolCode ∧ name = group ∧ content = some record) ∨
        (otherSchool ≠ schoolCode ∧ IsGroup base store otherSchool name record) := by
  rw [is_group_set]
  constructor
  · intro cause
    rcases cause with ⟨rfl, replaced, -, matched⟩ | ⟨different, other⟩
    · exact .inl ⟨((present record replaced).belongs otherSchool).mp matched, rfl, replaced⟩
    · refine .inr ⟨?_, other⟩
      intro equal
      subst equal
      exact different (only other)
  · intro cause
    rcases cause with ⟨rfl, rfl, replaced⟩ | ⟨different, other⟩
    · exact .inl ⟨rfl, replaced, inside, ((present record replaced).belongs otherSchool).mpr rfl⟩
    · exact .inr ⟨apart different other, other⟩

theorem Represents.with_group (represents : Represents base store map) {content : Option Record}
    {members : Finset String} (inside : Within base group)
    (only : ∀ {name record}, IsGroup base store schoolCode name record → name = group)
    (apart : ∀ {otherSchool name record}, otherSchool ≠ schoolCode →
      IsGroup base store otherSchool name record → name ≠ group)
    (present : ∀ record, content = some record → IsGroupRecord schoolCode record members)
    (removed : content = none → members = ∅) :
    Represents base (update store group content) (update map schoolCode members) := by
  have groups {otherSchool name : String} {record : Record} :=
    @is_group_replaced base schoolCode otherSchool group name store record content members inside
      only apart present
  exact {
    members := fun found => by
      obtain ⟨rfl, -, replaced⟩ | ⟨different, other⟩ := groups.mp found
      · rw [Function.update_self, (present _ replaced).members]
      · rw [Function.update_of_ne different, represents.members other]
    filled := fun found => by
      obtain ⟨-, -, replaced⟩ | ⟨-, other⟩ := groups.mp found
      · exact (present _ replaced).filled
      · exact represents.filled other
    distinct := fun found => by
      obtain ⟨-, -, replaced⟩ | ⟨-, other⟩ := groups.mp found
      · exact (present _ replaced).distinct
      · exact represents.distinct other
    single := fun found foundOther => by
      obtain ⟨same, rfl, -⟩ | ⟨different, one⟩ := groups.mp found
      · obtain ⟨-, rfl, -⟩ | ⟨otherDifferent, -⟩ := groups.mp foundOther
        · rfl
        · exact (otherDifferent same).elim
      · obtain ⟨same, -, -⟩ | ⟨-, other⟩ := groups.mp foundOther
        · exact (different same).elim
        · exact represents.single one other
    own := fun found foundOther => by
      obtain ⟨rfl, named, -⟩ | ⟨different, one⟩ := groups.mp found
      · obtain ⟨same, -, -⟩ | ⟨otherDifferent, other⟩ := groups.mp foundOther
        · exact same.symm
        · exact (apart otherDifferent other named).elim
      · obtain ⟨rfl, named, -⟩ | ⟨-, other⟩ := groups.mp foundOther
        · exact (apart different one named).elim
        · exact represents.own one other
    absent := fun {otherSchool} none => by
      by_cases same : otherSchool = schoolCode
      · subst same
        rw [Function.update_self]
        apply removed
        apply Option.eq_none_iff_forall_ne_some.mpr
        intro record replaced
        exact none group record (groups.mpr (.inl ⟨rfl, rfl, replaced⟩))
      · rw [Function.update_of_ne same]
        exact represents.absent fun name record other =>
          none name record (groups.mpr (.inr ⟨same, other⟩)) }

theorem Represents.apart (represents : Represents base store map)
    (isGroup : IsGroup base store schoolCode group record) (different : otherSchool ≠ schoolCode)
    (other : IsGroup base store otherSchool name otherRecord) : name ≠ group := by
  intro same
  subst same
  obtain rfl := Option.some.inj (isGroup.stored.symm.trans other.stored)
  exact different (represents.own other isGroup)

theorem Represents.setMembers (represents : Represents base store map)
    (isGroup : IsGroup base store schoolCode group record) {values : List String}
    (nonempty : values ≠ []) (distinct : values.Nodup) :
    Represents base (update store group (some (update record "member" values)))
      (update map schoolCode values.toFinset) := by
  refine represents.with_group isGroup.inside (fun other => represents.single other isGroup)
    (represents.apart isGroup) ?_ nofun
  intro _ given
  cases given
  refine ⟨fun otherSchool => ?_, ?_, ?_, ?_⟩
  · rw [group_matches_members]
    constructor
    · exact fun matched => represents.own ⟨isGroup.stored, isGroup.inside, matched⟩ isGroup
    · intro same
      subst same
      exact isGroup.matched
  all_goals rw [Function.update_self]
  · exact nonempty
  · exact distinct

theorem Represents.removeGroup (represents : Represents base store map)
    (isGroup : IsGroup base store schoolCode group record) :
    Represents base (update store group none) (update map schoolCode ∅) :=
  represents.with_group isGroup.inside (fun other => represents.single other isGroup)
    (represents.apart isGroup) nofun fun _ => rfl

theorem add_member {person : String} (unlisted : person ∉ record "member") :
    [Change.add "member" [person]].foldlM Record.change record =
      some (update record "member" (record "member" ++ [person])) := by
  simp [Record.change, Change.add, Entry.key_member, unlisted]

theorem delete_member {person : String} (listed : person ∈ record "member") :
    [Change.delete "member" [person]].foldlM Record.change record =
      some (update record "member" ((record "member").filter (· ≠ person))) := by
  simp [Record.change, Change.delete, Entry.key_member, listed]

theorem replace_members {members : List String} :
    [Change.replace "member" members].foldlM Record.change record =
      some (update record "member" members) := by
  simp [Record.change, Change.replace, Entry.key_member]

def groupRecord (schoolCode member : String) : Record :=
  Record.ofAttributes
    [("objectclass", ["groupOfNames"]), ("cn", [groupId schoolCode]), ("member", [member])]

theorem group_record_values {member : String} :
    groupRecord schoolCode member "objectclass" = ["groupOfNames"] ∧
      groupRecord schoolCode member "cn" = [groupId schoolCode] ∧
      groupRecord schoolCode member "member" = [member] := by
  have folded : Entry.key "objectclass" = "objectclass" ∧ Entry.key "cn" = "cn" := by
    decide +kernel
  simp [groupRecord, Record.ofAttributes, folded, Entry.key_member]

theorem group_record_matches {member : String} :
    (groupFilter (groupId otherSchool)).Matches (groupRecord schoolCode member) ↔
      otherSchool = schoolCode := by
  obtain ⟨class_, named, -⟩ := @group_record_values schoolCode member
  rw [group_matches, class_, named]
  constructor
  · intro given
    rcases given with ⟨-, same⟩
    exact group_id_injective (List.mem_singleton.mp same)
  · intro equal
    subst equal
    exact ⟨List.mem_singleton.mpr rfl, List.mem_singleton.mpr rfl⟩

theorem Represents.createGroup (represents : Represents base store map) {member : String}
    (inside : Within base name) (free : store name = none)
    (noGroup : ∀ group record, ¬IsGroup base store schoolCode group record) :
    Represents base (update store name (some (groupRecord schoolCode member)))
      (update map schoolCode {member}) := by
  have listed : groupRecord schoolCode member "member" = [member] := group_record_values.2.2
  refine represents.with_group inside (fun other => (noGroup _ _ other).elim)
    (fun _ other => other.name_ne free) ?_ nofun
  intro _ given
  cases given
  refine ⟨fun otherSchool => group_record_matches, ?_, ?_, ?_⟩
  all_goals rw [listed]
  · exact List.cons_ne_nil member []
  · exact List.nodup_singleton member
  · rw [List.toFinset_cons, List.toFinset_nil, insert_empty_eq]

def unitRecord (schoolCode : String) : Record :=
  Record.ofAttributes [("objectclass", ["organizationalUnit"]), ("ou", [schoolCode])]

theorem unit_record_class : unitRecord schoolCode "objectclass" = ["organizationalUnit"] := by
  have folded : Entry.key "objectclass" = "objectclass" ∧ Entry.key "ou" = "ou" := by
    decide +kernel
  simp [unitRecord, Record.ofAttributes, folded]

/-- The store with a unit of a school; what has the name of the unit stays. -/
def withUnit (service : Service) (schoolCode : String) (store : Store) : Store :=
  update store (service.schoolName schoolCode)
    (some ((store (service.schoolName schoolCode)).getD (unitRecord schoolCode)))

section Units

variable {service : Service}

theorem with_unit_taken (taken : store (service.schoolName schoolCode) ≠ none) :
    service.withUnit schoolCode store = store := by
  obtain ⟨record, stored⟩ := Option.ne_none_iff_exists'.mp taken
  unfold withUnit
  rw [stored, Option.getD_some, ← stored, Function.update_eq_self]

theorem with_unit_free (free : store (service.schoolName schoolCode) = none) :
    service.withUnit schoolCode store =
      update store (service.schoolName schoolCode) (some (unitRecord schoolCode)) := by
  unfold withUnit
  rw [free, Option.getD_none]

theorem with_unit_other (different : name ≠ service.schoolName schoolCode) :
    service.withUnit schoolCode store name = store name :=
  Function.update_of_ne different _ store

theorem with_unit_present :
    service.withUnit schoolCode store (service.schoolName schoolCode) ≠ none := by
  unfold withUnit
  rw [Function.update_self]
  exact Option.some_ne_none _

theorem with_unit_twice :
    service.withUnit schoolCode (service.withUnit schoolCode store) =
      service.withUnit schoolCode store := with_unit_taken with_unit_present

theorem with_unit_is_group :
    IsGroup base (service.withUnit schoolCode store) otherSchool name record ↔
      IsGroup base store otherSchool name record := by
  by_cases free : store (service.schoolName schoolCode) = none
  · rw [with_unit_free free]
    apply is_group_new free
    intro matched
    have class_ := (group_matches.mp matched).1
    rw [unit_record_class] at class_
    simp at class_
  · rw [with_unit_taken free]

def UnitAdded (service : Service) (schoolCode : String) (before after : Store) : Prop :=
  after = before ∨ after = service.withUnit schoolCode before

theorem UnitAdded.with_unit (added : UnitAdded service schoolCode before after) :
    service.withUnit schoolCode after = service.withUnit schoolCode before := by
  rcases added with rfl | rfl
  · rfl
  · exact with_unit_twice

theorem UnitAdded.trans {between : Store} (first : UnitAdded service schoolCode before between)
    (second : UnitAdded service schoolCode between after) :
    UnitAdded service schoolCode before after := by
  rcases second with rfl | rfl
  · exact first
  · exact .inr first.with_unit

theorem UnitAdded.is_group (added : UnitAdded service schoolCode before after) :
    IsGroup base after otherSchool name record ↔ IsGroup base before otherSchool name record := by
  rcases added with rfl | rfl
  · exact Iff.rfl
  · exact with_unit_is_group

end Units

end TeacherDirectory.Service
