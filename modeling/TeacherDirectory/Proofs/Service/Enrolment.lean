import TeacherDirectory.Proofs.Service.GroupWrites
import TeacherDirectory.Proofs.Service.Usernames
import TeacherDirectory.Service.Teacher

/-!
# A teacher in a directory

While a teacher is employed, the directory differs from what it was before in two entries: that of
the teacher and that of the school's group. Here are these stores, what searches find in them, and
how they turn into one another when the teacher is renamed, leaves the group and is deleted. The
values of the names play no part in it.
-/

namespace TeacherDirectory.Service

set_option autoImplicit false

open DistinguishedName
open Function (update)

structure Unknown (service : Service) (realm : Realm) (username : String) (store : Store) :
    Prop where
  unnamed : ∀ name record, store name = some record → Within service.base name →
    username ∉ record "uid"
  unlisted : ∀ name record, store name = some record → Within service.base name →
    service.teacherName username realm ∉ record "member"
  free : store (service.teacherName username realm) = none

/-- A store in which a school has at most one group, with members, and in which no other entries
have the names of its unit and its group. -/
structure SchoolReady (service : Service) (schoolCode : String) (store : Store) : Prop where
  filled : ∀ {name record}, IsGroup service.base store schoolCode name record →
    record "member" ≠ []
  single : ∀ {name other record otherRecord},
    IsGroup service.base store schoolCode name record →
      IsGroup service.base store schoolCode other otherRecord → name = other
  unit : UnitReady service schoolCode store
  group : GroupReady service schoolCode store

/-- The record of a teacher lists no members and is no group. -/
structure IsTeacherRecord (username : String) (record : Record) : Prop where
  usernames : record "uid" = [username]
  members : record "member" = []
  class_ : "groupOfNames" ∉ record "objectclass"

structure Employs (service : Service) (realm : Realm) (username : String) (record : Record)
    (store : Store) : Prop where
  stored : store (service.teacherName username realm) = some record
  teacher : IsTeacherRecord username record
  only : ∀ name other, store name = some other → Within service.base name →
    username ∈ other "uid" → name = service.teacherName username realm

/-- The group of a school but for one new member; without members before, there was no group. -/
structure Enrolment (service : Service) (schoolCode : String) (store : Store) (group : String)
    (content : Record) (members : List String) : Prop where
  inside : Within service.base group
  matched : (groupFilter (groupId schoolCode)).Matches content
  restored : store group = if members = [] then none else some (update content "member" members)
  created : members = [] → group = service.groupName schoolCode ∧ content "uid" = []
  only : ∀ name record, IsGroup service.base store schoolCode name record → name = group

def enrolled (store : Store) (teacher : String) (record : Record) (group : String)
    (content : Record) (members : List String) : Store :=
  update (update store teacher (some record)) group (some (update content "member" members))

variable {service : Service} {realm : Realm} {schoolCode username other group name root : String}
  {store after : Store} {record moved content otherRecord : Record} {members listed : List String}

section Units

theorem unit_record_empty :
    unitRecord schoolCode "uid" = [] ∧ unitRecord schoolCode "member" = [] := by
  have folded : Entry.key "objectclass" = "objectclass" ∧ Entry.key "ou" = "ou" := by
    decide +kernel
  simp [unitRecord, Record.ofAttributes, folded]

theorem group_record_unnamed {member : String} : groupRecord schoolCode member "uid" = [] := by
  have folded : Entry.key "objectclass" = "objectclass" ∧ Entry.key "cn" = "cn" := by
    decide +kernel
  simp [groupRecord, Record.ofAttributes, folded, Entry.key_member]

theorem with_unit_stored (stored : service.withUnit schoolCode store name = some record) :
    store name = some record ∨ record = unitRecord schoolCode := by
  by_cases free : store (service.schoolName schoolCode) = none
  · rw [with_unit_free free] at stored
    by_cases same : name = service.schoolName schoolCode
    · rw [same, Function.update_self] at stored
      exact .inr (Option.some.inj stored).symm
    · rw [Function.update_of_ne same] at stored
      exact .inl stored
  · rw [with_unit_taken free] at stored
    exact .inl stored

theorem Unknown.with_unit (unknown : Unknown service realm username store) :
    Unknown service realm username (service.withUnit schoolCode store) where
  unnamed := fun name record stored inside => by
    obtain before | rfl := with_unit_stored stored
    · exact unknown.unnamed name record before inside
    · rw [unit_record_empty.1]
      exact List.not_mem_nil
  unlisted := fun name record stored inside => by
    obtain before | rfl := with_unit_stored stored
    · exact unknown.unlisted name record before inside
    · rw [unit_record_empty.2]
      exact List.not_mem_nil
  free := by rw [with_unit_other teacher_name_ne_school, unknown.free]

end Units

section Teachers

theorem IsTeacherRecord.not_group (teacher : IsTeacherRecord username record) :
    ¬(groupFilter (groupId schoolCode)).Matches record :=
  fun matched => teacher.class_ (group_matches.mp matched).1

theorem IsTeacherRecord.is_group (teacher : IsTeacherRecord username record)
    (free : store name = none) :
    IsGroup service.base (update store name (some record)) schoolCode group content ↔
      IsGroup service.base store schoolCode group content :=
  is_group_new free teacher.not_group

theorem IsTeacherRecord.replace {changes : List Change} (teacher : IsTeacherRecord username record)
    (replaces : ∀ change ∈ changes, change.kind = .replace)
    (others : ∀ change ∈ changes,
      Entry.key change.name ∉ ["uid", "member", "objectclass"]) :
    ∃ changed, changes.foldlM Record.change record = some changed ∧
      IsTeacherRecord username changed := by
  have kept (key : String) (untouched : key ∈ ["uid", "member", "objectclass"]) :
      record.replaced changes key = record key :=
    Record.replaced_other fun change member same => others change member (same ▸ untouched)
  refine ⟨_, Record.changes_replaced replaces, ?_, ?_, ?_⟩
  · rw [kept "uid" (by decide), teacher.usernames]
  · rw [kept "member" (by decide), teacher.members]
  · rw [kept "objectclass" (by decide)]
    exact teacher.class_

theorem IsTeacherRecord.renamed (teacher : IsTeacherRecord username record) :
    IsTeacherRecord other (record.renamed (some ("uid", username)) (some ("uid", other))) := by
  have folded : Entry.key "uid" = "uid" := by decide +kernel
  rw [Record.renamed_single (folded.symm ▸ teacher.usernames), folded]
  refine ⟨Function.update_self _ _ _, ?_, ?_⟩
  · rw [Function.update_of_ne (by decide), teacher.members]
  · rw [Function.update_of_ne (by decide)]
    exact teacher.class_

theorem Employs.identified (employs : Employs service realm username record store) :
    Identified service.base username (service.teacherName username realm) record store where
  stored := employs.stored
  inside := teacher_name_within
  named := employs.teacher.usernames ▸ List.mem_singleton.mpr rfl
  only := employs.only

theorem Identified.employs
    (identified : Identified service.base username (service.teacherName username realm) record store)
    (teacher : IsTeacherRecord username record) : Employs service realm username record store where
  stored := identified.stored
  teacher := teacher
  only := identified.only

theorem Unknown.employs (unknown : Unknown service realm username store)
    (teacher : IsTeacherRecord username record) :
    Employs service realm username record
      (update store (service.teacherName username realm) (some record)) :=
  (Unidentified.identified unknown.unnamed teacher_name_within
    (teacher.usernames ▸ List.mem_singleton.mpr rfl)).employs teacher

theorem Employs.set (employs : Employs service realm username record store)
    (unnamed : username ∉ content "uid") (apart : group ≠ service.teacherName username realm) :
    Employs service realm username record (update store group (some content)) :=
  (employs.identified.beside unnamed apart).employs employs.teacher

theorem Employs.find (employs : Employs service realm username record store) {names : List String}
    {entries : List Entry} (below : Within service.base root)
    (inside : Within root (service.teacherName username realm))
    (finds : store.Finds root .subtree (.byUsername username) names entries) :
    ∃ entry, entries = [entry] ∧ entry.name = service.teacherName username realm ∧
      Store.Shows record names entry :=
  (employs.identified.below below inside).find finds

theorem Unknown.find (unknown : Unknown service realm username store) {names : List String}
    {entries : List Entry} (below : Within service.base root)
    (finds : store.Finds root .subtree (.byUsername username) names entries) : entries = [] :=
  (Unidentified.below unknown.unnamed below).find finds

end Teachers

section Groups

theorem Enrolment.not_teacher (enrolment : Enrolment service schoolCode store group content members)
    (unknown : Unknown service realm username store) :
    group ≠ service.teacherName username realm := by
  -- A new group has a name of its own; a group that was there has an entry, and the teacher none.
  by_cases new : members = []
  · rw [(enrolment.created new).1]
    exact teacher_name_ne_group.symm
  · intro same
    subst same
    have restored := enrolment.restored
    rw [if_neg new, unknown.free] at restored
    cases restored

theorem Enrolment.unnamed (enrolment : Enrolment service schoolCode store group content members)
    (unknown : Unknown service realm username store) : username ∉ content "uid" := by
  by_cases new : members = []
  · rw [(enrolment.created new).2]
    exact List.not_mem_nil
  · have stored := enrolment.restored
    rw [if_neg new] at stored
    have unnamed := unknown.unnamed group _ stored enrolment.inside
    rwa [Function.update_of_ne (by decide)] at unnamed

theorem Enrolment.unlisted (enrolment : Enrolment service schoolCode store group content members)
    (unknown : Unknown service realm username store) :
    service.teacherName username realm ∉ members := by
  by_cases new : members = []
  · rw [new]
    exact List.not_mem_nil
  · have stored := enrolment.restored
    rw [if_neg new] at stored
    have unlisted := unknown.unlisted group _ stored enrolment.inside
    rwa [Function.update_self] at unlisted

theorem Enrolment.employs (enrolment : Enrolment service schoolCode store group content members)
    (unknown : Unknown service realm username store) (teacher : IsTeacherRecord username record) :
    Employs service realm username record
      (enrolled store (service.teacherName username realm) record group content listed) := by
  refine (unknown.employs teacher).set ?_ (enrolment.not_teacher unknown)
  rw [Function.update_of_ne (by decide)]
  exact enrolment.unnamed unknown

theorem Enrolment.is_group (enrolment : Enrolment service schoolCode store group content members)
    (unknown : Unknown service realm username store) (teacher : IsTeacherRecord username record) :
    IsGroup service.base
        (enrolled store (service.teacherName username realm) record group content listed) schoolCode
        name otherRecord ↔
      name = group ∧ otherRecord = update content "member" listed := by
  unfold enrolled
  rw [is_group_set, teacher.is_group unknown.free]
  constructor
  · intro cause
    rcases cause with ⟨rfl, same, -, -⟩ | ⟨different, isGroup⟩
    · exact ⟨rfl, (Option.some.inj same).symm⟩
    · exact (different (enrolment.only name otherRecord isGroup)).elim
  · intro given
    rcases given with ⟨rfl, rfl⟩
    exact .inl ⟨rfl, rfl, enrolment.inside, group_matches_members.mpr enrolment.matched⟩

theorem Enrolment.find_member
    (enrolment : Enrolment service schoolCode store group content members)
    (unknown : Unknown service realm other store) (teacher : IsTeacherRecord username record)
    (member : service.teacherName other realm ∈ listed) {entries : List Entry}
    (finds : (enrolled store name record group content listed).Finds service.base .subtree
      (.byMember (service.teacherName other realm)) ["member"] entries) :
    ∃ entry, entries = [entry] ∧ entry.name = group ∧ entry.values "member" = listed := by
  have matched : (Filter.byMember (service.teacherName other realm)).Matches
      (update content "member" listed) := by
    rw [Filter.matches_member, Function.update_self]
    exact member
  have only (found : String) (lists : Record)
      (stored : enrolled store name record group content listed found = some lists)
      (inside : Within service.base found)
      (matched : (Filter.byMember (service.teacherName other realm)).Matches lists) :
      found = group := by
    by_contra different
    have member := Filter.matches_member.mp matched
    unfold enrolled at stored
    rw [Function.update_of_ne different] at stored
    by_cases same : found = name
    · rw [same, Function.update_self] at stored
      rw [← Option.some.inj stored, teacher.members] at member
      exact List.not_mem_nil member
    · rw [Function.update_of_ne same] at stored
      exact unknown.unlisted found lists stored inside member
  obtain ⟨entry, alone, named, shown⟩ :=
    finds.eq_singleton (Function.update_self _ _ _) enrolment.inside matched only
  exact ⟨entry, alone, named, shown.members.trans (Function.update_self _ _ _)⟩

theorem enrolled_set_members {teacher : String} {values : List String} :
    update (enrolled store teacher record group content listed) group
        (some (update (update content "member" listed) "member" values)) =
      enrolled store teacher record group content values := by
  unfold enrolled
  rw [Function.update_idem, Function.update_idem]

theorem enrolled_set_teacher {teacher : String} {changed : Record} (apart : group ≠ teacher) :
    update (enrolled store teacher record group content listed) teacher (some changed) =
      enrolled store teacher changed group content listed := by
  unfold enrolled
  rw [Function.update_comm apart, Function.update_idem]

theorem enrolled_move {teacher other : String} (free : store teacher = none)
    (apart : group ≠ teacher) (apartOther : group ≠ other) :
    update (update (enrolled store teacher record group content listed) teacher none) other
        (some moved) = enrolled store other moved group content listed := by
  unfold enrolled
  rw [Function.update_comm apart, Function.update_idem, ← free, Function.update_eq_self,
    Function.update_comm apartOther]

theorem enrolled_leave {teacher : String} (apart : group ≠ teacher) :
    update (enrolled store teacher record group content listed) group (store group) =
      update store teacher (some record) := by
  unfold enrolled
  rw [Function.update_idem, ← Function.update_of_ne apart (some record) store,
    Function.update_eq_self]

theorem with_unit_set (different : name ≠ service.schoolName schoolCode) (record : Option Record) :
    service.withUnit schoolCode (update store name record) =
      update (service.withUnit schoolCode store) name record := by
  unfold withUnit
  rw [Function.update_of_ne different.symm, Function.update_comm different]

theorem SchoolReady.with_teacher (ready : SchoolReady service schoolCode store)
    (unknown : Unknown service realm username store) (teacher : IsTeacherRecord username record) :
    UnitReady service schoolCode
        (update store (service.teacherName username realm) (some record)) ∧
      GroupReady service schoolCode
        (update store (service.teacherName username realm) (some record)) := by
  constructor
  · intro unit stored
    rw [Function.update_of_ne teacher_name_ne_school.symm] at stored
    exact ready.unit unit stored
  · intro content stored
    rw [Function.update_of_ne teacher_name_ne_group.symm] at stored
    exact (teacher.is_group unknown.free).mpr (ready.group content stored)

/-- A teacher who was made a member is enrolled, in the group that the school had or in a new one. -/
theorem Joined.enrolment
    (joined : Joined service schoolCode (service.teacherName username realm)
      (update store (service.teacherName username realm) (some record)) after)
    (unknown : Unknown service realm username store) (teacher : IsTeacherRecord username record)
    (ready : SchoolReady service schoolCode store) :
    ∃ group content members,
      Enrolment service schoolCode (service.withUnit schoolCode store) group content members ∧
      after = enrolled (service.withUnit schoolCode store) (service.teacherName username realm)
        record group content (members ++ [service.teacherName username realm]) := by
  cases joined with
  | @member group content isGroup _ =>
      have isGroup := (teacher.is_group unknown.free).mp isGroup
      refine ⟨group, content, content "member", ⟨isGroup.inside, isGroup.matched, ?_, ?_, ?_⟩, ?_⟩
      · have later : IsGroup service.base (service.withUnit schoolCode store) schoolCode group
          content := with_unit_is_group.mpr isGroup
        rw [if_neg (ready.filled isGroup), Function.update_eq_self, later.stored]
      · exact fun empty => (ready.filled isGroup empty).elim
      · exact fun name other found => ready.single (with_unit_is_group.mp found) isGroup
      · rw [with_unit_set teacher_name_ne_school]
        rfl
  | group noGroup free =>
      have noGroup (name : String) (other : Record) :
          ¬IsGroup service.base (service.withUnit schoolCode store) schoolCode name other :=
        fun found => noGroup name other
          ((teacher.is_group unknown.free).mpr (with_unit_is_group.mp found))
      rw [Function.update_of_ne teacher_name_ne_group.symm] at free
      refine ⟨service.groupName schoolCode,
        groupRecord schoolCode (service.teacherName username realm), [],
        ⟨group_name_within, group_record_matches.mpr rfl, ?_, fun _ => ⟨rfl, ?_⟩, ?_⟩, ?_⟩
      · rw [if_pos rfl, UnitAdded.group_name (.inr rfl), free]
      · exact group_record_unnamed
      · exact fun name other found => (noGroup name other found).elim
      · have same := Function.update_eq_self "member"
          (groupRecord schoolCode (service.teacherName username realm))
        rw [group_record_values.2.2] at same
        rw [with_unit_set teacher_name_ne_school, List.nil_append]
        unfold enrolled
        rw [same]

end Groups

end TeacherDirectory.Service
