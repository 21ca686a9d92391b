import TeacherDirectory.Proofs.Directory.Store
import TeacherDirectory.Proofs.DistinguishedName.Leaves
import TeacherDirectory.Service.Basic

/-!
# The names of entries

Every name that the service gives to an entry lies below its base, whatever the base, the username
and the school are called, and is cut into the attributes that it was made of. So entries of different
kinds have different names, and so have different teachers, units and groups: no username and no
school code adds a component, takes one away or changes another one. A rename depends on the parent
of a name only, and a teacher's name with another username in it is the name of that teacher.
-/

namespace TeacherDirectory

set_option autoImplicit false

open DistinguishedName

theorem Realm.unit_injective {realm other : Realm} (same : realm.unit = other.unit) :
    realm = other := by
  revert same
  cases realm <;> cases other <;> decide

namespace Service

variable {service : Service} {base username other schoolCode otherSchool : String} {realm : Realm}

theorem within_below {type : String} (isType : IsType type) (value : String) {parent : String}
    (inside : Within base parent) : Within base (below (component type value) parent) :=
  .child (split_below isType value parent) inside

theorem realm_name_within : Within service.base (service.realmName realm) :=
  within_below is_type_ou realm.unit .self

theorem teacher_name_within_realm :
    Within (service.realmName realm) (service.teacherName username realm) :=
  within_below is_type_uid username .self

theorem teacher_name_within : Within service.base (service.teacherName username realm) :=
  within_below is_type_uid username realm_name_within

theorem school_name_within : Within service.base (service.schoolName schoolCode) :=
  within_below is_type_ou schoolCode .self

theorem groups_name_within : Within service.base (service.groupsName schoolCode) :=
  within_below is_type_cn "groups" school_name_within

theorem group_name_within : Within service.base (service.groupName schoolCode) :=
  within_below is_type_cn (groupId schoolCode) groups_name_within

theorem realm_name_cuts :
    CutsInto service.base (service.realmName realm) [("ou", realm.unit)] :=
  cuts_into_component is_type_ou realm.unit .whole

theorem teacher_name_cuts :
    CutsInto service.base (service.teacherName username realm)
      [("uid", username), ("ou", realm.unit)] :=
  cuts_into_component is_type_uid username realm_name_cuts

theorem school_name_cuts :
    CutsInto service.base (service.schoolName schoolCode) [("ou", schoolCode)] :=
  cuts_into_component is_type_ou schoolCode .whole

theorem groups_name_cuts :
    CutsInto service.base (service.groupsName schoolCode) [("cn", "groups"), ("ou", schoolCode)] :=
  cuts_into_component is_type_cn "groups" school_name_cuts

theorem group_name_cuts :
    CutsInto service.base (service.groupName schoolCode)
      [("cn", "lehrer-" ++ schoolCode), ("cn", "groups"), ("ou", schoolCode)] :=
  cuts_into_component is_type_cn (groupId schoolCode) groups_name_cuts

theorem realm_name_injective {other : Realm}
    (same : service.realmName realm = service.realmName other) : realm = other := by
  have attributes := realm_name_cuts.injective realm_name_cuts same
  simp only [List.cons.injEq, Prod.mk.injEq, true_and, and_true] at attributes
  exact Realm.unit_injective attributes

/-- The subtrees of the realms have no teacher in common. -/
theorem realms_apart {other : Realm}
    (inside : Within (service.realmName other) (service.teacherName username realm)) :
    other = realm := by
  have below : Within (service.realmName other) (service.realmName realm) := by
    refine inside.parent (split_below is_type_uid username _) fun same => ?_
    exact absurd (teacher_name_cuts.injective realm_name_cuts same) (by simp)
  by_cases same : service.realmName realm = service.realmName other
  · exact (realm_name_injective same).symm
  · -- The name of a realm is longer than that of the base, so the base does not lie in a realm.
    have above := below.parent (split_below is_type_ou realm.unit _) same
    have shorter : service.base.length < (service.realmName other).length :=
      split_shorter (split_below is_type_ou other.unit service.base)
    rcases above.longer with equal | longer
    · rw [← equal] at shorter
      exact absurd shorter (Nat.lt_irrefl _)
    · exact absurd (shorter.trans longer) (Nat.lt_irrefl _)

theorem teacher_name_ne_school :
    service.teacherName username realm ≠ service.schoolName schoolCode := by
  intro same
  exact absurd (teacher_name_cuts.injective school_name_cuts same) (by simp)

theorem teacher_name_ne_group :
    service.teacherName username realm ≠ service.groupName schoolCode := by
  intro same
  exact absurd (teacher_name_cuts.injective group_name_cuts same) (by simp)

theorem school_name_ne_groups :
    service.schoolName schoolCode ≠ service.groupsName otherSchool := by
  intro same
  exact absurd (school_name_cuts.injective groups_name_cuts same) (by simp)

theorem school_name_ne_group : service.schoolName schoolCode ≠ service.groupName otherSchool := by
  intro same
  exact absurd (school_name_cuts.injective group_name_cuts same) (by simp)

theorem teacher_name_injective {otherRealm : Realm}
    (same : service.teacherName username realm = service.teacherName other otherRealm) :
    username = other ∧ realm = otherRealm := by
  have attributes := teacher_name_cuts.injective teacher_name_cuts same
  simp only [List.cons.injEq, Prod.mk.injEq, true_and, and_true] at attributes
  exact ⟨attributes.1, Realm.unit_injective attributes.2⟩

theorem school_name_injective
    (same : service.schoolName schoolCode = service.schoolName otherSchool) :
    schoolCode = otherSchool := by
  have attributes := school_name_cuts.injective school_name_cuts same
  simp only [List.cons.injEq, Prod.mk.injEq, true_and, and_true] at attributes
  exact attributes

theorem group_name_injective
    (same : service.groupName schoolCode = service.groupName otherSchool) :
    schoolCode = otherSchool := by
  have attributes := group_name_cuts.injective group_name_cuts same
  simp only [List.cons.injEq, Prod.mk.injEq, true_and, and_true] at attributes
  exact attributes.2

theorem rename_teacher_name :
    renameUser (service.teacherName username realm) other = service.teacherName other realm :=
  rename_user_below username other (service.realmName realm)

theorem moved_teacher_name :
    Store.movedName (service.teacherName username realm) (userComponent other) =
      service.teacherName other realm := by
  unfold Store.movedName teacherName userComponent
  rw [split_below is_type_uid]

theorem teacher_name_leaf :
    readComponent? ((split? (service.teacherName username realm)).map Prod.fst |>.getD
      (service.teacherName username realm)) = some ("uid", username) := by
  unfold teacherName userComponent
  rw [split_below is_type_uid]
  exact read_component is_type_uid username

theorem group_id_injective (same : groupId schoolCode = groupId otherSchool) :
    schoolCode = otherSchool := by
  have letters := congrArg String.toList same
  simp only [groupId, String.toList_append] at letters
  exact String.toList_injective (List.append_cancel_left letters)

/-- Names of the scheme are equal only where what they name is, and each is cut into the attributes it
names above the service's base and into no others. -/
theorem names_free_of_collisions (service : Service) (username otherUsername : String)
    (realm otherRealm : Realm) (schoolCode otherSchool : String) :
    (service.teacherName username realm = service.teacherName otherUsername otherRealm ↔
        username = otherUsername ∧ realm = otherRealm) ∧
      (service.schoolName schoolCode = service.schoolName otherSchool ↔ schoolCode = otherSchool) ∧
      (service.groupName schoolCode = service.groupName otherSchool ↔ schoolCode = otherSchool) ∧
      (∀ attributes, CutsInto service.base (service.teacherName username realm) attributes ↔
        attributes = [("uid", username), ("ou", realm.unit)]) ∧
      (∀ attributes, CutsInto service.base (service.groupName schoolCode) attributes ↔
        attributes = [("cn", "lehrer-" ++ schoolCode), ("cn", "groups"), ("ou", schoolCode)]) ∧
      ∀ attributes, CutsInto service.base (service.schoolName schoolCode) attributes ↔
        attributes = [("ou", schoolCode)] := by
  refine ⟨⟨teacher_name_injective, ?_⟩, ⟨school_name_injective, ?_⟩, ⟨group_name_injective, ?_⟩,
    teacher_name_cuts.determined, group_name_cuts.determined, school_name_cuts.determined⟩
  · rintro ⟨rfl, rfl⟩
    rfl
  · rintro rfl
    rfl
  · rintro rfl
    rfl

/-- Of renames in a row the last one counts, a teacher's renamed name is that of the scheme, and the
parent stays as it was, however malformed the name is. -/
theorem renames_compose (service : Service) (realm : Realm)
    (name username first second : String) :
    renameUser (renameUser name first) second = renameUser name second ∧
      renameUser (service.teacherName username realm) first = service.teacherName first realm ∧
      (split? (renameUser name first)).map Prod.snd = (split? name).map Prod.snd := by
  refine ⟨rename_renamed_user name first second, rename_teacher_name, ?_⟩
  rw [split_rename_user, Option.map_map]
  rfl

end Service

end TeacherDirectory
