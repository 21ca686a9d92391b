import TeacherDirectory.Proofs.Filter.Unambiguous
import TeacherDirectory.Service.Group

/-!
# The filters of the service

The service looks for a username, for a member and for a group. Whatever is looked for, the text that
is sent stands for the comparison with it and for nothing else, so no value makes another question out
of a search. That holds of the names of entries too, in which values have been escaped before.
-/

namespace TeacherDirectory.Service

set_option autoImplicit false

open Text

variable (value : String)

theorem username_stands_for :
    Filter.StandsFor (Filter.byUsername value).render (.compare "uid" .equal (encode value)) := by
  have expressible : (Filter.byUsername value).Expressible :=
    Filter.is_attribute_of_key (by decide +kernel)
  exact Filter.render_stands_for expressible

theorem member_stands_for :
    Filter.StandsFor (Filter.byMember value).render (.compare "member" .equal (encode value)) := by
  have expressible : (Filter.byMember value).Expressible :=
    Filter.is_attribute_of_key (by decide +kernel)
  exact Filter.render_stands_for expressible

theorem group_stands_for :
    Filter.StandsFor (groupFilter value).render
      (.all [.compare "objectclass" .equal (encode "groupOfNames"),
        .compare "cn" .equal (encode value)]) := by
  have expressible : (groupFilter value).Expressible :=
    ⟨List.cons_ne_nil _ _, Filter.is_attribute_of_key (by decide +kernel),
      Filter.is_attribute_of_key (by decide +kernel), trivial⟩
  exact Filter.render_stands_for expressible

/-- The filters that the service builds around a value ask for equality with this value, different
values are escaped differently, and a name is looked for as it is, with the escapes it holds. -/
theorem filters_free_of_injection (service : Service) (realm : Realm) (value other : String) :
    Filter.StandsFor (Filter.byUsername value).render (.compare "uid" .equal (encode value)) ∧
      Filter.StandsFor (Filter.byMember value).render (.compare "member" .equal (encode value)) ∧
      Filter.StandsFor (groupFilter value).render
        (.all [.compare "objectclass" .equal (encode "groupOfNames"),
          .compare "cn" .equal (encode value)]) ∧
      (Filter.escapeValue value = Filter.escapeValue other ↔ value = other) ∧
      Filter.StandsFor (Filter.byMember (service.teacherName value realm)).render
        (.compare "member" .equal (encode (service.teacherName value realm))) := by
  refine ⟨username_stands_for value, member_stands_for value, group_stands_for value,
    ⟨Filter.escape_value_injective, ?_⟩, member_stands_for _⟩
  rintro rfl
  rfl

end TeacherDirectory.Service
