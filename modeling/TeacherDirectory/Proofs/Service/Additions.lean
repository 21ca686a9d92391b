import TeacherDirectory.Proofs.Directory.Store
import TeacherDirectory.Proofs.DistinguishedName.Value
import TeacherDirectory.Proofs.Service.GroundedWrites
import TeacherDirectory.Script

/-!
# Entries that are added

An entry is added under a name whose leaf holds one of its attributes, with the value escaped there and
as it is in the attributes. The two agree for every username and school, whatever characters they hold.
All entries that are added in a session have one of three object classes, with the attributes that the
class asks for and one value for each.
-/

namespace TeacherDirectory

set_option autoImplicit false

open DistinguishedName

def mandatory? : String → Option (List String)
  | "inetOrgPerson" => some ["cn", "sn"]
  | "organizationalUnit" => some ["ou"]
  | "groupOfNames" => some ["cn", "member"]
  | _ => none

/-- The leaf of the name is the type of an attribute and, as names write it, the only value that the
attribute has. -/
def NamedBy (name : String) (attributes : Attributes) : Prop :=
  ∃ type written value parent, type ∈ ["uid", "ou", "cn"] ∧
    split? name = some (type ++ "=" ++ written, parent) ∧ readValue? written = some value ∧
    Record.ofAttributes attributes type = [value]

/-- What makes an addition well formed. Attributes are told apart without regard to case, as a
directory does. -/
structure WellFormed (name : String) (attributes : Attributes) : Prop where
  named : NamedBy name attributes
  distinct : (attributes.map fun (name, _) => Entry.key name).Nodup
  single : ∀ pair ∈ attributes, ∃ value, pair.2 = [value]
  classed : ∃ objectClass required, Record.ofAttributes attributes "objectclass" = [objectClass] ∧
    mandatory? objectClass = some required ∧
    ∀ name ∈ required, ∃ value, Record.ofAttributes attributes name = [value]

theorem named_below {type value parent : String} {attributes : Attributes}
    (known : type ∈ ["uid", "ou", "cn"])
    (given : Record.ofAttributes attributes type = [value]) :
    NamedBy (below (component type value) parent) attributes := by
  have isType : IsType type := by
    simp only [List.mem_cons, List.not_mem_nil, or_false] at known
    rcases known with rfl | rfl | rfl
    · exact is_type_uid
    · exact is_type_ou
    · exact is_type_cn
  exact ⟨type, escapeValue value, value, parent, known, split_below isType value parent,
    read_escaped_value value, given⟩

namespace Service

variable {service : Service} {schoolCode personName username : String} {realm : Realm}

theorem teacher_well_formed {person : Person} {entryUuid : String} :
    WellFormed (service.teacherName username realm)
      (teacherAttributes person username entryUuid) := by
  have folded : Entry.key "objectclass" = "objectclass" ∧ Entry.key "cn" = "cn" ∧
      Entry.key "sn" = "sn" ∧ Entry.key "givenName" = "givenname" ∧ Entry.key "uid" = "uid" ∧
      Entry.key "entryUUID" = "entryuuid" := by decide +kernel
  refine ⟨named_below (by simp) ?named, ?distinct, ?single, "inetOrgPerson", ["cn", "sn"], ?classed,
    rfl, ?required⟩
  all_goals simp [teacherAttributes, Record.ofAttributes, folded]

theorem placeholder_well_formed :
    WellFormed (service.teacherName username realm) (placeholderAttributes username) := by
  have folded : Entry.key "objectclass" = "objectclass" ∧ Entry.key "cn" = "cn" ∧
      Entry.key "sn" = "sn" ∧ Entry.key "uid" = "uid" := by decide +kernel
  refine ⟨named_below (by simp) ?named, ?distinct, ?single, "inetOrgPerson", ["cn", "sn"], ?classed,
    rfl, ?required⟩
  all_goals simp [placeholderAttributes, Record.ofAttributes, folded]

theorem unit_well_formed :
    WellFormed (service.schoolName schoolCode)
      [("objectclass", ["organizationalUnit"]), ("ou", [schoolCode])] := by
  have folded : Entry.key "objectclass" = "objectclass" ∧ Entry.key "ou" = "ou" := by decide +kernel
  refine ⟨named_below (by simp) ?named, ?distinct, ?single, "organizationalUnit", ["ou"], ?classed,
    rfl, ?required⟩
  all_goals simp [Record.ofAttributes, folded]

theorem group_well_formed :
    WellFormed (service.groupName schoolCode) [("objectclass", ["groupOfNames"]),
      ("cn", [groupId schoolCode]), ("member", [personName])] := by
  have folded : Entry.key "objectclass" = "objectclass" ∧ Entry.key "cn" = "cn" ∧
      Entry.key "member" = "member" := by decide +kernel
  refine ⟨named_below (by simp) ?named, ?distinct, ?single, "groupOfNames", ["cn", "member"], ?classed,
    rfl, ?required⟩
  all_goals simp [Record.ofAttributes, folded]

theorem Grounded.well_formed {aim : Aim} {earlier : List Exchange} {name : String}
    {attributes : Attributes} (grounded : service.Grounded aim earlier (.add name attributes)) :
    WellFormed name attributes := by
  cases grounded with
  | person about found changes => cases changes
  | group about found changes => cases changes
  | newTeacher about covers absent written =>
      obtain rfl | ⟨person, entryUuid, rfl⟩ := written
      · exact placeholder_well_formed
      · exact teacher_well_formed
  | newUnit about absent => exact unit_well_formed
  | newGroup about absent => exact group_well_formed

/-- Whatever the arguments and the answers of the directory are, every entry that is added in a session
is well formed. -/
theorem additions_well_formed {State : Type} (world : World State) (state : State)
    (service : Service) (tasks : List Task) :
    ∀ exchange ∈ exchanges ((service.performAll tasks).run world state).steps,
      ∀ name attributes, exchange.request = .add name attributes → WellFormed name attributes := by
  intro exchange member name attributes same
  have writes : exchange.request.isWrite = true := by rw [same]; rfl
  obtain ⟨aim, before, grounded⟩ := session_writes_grounded
    (Program.run_takes world (service.performAll tasks) state) exchange member writes
  exact (same ▸ grounded).well_formed

/-- The unit of a school whose code must be escaped at both ends and in the middle. -/
theorem awkward_unit_well_formed :
    let service : Service :=
      ⟨⟨"", "cn=admin", some "secret", "dc=schule", none, none, none, none, none, none⟩,
        .immediate 0⟩
    let schoolCode := "#07, \\05 "
    let tasks : List Task := [.joinGroup "anna" schoolCode "uid=anna,dc=schule"]
    let run := (service.performAll tasks).run Stage.world ⟨Script.empty, 0, false, 0⟩
    let name := "ou=\\#07\\, \\\\05\\ ,dc=schule"
    let attributes : Attributes := [("objectclass", ["organizationalUnit"]), ("ou", [schoolCode])]
    (∃ exchange ∈ exchanges run.steps, exchange.request = .add name attributes) ∧
      WellFormed name attributes := by
  intro service schoolCode tasks run name attributes
  have named : service.schoolName schoolCode = name := by decide +kernel
  have asked : (exchanges run.steps)[3]? =
      some ⟨.add (service.schoolName schoolCode) attributes, .ok ()⟩ := rfl
  have member := List.mem_of_getElem? asked
  have wellFormed := additions_well_formed Stage.world _ service tasks _ member _ _ rfl
  rw [named] at member wellFormed
  exact ⟨⟨_, member, rfl⟩, wellFormed⟩

end Service

end TeacherDirectory
