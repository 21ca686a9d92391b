import TeacherDirectory.Proofs.Json.Told

/-!
# Written objects

What is written as an object is one by the grammar, with the members that were given and without
blanks. A record is written with one member for each of its fields.
-/

namespace TeacherDirectory.Json

set_option autoImplicit false

variable {members : List (String × String)} {field : Field} {fields : List Field}
  {value : Option String} {values : List (Option String)}

def Padded.bare (text : List Char) : Padded := ⟨[], text, [], nofun, nofun⟩

def Member.written (told : String × String) : Member :=
  ⟨.bare (told.1.toList.flatMap escapeCharacter), .bare told.2.toList⟩

theorem quote_value (text : String) : IsValue (quote text).toList := by
  rw [quote, String.toList_ofList, quote_list_quoted]
  exact .string (escaped_spells text.toList).isQuoted

theorem member_letters (key value : String) :
    (member key value).toList = (Member.written (key, value)).letters := by
  simp [member, quote, quote_list_quoted, Member.letters, Member.written, Padded.bare,
    Padded.letters]

theorem object_letters (members : List String) :
    (object members).toList = '\x7b' :: (commas (members.map String.toList) ++ ['\x7d']) := by
  simp [object, commas, String.toList_intercalate]

theorem nothing_blank : AreBlanks [] := nofun

theorem commas_listed (items : List (List Char)) : IsListing items (commas items) := by
  cases items with
  | nil => exact .none nofun
  | cons item items => exact .items (List.cons_ne_nil item items)

/-- If the values of members are texts of values, their object is one of these members. -/
theorem object_holds (values : ∀ told ∈ members, IsValue told.2.toList) :
    IsObject (members.map fun (key, value) => (key, value.toList))
      (object (members.map fun (key, value) => member key value)).toList := by
  have letters : (members.map fun (key, value) => member key value).map String.toList =
      (members.map Member.written).map Member.letters := by
    rw [List.map_map, List.map_map]
    exact List.map_congr_left fun told _ => member_letters told.1 told.2
  rw [object_letters, letters]
  have holds : List.Forall₂ Member.Holds (members.map fun (key, value) => (key, value.toList))
      (members.map Member.written) := by
    rw [List.forall₂_map_left_iff, List.forall₂_map_right_iff, List.forall₂_same]
    intro told member
    exact ⟨escaped_spells told.1.toList, rfl, values told member⟩
  have isObject := IsObject.object nothing_blank nothing_blank (commas_listed _) holds
  exact isObject

def valueText : Option String → String
  | some value => quote value
  | none => "null"

/-- A field is null only if it is not required. -/
def Fits (field : Field) (value : Option String) : Prop := value = none → field.required = false

def recordMembers (fields : List Field) (values : List (Option String)) : List (String × String) :=
  fields.zipWith (fun field value => (field.key, valueText value)) values

theorem value_text_value (value : Option String) : IsValue (valueText value).toList := by
  cases value with
  | none => exact .null
  | some value => exact quote_value value

theorem quote_reads (field : Field) (text : String) :
    Reads field (quote text).toList (some text) := by
  rw [quote, String.toList_ofList, quote_list_quoted]
  exact .text (escaped_spells text.toList)

theorem value_text_reads (fits : Fits field value) :
    Reads field (valueText value).toList value := by
  cases value with
  | none => exact .null (fits rfl)
  | some value => exact quote_reads field value

theorem record_text_object (fields : List Field) (values : List (Option String)) :
    recordText fields values =
      object ((recordMembers fields values).map fun (key, value) => member key value) := by
  rw [recordText, recordMembers, List.map_zipWith]
  rfl

theorem record_text_holds (fields : List Field) (values : List (Option String)) :
    IsObject ((recordMembers fields values).map fun (key, value) => (key, value.toList))
      (recordText fields values).toList := by
  rw [record_text_object]
  refine object_holds fun told member => ?_
  rw [recordMembers, ← List.map_uncurry_zip_eq_zipWith] at member
  obtain ⟨pair, -, rfl⟩ := List.mem_map.mp member
  exact value_text_value pair.2

theorem record_members_keys (same : fields.length = values.length) :
    ((recordMembers fields values).map fun (key, value) => (key, value.toList)).map Prod.fst =
      fields.map Field.key := by
  induction fields generalizing values with
  | nil => rfl
  | cons field fields induction =>
      cases values with
      | nil => cases same
      | cons value values => exact congrArg (field.key :: ·) (induction (Nat.succ.inj same))

theorem record_members_spelled (fits : List.Forall₂ Fits fields values) :
    Spelled fields values
      ((recordMembers fields values).map fun (key, value) => (key, value.toList)) := by
  induction fits with
  | nil => exact .none
  | cons first _ induction => exact .given (value_text_reads first) induction

end TeacherDirectory.Json
