import TeacherDirectory.PersonRecord
import TeacherDirectory.Proofs.Json.Written

/-!
# Persons survive their exchange

What is written for a person, or for the attributes of one, is read back as it was, whatever
characters its texts are made of. A reader also takes what another writer may have made of it: other
spellings of the texts, another order of the members, members that it does not know, null left out, or
an array in place of the object. It takes nothing that tells a field twice or leaves out a required
one.
-/

namespace TeacherDirectory

set_option autoImplicit false

open Json

section Exchange

variable {Record : Type} {fields : List Field} {values : Record → List (Option String)}
  {record : Record} {document : String} {members : List (String × List Char)}

/-- What holds of records that are written by a writer and read by a reader. -/
structure SurvivesExchange (fields : List Field) (values : Record → List (Option String))
    (text : Record → String) (read : String → Except Fault Record) : Prop where
  returned (record : Record) : read (text record) = .ok record
  /-- What is written is an object with a member for each field, in order. -/
  form (record : Record) : ∃ own, own.map Prod.fst = fields.map Field.key ∧
    Spelled fields (values record) own ∧ IsObject own (text record).toList
  rearranged {record : Record} {own others members : List (String × List Char)} {document : String}
    (spelled : Spelled fields (values record) own)
    (unknown : ∀ told ∈ others, ∀ field ∈ fields, told.1 ≠ field.key)
    (order : members.Perm (own ++ others)) (isObject : IsObject members document.toList) :
    read document = .ok record
  listed {record : Record} {items : List (List Char)} {document : String}
    (isArray : IsArray items document.toList) :
    read document = .ok record ↔ Lists fields items (values record)
  exact {record : Record} {members : List (String × List Char)} {document : String}
    (isObject : IsObject members document.toList) :
    read document = .ok record ↔ Tells fields (values record) members
  repeated {field : Field} {members : List (String × List Char)} {document : String}
    (known : field ∈ fields) (twice : 1 < occurrences field.key members)
    (isObject : IsObject members document.toList) : ∃ fault, read document = .error fault
  missing {field : Field} {members : List (String × List Char)} {document : String}
    (known : field ∈ fields) (required : field.required = true)
    (absent : ∀ told ∈ members, told.1 ≠ field.key)
    (isObject : IsObject members document.toList) : ∃ fault, read document = .error fault

theorem never_read {read : Except Fault Record} (never : ∀ record, read ≠ .ok record) :
    ∃ fault, read = .error fault := by
  cases read with
  | error fault => exact ⟨fault, rfl⟩
  | ok record => exact (never record rfl).elim

/-- Records survive if they are made of their values, of which those of required fields are never
null. -/
theorem SurvivesExchange.of_values {ofValues : List (Option String) → Except Fault Record}
    (distinct : (fields.map Field.key).Nodup)
    (inverse : ∀ given record, ofValues given = .ok record ↔ given = values record)
    (fits : ∀ record, List.Forall₂ Fits fields (values record)) :
    SurvivesExchange fields values (fun record => recordText fields (values record))
      (fun document => do ofValues (← readRecord fields document)) := by
  have readIff {document : String} {record : Record} :
      (do ofValues (← readRecord fields document)) = .ok record ↔
        readRecord fields document = .ok (values record) := by
    rw [bind_ok_iff]
    constructor
    · rintro ⟨given, read, made⟩
      rwa [(inverse given record).mp made] at read
    · intro read
      exact ⟨_, read, (inverse _ record).mpr rfl⟩
  have exact {record : Record} {members : List (String × List Char)} {document : String}
      (isObject : IsObject members document.toList) :
      (do ofValues (← readRecord fields document)) = .ok record ↔
        Tells fields (values record) members :=
    readIff.trans (read_object_tells distinct isObject)
  have rearranged {record : Record} {own others members : List (String × List Char)}
      {document : String} (spelled : Spelled fields (values record) own)
      (unknown : ∀ told ∈ others, ∀ field ∈ fields, told.1 ≠ field.key)
      (order : members.Perm (own ++ others)) (isObject : IsObject members document.toList) :=
    (exact isObject).mpr (spelled.tells distinct unknown order)
  have written (record : Record) := record_text_holds fields (values record)
  have spelled (record : Record) := record_members_spelled (fits record)
  refine ⟨fun record => ?_, fun record => ⟨_, ?_, spelled record, written record⟩, rearranged,
    fun isArray => readIff.trans (read_record_array isArray), exact, ?_, ?_⟩
  · refine rearranged (spelled record) (List.forall_mem_nil _) ?_ (written record)
    rw [List.append_nil]
  · exact record_members_keys (fits record).length_eq
  · intro field members document known twice isObject
    refine never_read fun record read => ?_
    have once := ((exact isObject).mp read).once field known
    omega
  · intro field members document known required absent isObject
    refine never_read fun record read => ?_
    obtain ⟨told, member, same⟩ := ((exact isObject).mp read).present known required
    exact absent told member same

end Exchange

theorem Person.of_values_iff (given : List (Option String)) (person : Person) :
    ofValues given = .ok person ↔ given = person.values := by
  constructor
  · intro made
    unfold ofValues at made
    split at made
    · cases made
      rfl
    · cases made
  · rintro rfl
    rfl

theorem Person.values_fit (person : Person) : List.Forall₂ Fits fields person.values :=
  .cons nofun (.cons nofun (.cons nofun (.cons (fun _ => rfl) (.cons (fun _ => rfl) .nil))))

theorem PersonAttributes.of_values_iff (given : List (Option String))
    (attributes : PersonAttributes) : ofValues given = .ok attributes ↔ given = attributes.values := by
  constructor
  · intro made
    unfold ofValues at made
    split at made
    · cases made
      rfl
    · cases made
  · rintro rfl
    rfl

theorem PersonAttributes.values_fit (attributes : PersonAttributes) :
    List.Forall₂ Fits fields attributes.values :=
  .cons (fun _ => rfl) (.cons nofun (.cons (fun _ => rfl) (.cons (fun _ => rfl)
    (.cons (fun _ => rfl) (.cons (fun _ => rfl) (.cons (fun _ => rfl) .nil))))))

/-- Persons and their attributes are read back as they were written, and read as one means them from
whatever else stands for them. -/
theorem persons_survive_exchange :
    SurvivesExchange Person.fields Person.values Person.text Person.read ∧
      SurvivesExchange PersonAttributes.fields PersonAttributes.values PersonAttributes.text
        PersonAttributes.read := by
  constructor
  · exact .of_values (by decide) Person.of_values_iff Person.values_fit
  · exact .of_values (by decide) PersonAttributes.of_values_iff PersonAttributes.values_fit

/-- The other order, a member that is not known and two that are left out. -/
theorem person_read_backwards :
    Person.read (object [member "old" (quote "8"), member "familienname" (quote "Holm"),
      member "vorname" (quote "B\"\n"), member "id" (quote "7")]) =
      .ok ⟨"7", "B\"\n", "Holm", none, none⟩ := by
  have spelled : Spelled Person.fields [some "7", some "B\"\n", some "Holm", none, none]
      [("id", (quote "7").toList), ("vorname", (quote "B\"\n").toList),
        ("familienname", (quote "Holm").toList)] :=
    .given (quote_reads _ _) (.given (quote_reads _ _) (.given (quote_reads _ _)
      (.leftOut rfl (.leftOut rfl .none))))
  have unknown (text : List Char) : ∀ told ∈ [("old", text)], ∀ field ∈ Person.fields,
      told.1 ≠ field.key := by
    simp [Person.fields]
  have values : ∀ told ∈ [("old", quote "8"), ("familienname", quote "Holm"),
      ("vorname", quote "B\"\n"), ("id", quote "7")], IsValue told.2.toList := by
    simp [quote_value]
  have isObject := object_holds values
  simp only [List.map_cons, List.map_nil] at isObject
  exact persons_survive_exchange.1.rearranged spelled (unknown _) (List.reverse_perm _) isObject

/-- Another order, another spelling, a member that is not known and two that are left out. -/
example :
    Person.read (" \x7b\"familienname\": \"Holm\", \"old\": [\x7b\"id\": -1e3\x7d, \"\\ud800\"], " ++
      "\"vorname\": \"B\\u00e4\\ud83d\\udE00\", \"\\u0069d\": \"7\"\x7d\n") =
      .ok ⟨"7", "Bä😀", "Holm", none, none⟩ := by
  cbv

end TeacherDirectory
