import TeacherDirectory.PersonEvent
import TeacherDirectory.Proofs.Json.Members
import TeacherDirectory.Proofs.Json.Written

/-!
# Events tell what changed

The text of an event is an object that holds what applies to it and nothing else, whatever characters
its texts are made of. A reader for which a missing address is none and a missing password mark is no
recovers the event, so no two events have one text.
-/

namespace TeacherDirectory.PersonEvent

set_option autoImplicit false

open Json

def keys (event : PersonEvent) : List String :=
  ["personId"] ++ (if event.primaryAddress.isSome then ["mailPrimaryAddress"] else []) ++
    (if event.alternativeAddress.isSome then ["mailAlternativeAddress"] else []) ++
    (if event.passwordChanged then ["userPasswordChanged"] else [])

/-- Members that hold what applies to an event and nothing else. -/
structure ToldBy (event : PersonEvent) (members : List (String × List Char)) : Prop where
  only : members.map Prod.fst = event.keys
  person : Told members ⟨"personId", true⟩ (some event.personId)
  primary : Told members ⟨"mailPrimaryAddress", false⟩ event.primaryAddress
  alternative : Told members ⟨"mailAlternativeAddress", false⟩ event.alternativeAddress
  password : event.passwordChanged = true ↔ ("userPasswordChanged", ['t', 'r', 'u', 'e']) ∈ members

def textOf (key : String) (members : List (String × List Char)) : Except Fault (Option String) :=
  match members.lookup key with
  | none => .ok none
  | some text => (readText text).map fun (value, _) => some value

def read (document : String) : Except Fault PersonEvent := do
  let members ← membersOf document
  match ← textOf "personId" members with
  | none => throw .mismatched
  | some personId =>
      let primaryAddress ← textOf "mailPrimaryAddress" members
      let alternativeAddress ← textOf "mailAlternativeAddress" members
      let mark := members.lookup "userPasswordChanged"
      return ⟨personId, primaryAddress, alternativeAddress, mark = some ['t', 'r', 'u', 'e']⟩

theorem read_quote (text : String) : readText (quote text).toList = .ok (text, []) := by
  have spells := escaped_spells text.toList
  rw [quote, String.toList_ofList, quote_list_quoted, ← List.append_nil (quoted _)]
  exact (read_string spells.isQuoted).mpr ⟨spells, rfl⟩

def written (event : PersonEvent) : List (String × List Char) :=
  event.members.map fun (key, value) => (key, value.toList)

theorem text_holds (event : PersonEvent) : IsObject event.written event.text.toList := by
  refine object_holds fun told member => ?_
  simp only [members, List.mem_append, List.mem_singleton, List.mem_map] at member
  obtain ((rfl | ⟨address, -, rfl⟩) | ⟨address, -, rfl⟩) | marked := member
  · exact quote_value event.personId
  · exact quote_value address
  · exact quote_value address
  · split at marked
    · obtain rfl := List.mem_singleton.mp marked
      exact .yes
    · cases marked

theorem written_keys (event : PersonEvent) : event.written.map Prod.fst = event.keys := by
  obtain ⟨personId, _ | primary, _ | alternative, _ | _⟩ := event <;> rfl

theorem written_absent {event : PersonEvent} {key : String} (absent : key ∉ event.keys) :
    ∀ told ∈ event.written, told.1 ≠ key := by
  rintro told member rfl
  exact absent (written_keys event ▸ List.mem_map_of_mem member)

theorem written_tells (event : PersonEvent) : event.ToldBy event.written := by
  refine ⟨written_keys event, .given List.mem_cons_self (quote_reads _ _), ?_, ?_, ?_⟩
  · cases given : event.primaryAddress with
    | none => exact .leftOut rfl (written_absent (by simp [keys, given]))
    | some address => exact .given (by simp [written, members, given]) (quote_reads _ address)
  · cases given : event.alternativeAddress with
    | none => exact .leftOut rfl (written_absent (by simp [keys, given]))
    | some address => exact .given (by simp [written, members, given]) (quote_reads _ address)
  · cases changed : event.passwordChanged with
    | true => simp [written, members, changed]
    | false =>
        have absent : ∀ told ∈ event.written, told.1 ≠ "userPasswordChanged" :=
          written_absent (by simp [keys, changed])
        exact ⟨nofun, fun member => (absent _ member rfl).elim⟩

theorem read_text (event : PersonEvent) : read event.text = .ok event := by
  rw [read, members_of event.text_holds]
  obtain ⟨personId, _ | primary, _ | alternative, _ | _⟩ := event <;>
    simp [written, members, textOf, List.lookup_cons, read_quote, bind, Except.bind, Except.map,
      pure, Except.pure]

/-- The text of an event is an object that holds what applies to it and nothing else, and it is read
back, so different events have different texts. -/
theorem event_texts_are_faithful :
    Function.Injective text ∧
      ∀ event : PersonEvent,
        (∃ members, event.ToldBy members ∧ IsObject members event.text.toList ∧
          ∀ others, IsObject others event.text.toList → others = members) ∧
        read event.text = .ok event := by
  constructor
  · intro event other same
    have readEvent := read_text event
    rw [same, read_text other] at readEvent
    exact (Except.ok.inj readEvent).symm
  · intro event
    have isObject := text_holds event
    exact ⟨⟨event.written, written_tells event, isObject, fun _ again => isObject.unique again⟩,
      read_text event⟩

/-- An empty address counts, and a quotation mark does no harm. -/
theorem quoted_event_read :
    read ("\x7b\"personId\":\"7\\\"\",\"mailPrimaryAddress\":\"\"," ++
      "\"userPasswordChanged\":true\x7d") = .ok ⟨"7\"", some "", none, true⟩ :=
  (event_texts_are_faithful.2 ⟨"7\"", some "", none, true⟩).2

end TeacherDirectory.PersonEvent
