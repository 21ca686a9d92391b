import Mathlib.Data.List.Forall2
import TeacherDirectory.Directory.Call
import TeacherDirectory.Proofs.Text.Utf8

/-!
# Encodings of directory answers

A directory delivers the values of an attribute as texts or as bytes, alone or in a list, and writes
the attribute's name with letters of either case. Behind all of these stands one list of byte
strings for each folded name. Entries that agree in these lists are read alike, since reading bytes
undoes writing a text.
-/

namespace TeacherDirectory

set_option autoImplicit false

open Text

namespace AttributeValue

def bytes : AttributeValue → List Bytes
  | absent => []
  | text value => [encode value]
  | textList values => values.map encode
  | binary value => [value]
  | binaryList values => values

theorem texts_of_bytes (value : AttributeValue) : value.texts = value.bytes.map decodeLossy := by
  have read_back (values : List String) : (values.map encode).map decodeLossy = values := by
    rw [List.map_map]
    exact (List.map_congr_left fun value _ => decode_lossy_encode value).trans (List.map_id values)
  cases value with
  | absent => rfl
  | text value => exact (read_back [value]).symm
  | textList values => exact (read_back values).symm
  | binary value => rfl
  | binaryList values => rfl

end AttributeValue

namespace Entry

variable {entry other : Entry}

/-- Entries of one name with the same bytes under every attribute name. -/
structure Alike (entry other : Entry) : Prop where
  name : entry.name = other.name
  bytes : ∀ wanted, (entry.get wanted).bytes = (other.get wanted).bytes

@[refl] theorem Alike.refl (entry : Entry) : entry.Alike entry := ⟨rfl, fun _ => rfl⟩

theorem Alike.values (alike : entry.Alike other) (wanted : String) :
    entry.values wanted = other.values wanted := by
  unfold Entry.values
  rw [AttributeValue.texts_of_bytes, AttributeValue.texts_of_bytes, alike.bytes]

theorem Alike.first (alike : entry.Alike other) (wanted : String) :
    entry.first? wanted = other.first? wanted :=
  congrArg List.head? (alike.values wanted)

theorem get_set (wanted name : String) (value : AttributeValue) :
    (entry.set name value).get wanted =
      if key wanted = key name then value else entry.get wanted := by
  unfold get set
  rw [List.lookup_cons]
  by_cases same : key wanted = key name
  · rw [if_pos same, same, beq_self_eq_true]
    rfl
  · rw [if_neg same, beq_false_of_ne same]

theorem Alike.set {name written : String} {value delivered : AttributeValue}
    (alike : entry.Alike other) (folded : key name = key written)
    (same : value.bytes = delivered.bytes) :
    (entry.set name value).Alike (other.set written delivered) where
  name := alike.name
  bytes wanted := by
    rw [get_set, get_set, folded]
    split
    · exact same
    · exact alike.bytes wanted

/-- An entry that arrives with these attributes; of two with one name the later one counts. -/
def delivered (name : String) (attributes : List (String × AttributeValue)) : Entry :=
  attributes.foldl (fun entry given => entry.set given.1 given.2) (empty name)

/-- An attribute that another delivery writes with other letter cases or encodes in another way. -/
def Reencoded (given other : String × AttributeValue) : Prop :=
  key given.1 = key other.1 ∧ given.2.bytes = other.2.bytes

/-- How the attributes of an entry are written and encoded is lost when it is delivered. -/
theorem delivered_alike (name : String) {attributes others : List (String × AttributeValue)}
    (reencoded : List.Forall₂ Reencoded attributes others) :
    (delivered name attributes).Alike (delivered name others) := by
  have further {entry other : Entry} (alike : entry.Alike other) :
      (attributes.foldl (fun entry given => entry.set given.1 given.2) entry).Alike
        (others.foldl (fun entry given => entry.set given.1 given.2) other) := by
    induction reencoded generalizing entry other with
    | nil => exact alike
    | cons same _ induction => exact induction (alike.set same.1 same.2)
  exact further (.refl (empty name))

def inBytes (entry : Entry) : Entry :=
  { entry with
    attributes := entry.attributes.map fun given => (given.1, .binaryList given.2.bytes) }

theorem alike_in_bytes (entry : Entry) : entry.Alike entry.inBytes where
  name := rfl
  bytes wanted := by
    unfold get inBytes
    induction entry.attributes with
    | nil => rfl
    | cons given rest induction =>
        rw [List.map_cons, List.lookup_cons, List.lookup_cons]
        cases key wanted == given.1 with
        | true => rfl
        | false => exact induction

end Entry

inductive DirectoryAnswer
  | found (entries : List Entry)
  | done
  | failed (failure : DirectoryError)
  deriving DecidableEq

def Call.told : (request : Call) → request.Answer → DirectoryAnswer
  | .search .., .ok entries => .found entries
  | _, .ok _ => .done
  | _, .error failure => .failed failure

@[simp] theorem Call.told_failure (request : Call) (failure : DirectoryError) :
    request.told (.error failure) = .failed failure := by
  cases request <;> rfl

namespace DirectoryAnswer

/-- The same answer, but for the encoding of the entries found. -/
def Alike : DirectoryAnswer → DirectoryAnswer → Prop
  | found entries, found others => List.Forall₂ Entry.Alike entries others
  | done, done => True
  | failed failure, failed other => failure = other
  | _, _ => False

@[refl] theorem Alike.refl (answer : DirectoryAnswer) : answer.Alike answer := by
  cases answer with
  | found entries => exact List.forall₂_same.mpr fun entry _ => .refl entry
  | done => trivial
  | failed failure => exact rfl

theorem carried_out_unlike_failed (request : Call) (reply : request.Reply)
    (failure : DirectoryError) :
    ¬(request.told (.ok reply)).Alike (failed failure) ∧
      ¬(failed failure).Alike (request.told (.ok reply)) := by
  cases request <;> exact ⟨id, id⟩

end DirectoryAnswer

end TeacherDirectory
