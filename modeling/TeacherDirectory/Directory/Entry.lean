import TeacherDirectory.Text.Utf8

/-!
# Directory entries

An entry has a name and attributes. A value is delivered as text or as bytes, alone or in a list;
readers see the same ordered list of texts for all of these. Attribute names are compared with the
ASCII letters folded to lower case; other letters keep their case.
-/

namespace TeacherDirectory

set_option autoImplicit false

open Text

inductive AttributeValue
  | absent
  | text (value : String)
  | textList (values : List String)
  | binary (value : Bytes)
  | binaryList (values : List Bytes)
  deriving DecidableEq

namespace AttributeValue

/-- The values as texts, in order. Bytes that are not text are replaced. -/
def texts : AttributeValue → List String
  | absent => []
  | text value => [value]
  | textList values => values
  | binary value => [decodeLossy value]
  | binaryList values => values.map decodeLossy

/-- A list of texts; none is absent and one stands alone. -/
def ofTexts : List String → AttributeValue
  | [] => absent
  | [value] => text value
  | values => textList values

def ofBinaries : List Bytes → AttributeValue
  | [] => absent
  | [value] => binary value
  | values => binaryList values

end AttributeValue

/-- An entry found by a search. Of two attributes with one name the one in front counts. -/
structure Entry where
  name : String
  attributes : List (String × AttributeValue)
  deriving DecidableEq

namespace Entry

def key (name : String) : String := name.map Char.toLower

def empty (name : String) : Entry := ⟨name, []⟩

def set (entry : Entry) (name : String) (value : AttributeValue) : Entry :=
  { entry with attributes := (key name, value) :: entry.attributes }

def get (entry : Entry) (name : String) : AttributeValue :=
  (entry.attributes.lookup (key name)).getD .absent

def values (entry : Entry) (name : String) : List String := (entry.get name).texts

def first? (entry : Entry) (name : String) : Option String := (entry.values name).head?

end Entry

structure SearchResult where
  name : String
  texts : List (String × List String)
  binaries : List (String × List Bytes)

/-- Collects both kinds of attributes; a binary one wins over a text one of the same name. -/
def SearchResult.entry (result : SearchResult) : Entry :=
  let withTexts := result.texts.foldl (fun entry (name, values) =>
    entry.set name (.ofTexts values)) (Entry.empty result.name)
  result.binaries.foldl (fun entry (name, values) => entry.set name (.ofBinaries values)) withTexts

end TeacherDirectory
