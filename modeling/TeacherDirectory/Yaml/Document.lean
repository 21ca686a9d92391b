import TeacherDirectory.Yaml.Node

/-!
# YAML documents as data

A document is asked for texts, numbers and fields. A text is a scalar just as it is written, whatever
its style. A number is written plainly, or as a literal block that is tagged as a number. Null is a
plain scalar that is empty, a tilde or one of three spellings of the word, unless a tag says otherwise.
Fields are the members of a mapping by their keys, and content that is left out is a mapping without
members. References lead to what they refer to wherever data is asked for.
-/

namespace TeacherDirectory.Yaml

set_option autoImplicit false

namespace Node

mutual

/-- All content with an anchor, by the anchor's number, in the order of the text. -/
def anchors : Node → List (Nat × Node)
  | .scalar _ _ _ => []
  | .sequence items => anchorsOfItems items
  | .mapping members => anchorsOfMembers members
  | .anchored number content => (number, content) :: anchors content
  | .reference _ => []

def anchorsOfItems : List Node → List (Nat × Node)
  | [] => []
  | item :: items => anchors item ++ anchorsOfItems items

def anchorsOfMembers : List (Node × Node) → List (Nat × Node)
  | [] => []
  | (key, value) :: members => anchors key ++ (anchors value ++ anchorsOfMembers members)

end

end Node

structure Document where
  root : Node

namespace Document

def read? (text : String) : Option Document := (Node.read? text).map Document.mk

/-- Follows a reference, and drops an anchor. Of anchors with one number the last counts. -/
def resolve? (document : Document) : Node → Option Node
  | .reference number => document.root.anchors.reverse.lookup number
  | .anchored _ content => some content
  | node => some node

def text? (document : Document) (node : Node) : Option String :=
  match document.resolve? node with
  | some (.scalar text _ _) => some text
  | _ => none

def isNullWord (text : String) : Bool := ["~", "null", "Null", "NULL"].contains text

def nullTag : String := "tag:yaml.org,2002:null"

def numberTag : String := "tag:yaml.org,2002:int"

/-- Whether content is null. Under the tag of null nothing else is allowed. -/
def isNull? : Node → Option Bool
  | .scalar text .plain none => some (text.isEmpty || isNullWord text)
  | .scalar text .plain (some tag) =>
      if tag = nullTag then (if isNullWord text then some true else none) else some false
  | _ => some false

def optional? {Value : Type} (document : Document) (read : Node → Option Value) (node : Node) :
    Option (Option Value) := do
  let content ← document.resolve? node
  if ← isNull? content then some none else (read content).map some

def digitsValue? (base : Nat) (digits : List Char) : Option Nat :=
  if digits.isEmpty then none
  else
    digits.foldlM (fun value digit => do
      let next ← Text.hexValue? digit
      if next < base then some (value * base + next) else none) 0

def isPadded : List Char → Bool
  | '0' :: rest => !rest.isEmpty && rest.all Char.isDigit
  | _ => false

def basedDigits : List Char → Nat × List Char
  | '0' :: 'x' :: digits => (16, digits)
  | '0' :: 'o' :: digits => (8, digits)
  | '0' :: 'b' :: digits => (2, digits)
  | digits => (10, digits)

def naturalOf? (text : String) : Option Nat :=
  let unsigned := match text.toList with
    | '+' :: rest => rest
    | characters => characters
  if isPadded unsigned then none
  else
    let (base, digits) := basedDigits unsigned
    digitsValue? base digits

def isNumeric (style : ScalarStyle) (tag : Option String) : Bool :=
  style = .plain || (style = .literal && tag = some numberTag)

def natural? (document : Document) (bound : Nat) (node : Node) : Option Nat :=
  match document.resolve? node with
  | some (.scalar text style tag) =>
      if isNumeric style tag then (naturalOf? text).filter (· < bound) else none
  | _ => none

abbrev Fields := List (String × Node)

def members? (document : Document) (node : Node) : Option (List (Node × Node)) :=
  match document.resolve? node with
  | some (.mapping members) => some members
  | some (.scalar text .plain _) => if text.isEmpty then some [] else none
  | _ => none

/-- The fields of a mapping that are asked for, none of which may occur twice. All keys have to be
texts. -/
def fields? (document : Document) (names : List String) (node : Node) : Option Fields := do
  let members ← document.members? node
  let fields ← members.mapM fun (key, value) =>
    (document.text? key).map fun name => (name, value)
  let fields := fields.filter fun (name, _) => names.contains name
  if (fields.map Prod.fst).eraseDups.length = fields.length then some fields else none

def Fields.required? {Value : Type} (fields : Fields) (name : String)
    (read : Node → Option Value) : Option Value :=
  (fields.lookup name).bind read

def Fields.optional? {Value : Type} (fields : Fields) (name : String) (document : Document)
    (read : Node → Option Value) : Option (Option Value) :=
  match fields.lookup name with
  | some node => document.optional? read node
  | none => some none

end Document

end TeacherDirectory.Yaml
