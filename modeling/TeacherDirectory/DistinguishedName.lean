/-!
# Distinguished names

A distinguished name is a text of components, each `type=value`, separated by commas; the first
component is the leaf. A value is escaped so that it stays inside its component: characters that
have a meaning in a name get a backslash in front, and the null character becomes the pair `\00`.
A name is cut at its first comma that no backslash escapes. Names that are not well formed are
cut by the same rule; nothing here checks types or values.
-/

namespace TeacherDirectory.DistinguishedName

set_option autoImplicit false

def isSpecial (character : Char) : Bool :=
  character = ',' || character = '+' || character = '"' || character = '\\' ||
    character = '<' || character = '>' || character = ';' || character = '='

/-- Escapes one character; a number sign is special only in front, a blank in front and at the
end. -/
def escapeCharacter (isFirst isLast : Bool) (character : Char) : List Char :=
  if isSpecial character then ['\\', character]
  else if character = '#' && isFirst then ['\\', '#']
  else if character = ' ' && (isFirst || isLast) then ['\\', ' ']
  else if character = '\x00' then ['\\', '0', '0']
  else [character]

def escapeFrom (isFirst : Bool) : List Char → List Char
  | [] => []
  | character :: rest =>
      escapeCharacter isFirst rest.isEmpty character ++ escapeFrom false rest

def escapeValue (value : String) : String := String.ofList (escapeFrom true value.toList)

/-- Cuts at the first comma that no backslash escapes; `escaped` tells that a backslash stands
directly in front. -/
def cutFrom (escaped : Bool) : List Char → Option (List Char × List Char)
  | [] => none
  | character :: rest =>
      if escaped then (cutFrom false rest).map fun (leaf, parent) => (character :: leaf, parent)
      else if character = ',' then some ([], rest)
      else (cutFrom (character = '\\') rest).map fun (leaf, parent) => (character :: leaf, parent)

/-- The leaf of a name and the name of its parent; a name of one component has no parent. -/
def split? (name : String) : Option (String × String) :=
  (cutFrom false name.toList).map fun (leaf, parent) => (String.ofList leaf, String.ofList parent)

def component (type value : String) : String := type ++ "=" ++ escapeValue value

def below (leaf parent : String) : String := leaf ++ "," ++ parent

def userComponent (username : String) : String := component "uid" username

/-- Puts the component of a username in place of the leaf and keeps the parent, if there is one. -/
def renameUser (name username : String) : String :=
  match split? name with
  | some (_, parent) => below (userComponent username) parent
  | none => userComponent username

end TeacherDirectory.DistinguishedName
