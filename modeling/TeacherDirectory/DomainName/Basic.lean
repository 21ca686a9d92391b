import TeacherDirectory.DomainName.Direction
import TeacherDirectory.DomainName.Joining
import TeacherDirectory.DomainName.Mapping
import TeacherDirectory.DomainName.Punycode

/-!
# Domain names

A domain name consists of labels between periods. It is read in its composed plain form, and labels
that are written in ASCII are decoded. A decoded label has to be in composed plain form already.
-/

namespace TeacherDirectory

set_option autoImplicit false

namespace DomainName

/-- Characters that delimit parts of an address or do not show; they stand in no label. -/
def isForbidden (character : Char) : Bool :=
  ['%', '#', '/', ':', '<', '>', '?', '@', '[', '\\', ']', '^', '|'].contains character ||
    character.toNat ≤ 0x20 || character.toNat = 0x7f

def isAscii (character : Char) : Bool := character.toNat < 0x80

def longest : Nat := 1000

def longestEncoded : Nat := 2000

def isUsable (label : List Char) : Bool :=
  !label.any isForbidden && !label.head?.any isMark && joinersFit [] label &&
    (label.all isAscii || label.length ≤ longest)

def plainText? (text : List Char) : Option (List Char) :=
  (text.mapM plain?).map fun forms => compose forms.flatten

def isPlain (text : List Char) : Bool :=
  plainText? text == some text && !text.any ignored.lists

def encoded? : List Char → Option (List Char)
  | 'x' :: 'n' :: '-' :: '-' :: encoded => some encoded
  | _ => none

/-- Decodes a label. It has to be ASCII, and its last characters have to be insertions. -/
def decodeLabel? (encoded : List Char) : Option (List Char) :=
  if encoded.all isAscii && encoded.getLast?.any (· ≠ '-') && encoded.length ≤ longestEncoded then
    (Punycode.decode? encoded).filter isPlain
  else none

def label? (text : List Char) : Option (List Char) :=
  match encoded? text with
  | some encoded => (decodeLabel? encoded).filter isUsable
  | none => if isUsable text then some text else none

def labels? (text : List Char) : Option (List (List Char)) := do
  let text ← plainText? text
  let labels ← (text.splitOn '.').mapM label?
  if areDirected labels then some labels else none

/-- Reads a domain name. The name is given with decoded labels, and may be empty. -/
def read? (text : List Char) : Option (List Char) :=
  (labels? text).map fun labels => List.intercalate ['.'] labels

end DomainName

end TeacherDirectory
