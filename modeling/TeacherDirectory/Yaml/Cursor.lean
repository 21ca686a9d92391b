import TeacherDirectory.Text.Utf8

/-!
# Places in a YAML text

A cursor is a place in a text: what follows it, its column and line, and how many bytes of UTF-8 are
behind it. Blanks and tabs separate words; a line ends at a carriage return, a line feed, both in this
order, or one of the three other separators of lines.
-/

namespace TeacherDirectory.Yaml

set_option autoImplicit false

structure Cursor where
  rest : List Char
  column : Nat
  line : Nat
  index : Nat

def isBlank (character : Char) : Bool := character = ' ' || character = '\t'

def nextLine : Char := Char.ofNat 0x85

def lineSeparator : Char := Char.ofNat 0x2028

def paragraphSeparator : Char := Char.ofNat 0x2029

def isBreak (character : Char) : Bool :=
  [ '\r', '\n', nextLine, lineSeparator, paragraphSeparator].contains character

def isSpace (character : Char) : Bool := isBlank character || isBreak character

/-- Whether no word goes on here: at a blank, a line end or the end of the text. -/
def endsWord : List Char → Bool
  | [] => true
  | character :: _ => isSpace character

def isWordCharacter (character : Char) : Bool :=
  character.isAlphanum || character = '-' || character = '_'

def isAllowed (character : Char) : Bool :=
  let code := character.toNat
  code = 0x09 || code = 0x0a || code = 0x0d || (0x20 ≤ code && code ≤ 0x7e) || code = 0x85 ||
    (0xa0 ≤ code && code ≤ 0xd7ff) || (0xe000 ≤ code && code ≤ 0xfffd) || 0x10000 ≤ code

def bytesOf (text : List Char) : Nat :=
  text.foldl (fun bytes character => bytes + character.utf8Size) 0

namespace Cursor

def start (text : List Char) : Cursor := ⟨text, 0, 0, 0⟩

def peek? (cursor : Cursor) : Option Char := cursor.rest.head?

def meets (cursor : Cursor) (character : Char) : Bool := cursor.rest.head? == some character

def skip (cursor : Cursor) (count : Nat) : Cursor :=
  ⟨cursor.rest.drop count, cursor.column + count, cursor.line,
    cursor.index + bytesOf (cursor.rest.take count)⟩

def skipWhile (cursor : Cursor) (kind : Char → Bool) : Cursor :=
  cursor.skip (cursor.rest.takeWhile kind).length

/-- Reads a line end, if there is one. The separators of lines and paragraphs stay what they are. -/
def takeBreak (cursor : Cursor) : List Char × Cursor :=
  match cursor.rest with
  | '\r' :: '\n' :: rest => (['\n'], ⟨rest, 0, cursor.line + 1, cursor.index + 2⟩)
  | character :: rest =>
      if character = lineSeparator || character = paragraphSeparator then
        ([character], ⟨rest, 0, cursor.line + 1, cursor.index + character.utf8Size⟩)
      else if isBreak character then
        (['\n'], ⟨rest, 0, cursor.line + 1, cursor.index + character.utf8Size⟩)
      else ([], cursor)
  | [] => ([], cursor)

def skipBreak (cursor : Cursor) : Cursor := cursor.takeBreak.2

def skipComment (cursor : Cursor) : Cursor :=
  if cursor.meets '#' then cursor.skipWhile fun character => !isBreak character else cursor

def atDocumentMark (cursor : Cursor) : Bool :=
  cursor.column = 0 &&
    match cursor.rest with
    | '-' :: '-' :: '-' :: rest => endsWord rest
    | '.' :: '.' :: '.' :: rest => endsWord rest
    | _ => false

def finishLine? (cursor : Cursor) : Option Cursor :=
  let cursor := (cursor.skipWhile isBlank).skipComment
  if cursor.rest.head?.all isBreak then some cursor.skipBreak else none

end Cursor

end TeacherDirectory.Yaml
