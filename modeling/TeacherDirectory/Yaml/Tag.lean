import TeacherDirectory.Text.Hex
import TeacherDirectory.Yaml.Cursor

/-!
# YAML tags, anchors and directives

A tag is written as a handle and a suffix, or in full between angle brackets. Handles stand for the
beginning of a tag; two are known in every document, and directives declare further ones. A directive
may also state the version of the format.
-/

namespace TeacherDirectory.Yaml

set_option autoImplicit false

/-- Characters that may stand in a tag; some are allowed between angle brackets only. -/
def isTagCharacter (isFull : Bool) (character : Char) : Bool :=
  isWordCharacter character ||
    [';', '/', '?', ':', '@', '&', '=', '+', '$', '.', '%', '!', '~', '*', '\'', '(', ')'].contains
      character ||
    (isFull && [',', '[', ']'].contains character)

def takeEscapes? : Nat → List Char → Option (Text.Bytes × List Char)
  | 0, text => some ([], text)
  | count + 1, text =>
      match text with
      | '%' :: high :: low :: rest => do
          let byte ← Text.hexByte? high low
          let (bytes, rest) ← takeEscapes? count rest
          some (byte :: bytes, rest)
      | _ => none

def sequenceWidth (byte : UInt8) : Nat :=
  if byte.toNat < 0x80 then 1
  else if byte.toNat < 0xc0 then 0
  else if byte.toNat < 0xe0 then 2
  else if byte.toNat < 0xf0 then 3
  else if byte.toNat < 0xf8 then 4
  else 0

def takeEscaped? (text : List Char) : Option (String × Nat) := do
  let (first, _) ← takeEscapes? 1 text
  let width ← first.head?.map sequenceWidth
  if width = 0 then none
  else
    let (bytes, _) ← takeEscapes? width text
    if (bytes.drop 1).all fun byte => 0x80 ≤ byte.toNat && byte.toNat < 0xc0 then
      some (Text.decodeLossy bytes, 3 * width)
    else none

def readTagText? (isFull : Bool) : Nat → Cursor → Option (String × Cursor)
  | 0, _ => none
  | budget + 1, cursor =>
      match cursor.peek? with
      | none => some ("", cursor)
      | some character =>
          if !isTagCharacter isFull character then some ("", cursor)
          else if character = '%' then do
            let (escaped, width) ← takeEscaped? cursor.rest
            let (text, after) ← readTagText? isFull budget (cursor.skip width)
            some (escaped ++ text, after)
          else do
            let (text, after) ← readTagText? isFull budget (cursor.skip 1)
            some (String.singleton character ++ text, after)

def readSuffix? (isFull : Bool) (cursor : Cursor) : Option (String × Cursor) :=
  (readTagText? isFull (cursor.rest.length + 1) cursor).filter fun (text, _) => !text.isEmpty

def readHandle? (cursor : Cursor) : Option (String × Cursor) :=
  if cursor.meets '!' then
    let word := (cursor.skip 1).rest.takeWhile isWordCharacter
    let after := cursor.skip (1 + word.length)
    if after.meets '!' then some (String.ofList ('!' :: word ++ ['!']), after.skip 1)
    else some (String.ofList ('!' :: word), after)
  else none

def isClosed (handle : String) : Bool :=
  1 < handle.length && handle.toList.getLast? == some '!'

/-- A tag as it is written. The empty handle stands in front of a full tag. -/
structure Tag where
  handle : String
  suffix : String
  deriving DecidableEq

/-- Reads a tag, after which a word has to end; between brackets a comma will do too. -/
def readTag? (inFlow : Bool) (cursor : Cursor) : Option (Tag × Cursor) := do
  let (tag, after) ←
    if (cursor.skip 1).meets '<' then do
      let (suffix, after) ← readSuffix? true (cursor.skip 2)
      if after.meets '>' then some (Tag.mk "" suffix, after.skip 1) else none
    else do
      let (handle, afterHandle) ← readHandle? cursor
      if isClosed handle then do
        let (suffix, after) ← readSuffix? false afterHandle
        some (Tag.mk handle suffix, after)
      else do
        let (text, after) ← readTagText? false (afterHandle.rest.length + 1) afterHandle
        let suffix := String.ofList (handle.toList.drop 1) ++ text
        some (if suffix.isEmpty then Tag.mk "" "!" else Tag.mk "!" suffix, after)
  if endsWord after.rest || (inFlow && after.meets ',') then some (tag, after) else none

def readAnchor? (cursor : Cursor) : Option (String × Cursor) :=
  let name := (cursor.skip 1).rest.takeWhile isWordCharacter
  let after := cursor.skip (1 + name.length)
  let isEnd := endsWord after.rest ||
    after.rest.head?.any fun character =>
      ['?', ':', ',', ']', '}', '%', '@', '\x60'].contains character
  if !name.isEmpty && isEnd then some (String.ofList name, after) else none

inductive Directive
  | version (major minor : Nat)
  | tag (handle start : String)
  deriving DecidableEq

/-- Reads a number of at most nine digits. -/
def readVersionNumber? (cursor : Cursor) : Option (Nat × Cursor) :=
  let digits := cursor.rest.takeWhile Char.isDigit
  if digits.isEmpty || 9 < digits.length then none
  else
    let value := digits.foldl (fun value digit => value * 10 + (digit.toNat - '0'.toNat)) 0
    some (value, cursor.skip digits.length)

def readVersion? (cursor : Cursor) : Option (Directive × Cursor) := do
  let (major, after) ← readVersionNumber? (cursor.skipWhile isBlank)
  if after.meets '.' then
    let (minor, after) ← readVersionNumber? (after.skip 1)
    some (.version major minor, after)
  else none

def readDeclaration? (cursor : Cursor) : Option (Directive × Cursor) := do
  let (handle, after) ← readHandle? (cursor.skipWhile isBlank)
  if handle = "!" || isClosed handle then
    if after.peek?.any isBlank then
      let (start, after) ← readSuffix? true (after.skipWhile isBlank)
      if endsWord after.rest then some (.tag handle start, after) else none
    else none
  else none

def readDirective? (cursor : Cursor) : Option (Directive × Cursor) := do
  let name := (cursor.skip 1).rest.takeWhile isWordCharacter
  let after := cursor.skip (1 + name.length)
  if endsWord after.rest then
    let (directive, after) ←
      if name = ['Y', 'A', 'M', 'L'] then readVersion? after
      else if name = ['T', 'A', 'G'] then readDeclaration? after
      else none
    let after ← after.finishLine?
    some (directive, after)
  else none

end TeacherDirectory.Yaml
