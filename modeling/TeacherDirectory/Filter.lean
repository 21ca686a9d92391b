import TeacherDirectory.Text.Hex
import TeacherDirectory.Text.Utf8

/-!
# Search filters

A filter is a condition on entries: an attribute has a value, is present at all, or a combination
of conditions. Its text puts every condition in parentheses. Inside an asserted value the
characters that delimit conditions, the backslash and the null character are written as a
backslash with two hexadecimal digits. Reading works on bytes, so a value that is read is a byte
string; comparisons other than equality and presence are not part of the grammar.
-/

namespace TeacherDirectory

set_option autoImplicit false

open Text

inductive Filter (Value : Type)
  | equal (name : String) (value : Value)
  | present (name : String)
  | all (conditions : List (Filter Value))
  | any (conditions : List (Filter Value))
  | not (condition : Filter Value)

namespace Filter

def escapeCharacter (character : Char) : List Char :=
  if character = '*' then ['\\', '2', 'a']
  else if character = '(' then ['\\', '2', '8']
  else if character = ')' then ['\\', '2', '9']
  else if character = '\\' then ['\\', '5', 'c']
  else if character = '\x00' then ['\\', '0', '0']
  else [character]

def escapeValue (value : String) : String := String.ofList (value.toList.flatMap escapeCharacter)

mutual

def render : Filter String → String
  | equal name value => "(" ++ name ++ "=" ++ escapeValue value ++ ")"
  | present name => "(" ++ name ++ "=*)"
  | all conditions => "(&" ++ renderAll conditions ++ ")"
  | any conditions => "(|" ++ renderAll conditions ++ ")"
  | not condition => "(!" ++ render condition ++ ")"

def renderAll : List (Filter String) → String
  | [] => ""
  | condition :: rest => render condition ++ renderAll rest

end

def isNameStart (byte : UInt8) : Bool :=
  (0x41 ≤ byte.toNat && byte.toNat ≤ 0x5a) || (0x61 ≤ byte.toNat && byte.toNat ≤ 0x7a)

def isNameByte (byte : UInt8) : Bool :=
  isNameStart byte || (0x30 ≤ byte.toNat && byte.toNat ≤ 0x39) || byte.toNat == 0x2d

/-- Bytes that may stand unescaped in an asserted value: all but null, the parentheses, the
asterisk and the backslash. -/
def isValueByte (byte : UInt8) : Bool :=
  !(byte.toNat == 0x00 || byte.toNat == 0x28 || byte.toNat == 0x29 || byte.toNat == 0x2a ||
    byte.toNat == 0x5c)

def readValue? : Bytes → Option (Bytes × Bytes)
  | [] => some ([], [])
  | byte :: rest =>
      if byte.toNat = 0x5c then
        match rest with
        | high :: low :: rest => do
            let decoded ← hexByte? (Char.ofNat high.toNat) (Char.ofNat low.toNat)
            let (value, rest) ← readValue? rest
            some (decoded :: value, rest)
        | _ => none
      else if isValueByte byte then do
        let (value, rest) ← readValue? rest
        some (byte :: value, rest)
      else some ([], byte :: rest)

def readName? : Bytes → Option (String × Bytes)
  | [] => none
  | byte :: rest =>
      if isNameStart byte then
        let name := byte :: rest.takeWhile isNameByte
        some (String.ofList (name.map fun byte => Char.ofNat byte.toNat), rest.dropWhile isNameByte)
      else none

def readItem? (bytes : Bytes) : Option (Filter Bytes × Bytes) := do
  let (name, rest) ← readName? bytes
  match rest with
  | separator :: rest =>
      if separator.toNat = 0x3d then
        match rest with
        | asterisk :: after =>
            if asterisk.toNat = 0x2a then some (present name, after)
            else (readValue? rest).map fun (value, rest) => (equal name value, rest)
        | [] => some (equal name [], [])
      else none
  | [] => none

def closed? {Value : Type} (read : Option (Value × Bytes)) : Option (Value × Bytes) := do
  let (value, rest) ← read
  match rest with
  | byte :: rest => if byte.toNat = 0x29 then some (value, rest) else none
  | [] => none

mutual

/-- Reads what stands between the parentheses of a filter; each nested filter costs one unit of
the budget. -/
def readInside? : Nat → Bytes → Option (Filter Bytes × Bytes)
  | 0, _ => none
  | _, [] => none
  | budget + 1, byte :: rest =>
      if byte.toNat = 0x26 then
        (readMany budget rest).map fun (conditions, rest) => (all conditions, rest)
      else if byte.toNat = 0x7c then
        (readMany budget rest).map fun (conditions, rest) => (any conditions, rest)
      else if byte.toNat = 0x21 then
        match rest with
        | opening :: rest =>
            if opening.toNat = 0x28 then
              (closed? (readInside? budget rest)).map fun (condition, rest) => (not condition, rest)
            else none
        | [] => none
      else readItem? (byte :: rest)

def readMany : Nat → Bytes → Option (List (Filter Bytes) × Bytes)
  | 0, _ => none
  | _, [] => some ([], [])
  | budget + 1, byte :: rest =>
      if byte.toNat = 0x28 then do
        let (condition, rest) ← closed? (readInside? budget rest)
        let (conditions, rest) ← readMany budget rest
        some (condition :: conditions, rest)
      else some ([], byte :: rest)

end

/-- Reads a text as one filter with nothing after it. The outermost parentheses of an item may be
left out. -/
def read? (text : String) : Option (Filter Bytes) :=
  let bytes := encode text
  let result := match bytes with
    | byte :: rest =>
        if byte.toNat = 0x28 then closed? (readInside? bytes.length rest) else readItem? bytes
    | [] => none
  match result with
  | some (condition, []) => some condition
  | _ => none

end Filter

def Filter.byUsername (username : String) : Filter String := .equal "uid" username

def Filter.byMember (name : String) : Filter String := .equal "member" name

end TeacherDirectory
