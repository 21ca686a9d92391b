import Mathlib.Data.List.Forall2
import TeacherDirectory.Json.Text

/-!
# The grammar of JSON

The grammar of JSON derives the texts that are values. Here is one relation for each of its rules.
What may stand between quotation marks is derived without a meaning; where it has one, the characters
that it stands for are told beside it. Surrogates stand for a character in pairs only, so some strings
of the grammar have no meaning. An object is told by its keys, each with the text of its value.
-/

namespace TeacherDirectory.Json

set_option autoImplicit false

open Text

/-- `ws = *( %x20 / %x09 / %x0A / %x0D )` -/
def AreBlanks (letters : List Char) : Prop := ∀ letter ∈ letters, isBlank letter = true

def AreDigits (letters : List Char) : Prop := ∀ letter ∈ letters, letter.isDigit = true

/-- `int = zero / ( digit1-9 *DIGIT )` -/
inductive IsInteger : List Char → Prop
  | zero : IsInteger ['0']
  | positive {digit : Char} {digits : List Char} (leads : digit.isDigit = true)
      (nonzero : digit ≠ '0') (further : AreDigits digits) : IsInteger (digit :: digits)

/-- `[ frac ]` and `frac = decimal-point 1*DIGIT` -/
inductive IsFraction : List Char → Prop
  | absent : IsFraction []
  | given {digits : List Char} (nonempty : digits ≠ []) (areDigits : AreDigits digits) :
      IsFraction ('.' :: digits)

/-- `[ exp ]` and `exp = e [ minus / plus ] 1*DIGIT` -/
inductive IsExponent : List Char → Prop
  | absent : IsExponent []
  | given {mark : Char} {sign digits : List Char} (marks : mark = 'e' ∨ mark = 'E')
      (signs : sign = [] ∨ sign = ['+'] ∨ sign = ['-']) (nonempty : digits ≠ [])
      (areDigits : AreDigits digits) : IsExponent (mark :: (sign ++ digits))

/-- `number = [ minus ] int [ frac ] [ exp ]` -/
inductive IsNumber : List Char → Prop
  | number {sign integer fraction exponent : List Char} (signs : sign = [] ∨ sign = ['-'])
      (isInteger : IsInteger integer) (isFraction : IsFraction fraction)
      (isExponent : IsExponent exponent) :
      IsNumber (sign ++ (integer ++ (fraction ++ exponent)))

/-- `unescaped = %x20-21 / %x23-5B / %x5D-10FFFF` -/
def isUnescaped (letter : Char) : Bool :=
  letter ≠ '"' && (letter ≠ '\\' && 0x20 ≤ letter.toNat)

inductive Names : Char → Char → Prop
  | quotation : Names '"' '"'
  | backslash : Names '\\' '\\'
  | slash : Names '/' '/'
  | backspace : Names 'b' '\x08'
  | formFeed : Names 'f' '\x0c'
  | lineFeed : Names 'n' '\x0a'
  | carriageReturn : Names 'r' '\x0d'
  | tab : Names 't' '\x09'

/-- `4HEXDIG`, with the number that it stands for. -/
inductive IsUnit : List Char → Nat → Prop
  | digits {first second third fourth : Char} {high upper lower low : Nat}
      (firstDigit : hexValue? first = some high) (secondDigit : hexValue? second = some upper)
      (thirdDigit : hexValue? third = some lower) (fourthDigit : hexValue? fourth = some low) :
      IsUnit [first, second, third, fourth] (((high * 16 + upper) * 16 + lower) * 16 + low)

inductive IsEscape : List Char → Prop
  | named {letter character : Char} (names : Names letter character) : IsEscape [letter]
  | unit {digits : List Char} {code : Nat} (isUnit : IsUnit digits code) :
      IsEscape ('u' :: digits)

/-- `*char`, where `char = unescaped / escape ( .. )` -/
inductive IsQuoted : List Char → Prop
  | nothing : IsQuoted []
  | plain {letter : Char} {text : List Char} (unescaped : isUnescaped letter = true)
      (further : IsQuoted text) : IsQuoted (letter :: text)
  | escaped {escape text : List Char} (isEscape : IsEscape escape) (further : IsQuoted text) :
      IsQuoted ('\\' :: (escape ++ text))

/-- What stands for a character behind a backslash. A character of more than sixteen bits is a pair
of surrogates. -/
inductive Escapes : Char → List Char → Prop
  | named {letter character : Char} (names : Names letter character) : Escapes character [letter]
  | unit {character : Char} {digits : List Char} (isUnit : IsUnit digits character.toNat) :
      Escapes character ('u' :: digits)
  | pair {character : Char} {high low : List Char} {leading trailing : Nat}
      (highUnit : IsUnit high leading) (lowUnit : IsUnit low trailing)
      (leads : 0xd800 ≤ leading ∧ leading ≤ 0xdbff) (trails : 0xdc00 ≤ trailing ∧ trailing ≤ 0xdfff)
      (same : character.toNat = 0x10000 + (leading - 0xd800) * 0x400 + (trailing - 0xdc00)) :
      Escapes character ('u' :: (high ++ '\\' :: 'u' :: low))

inductive Spells : List Char → List Char → Prop
  | nothing : Spells [] []
  | plain {letter : Char} {value text : List Char} (unescaped : isUnescaped letter = true)
      (further : Spells value text) : Spells (letter :: value) (letter :: text)
  | escaped {character : Char} {value escape text : List Char} (escapes : Escapes character escape)
      (further : Spells value text) : Spells (character :: value) ('\\' :: (escape ++ text))

def quoted (text : List Char) : List Char := '"' :: (text ++ ['"'])

structure Padded where
  before : List Char
  text : List Char
  after : List Char
  blankBefore : AreBlanks before
  blankAfter : AreBlanks after

def Padded.letters (padded : Padded) : List Char := padded.before ++ (padded.text ++ padded.after)

structure Member where
  name : Padded
  value : Padded

/-- `member = string name-separator value` -/
def Member.letters (member : Member) : List Char :=
  member.name.before ++
    (quoted member.name.text ++ (member.name.after ++ ':' :: member.value.letters))

theorem Member.letters_append (member : Member) (rest : List Char) :
    member.letters ++ rest = member.name.before ++ '"' :: (member.name.text ++
      '"' :: (member.name.after ++ ':' :: (member.value.letters ++ rest))) := by
  simp [letters, quoted]

def commas (items : List (List Char)) : List Char := List.intercalate [','] items

theorem commas_single (item : List Char) : commas [item] = item := List.intercalate_singleton

theorem commas_more (item next : List Char) (items : List (List Char)) :
    commas (item :: next :: items) = item ++ ',' :: commas (next :: items) := by
  rw [commas, List.intercalate_cons_cons, List.append_assoc, List.singleton_append, commas]

def behind (close : Char) : List (List Char) → List Char → List Char
  | [], rest => close :: rest
  | item :: items, rest => ',' :: (commas (item :: items) ++ close :: rest)

theorem commas_behind (close : Char) (item : List Char) (items : List (List Char))
    (rest : List Char) :
    commas (item :: items) ++ close :: rest = item ++ behind close items rest := by
  cases items with
  | nil => rw [commas_single, behind]
  | cons next items => rw [commas_more, behind, List.append_assoc, List.cons_append]

/-- `[ item *( value-separator item ) ]`, blank if there is no item. -/
inductive IsListing : List (List Char) → List Char → Prop
  | none {blanks : List Char} (areBlanks : AreBlanks blanks) : IsListing [] blanks
  | items {items : List (List Char)} (nonempty : items ≠ []) : IsListing items (commas items)

/-- `value = false / null / true / object / array / number / string` -/
inductive IsValue : List Char → Prop
  | null : IsValue ['n', 'u', 'l', 'l']
  | yes : IsValue ['t', 'r', 'u', 'e']
  | no : IsValue ['f', 'a', 'l', 's', 'e']
  | number {text : List Char} (isNumber : IsNumber text) : IsValue text
  | string {text : List Char} (isQuoted : IsQuoted text) : IsValue (quoted text)
  | array {items : List Padded} {body : List Char}
      (listed : IsListing (items.map Padded.letters) body)
      (values : ∀ item ∈ items, IsValue item.text) : IsValue ('[' :: (body ++ [']']))
  | object {members : List Member} {body : List Char}
      (listed : IsListing (members.map Member.letters) body)
      (names : ∀ member ∈ members, IsQuoted member.name.text)
      (values : ∀ member ∈ members, IsValue member.value.text) :
      IsValue ('\x7b' :: (body ++ ['\x7d']))

/-- A member as it is written holds a key and the text of its value. -/
structure Member.Holds (told : String × List Char) (member : Member) : Prop where
  key : Spells told.1.toList member.name.text
  value : member.value.text = told.2
  isValue : IsValue told.2

inductive IsObject : List (String × List Char) → List Char → Prop
  | object {members : List (String × List Char)} {written : List Member}
      {before body after : List Char} (blankBefore : AreBlanks before) (blankAfter : AreBlanks after)
      (listed : IsListing (written.map Member.letters) body)
      (holds : List.Forall₂ Member.Holds members written) :
      IsObject members (before ++ '\x7b' :: (body ++ '\x7d' :: after))

inductive IsArray : List (List Char) → List Char → Prop
  | array {items : List Padded} {before body after : List Char} (blankBefore : AreBlanks before)
      (blankAfter : AreBlanks after) (listed : IsListing (items.map Padded.letters) body)
      (values : ∀ item ∈ items, IsValue item.text) :
      IsArray (items.map Padded.text) (before ++ '[' :: (body ++ ']' :: after))

end TeacherDirectory.Json
