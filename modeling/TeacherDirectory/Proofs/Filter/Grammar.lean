import TeacherDirectory.Filter

/-!
# The grammar of filters

RFC 4515 derives the texts of filters and tells which condition each of them stands for. Here is its
grammar as a relation between texts and conditions, one constructor for each alternative of a rule,
with the comparisons that no filter of this library makes. A value is the bytes that its characters
and its pairs of digits stand for.
-/

namespace TeacherDirectory.Filter

set_option autoImplicit false

open Text

inductive Comparison
  | equal
  | approximate
  | atLeast
  | atMost

/-- `filtertype = equal / approx / greaterorequal / lessorequal` -/
def Comparison.sign : Comparison → List Char
  | equal => ['=']
  | approximate => ['~', '=']
  | atLeast => ['>', '=']
  | atMost => ['<', '=']

inductive Condition
  | compare (name : String) (comparison : Comparison) (value : Bytes)
  | present (name : String)
  | substrings (name : String) (start : Option Bytes) (middle : List Bytes)
      (finish : Option Bytes)
  | extensible (name : Option String) (ofName : Bool) (rule : Option String) (value : Bytes)
  | all (conditions : List Condition)
  | any (conditions : List Condition)
  | not (condition : Condition)

/-- `keychar = ALPHA / DIGIT / HYPHEN` -/
def isKeyLetter (letter : Char) : Bool := letter.isAlphanum || letter = '-'

/-- `keystring = leadkeychar *keychar` -/
def isKey : List Char → Bool
  | [] => false
  | first :: rest => first.isAlpha && rest.all isKeyLetter

/-- `number = DIGIT / ( LDIGIT 1*DIGIT )` -/
def isNumber : List Char → Bool
  | [] => false
  | [digit] => digit.isDigit
  | first :: rest => first.isDigit && first ≠ '0' && rest.all Char.isDigit

/-- `oid = descr / numericoid` and `numericoid = number 1*( DOT number )` -/
inductive IsIdentifier : List Char → Prop
  | key {letters : List Char} (key : isKey letters = true) : IsIdentifier letters
  | numeric {first second : List Char} {others : List (List Char)}
      (numbers : ∀ number ∈ first :: second :: others, isNumber number = true) :
      IsIdentifier (first ++ (second :: others).flatMap ('.' :: ·))

/-- `attributedescription = attributetype *( SEMI option )` and `option = 1*keychar` -/
inductive IsAttribute : List Char → Prop
  | described {type : List Char} {options : List (List Char)} (identifies : IsIdentifier type)
      (nonempty : ∀ option ∈ options, option ≠ [])
      (keys : ∀ option ∈ options, option.all isKeyLetter) :
      IsAttribute (type ++ options.flatMap (';' :: ·))

/-- `normal = UTF1SUBSET / UTFMB` -/
def isNormal (letter : Char) : Bool := letter ∉ ['\x00', '(', ')', '*', '\\']

/-- `valueencoding = 0*(normal / escaped)` and `escaped = ESC HEX HEX` -/
inductive IsValue : List Char → Bytes → Prop
  | nothing : IsValue [] []
  | normal {letter : Char} {text : List Char} {value : Bytes} (plain : isNormal letter = true)
      (further : IsValue text value) :
      IsValue (letter :: text) (String.utf8EncodeChar letter ++ value)
  | escaped {high low : Char} {byte : UInt8} {text : List Char} {value : Bytes}
      (digits : hexByte? high low = some byte) (further : IsValue text value) :
      IsValue ('\\' :: high :: low :: text) (byte :: value)

/-- `[initial]` and `[final]` -/
inductive IsEnd : List Char → Option Bytes → Prop
  | absent : IsEnd [] none
  | given {text : List Char} {value : Bytes} (isValue : IsValue text value) : IsEnd text (some value)

/-- `any = ASTERISK *(assertionvalue ASTERISK)` -/
inductive IsMiddle : List Char → List Bytes → Prop
  | asterisk : IsMiddle ['*'] []
  | value {text rest : List Char} {value : Bytes} {values : List Bytes}
      (isValue : IsValue text value) (further : IsMiddle rest values) :
      IsMiddle ('*' :: (text ++ rest)) (value :: values)

/-- `[attr]` -/
inductive IsSubject : List Char → Option String → Prop
  | absent : IsSubject [] none
  | given {name : String} (described : IsAttribute name.toList) :
      IsSubject name.toList (some name)

/-- `[dnattrs]`, where `dnattrs = COLON "dn"` in any letter case -/
inductive IsNameMark : List Char → Bool → Prop
  | absent : IsNameMark [] false
  | given {letters : List Char} (mark : letters.map Char.toLower = ['d', 'n']) :
      IsNameMark (':' :: letters) true

/-- `[matchingrule]`, where `matchingrule = COLON oid` -/
inductive IsRule : List Char → Option String → Prop
  | absent : IsRule [] none
  | given {rule : String} (identifies : IsIdentifier rule.toList) :
      IsRule (':' :: rule.toList) (some rule)

/-- `item = simple / present / substring / extensible`. A lone asterisk denotes presence only. -/
inductive IsItem : List Char → Condition → Prop
  | simple {name : String} {comparison : Comparison} {text : List Char} {value : Bytes}
      (described : IsAttribute name.toList) (isValue : IsValue text value) :
      IsItem (name.toList ++ (comparison.sign ++ text)) (.compare name comparison value)
  | present {name : String} (described : IsAttribute name.toList) :
      IsItem (name.toList ++ ['=', '*']) (.present name)
  | substrings {name : String} {front between behind : List Char} {start finish : Option Bytes}
      {middle : List Bytes} (described : IsAttribute name.toList) (starts : IsEnd front start)
      (goesOn : IsMiddle between middle) (finishes : IsEnd behind finish)
      (notLone : front ++ (between ++ behind) ≠ ['*']) :
      IsItem (name.toList ++ '=' :: (front ++ (between ++ behind)))
        (.substrings name start middle finish)
  | extensible {subject mark chosen text : List Char} {name rule : Option String}
      {ofName : Bool} {value : Bytes} (isSubject : IsSubject subject name)
      (isMark : IsNameMark mark ofName) (isRule : IsRule chosen rule)
      (matched : name ≠ none ∨ rule ≠ none) (isValue : IsValue text value) :
      IsItem (subject ++ (mark ++ (chosen ++ ':' :: '=' :: text)))
        (.extensible name ofName rule value)

mutual

/-- `filter = LPAREN ( and / or / not / item ) RPAREN` -/
inductive IsFilter : List Char → Condition → Prop
  | all {text : List Char} {conditions : List Condition} (listed : IsFilterList text conditions) :
      IsFilter ('(' :: '&' :: (text ++ [')'])) (.all conditions)
  | any {text : List Char} {conditions : List Condition} (listed : IsFilterList text conditions) :
      IsFilter ('(' :: '|' :: (text ++ [')'])) (.any conditions)
  | not {text : List Char} {condition : Condition} (denied : IsFilter text condition) :
      IsFilter ('(' :: '!' :: (text ++ [')'])) (.not condition)
  | item {text : List Char} {condition : Condition} (isItem : IsItem text condition) :
      IsFilter ('(' :: (text ++ [')'])) condition

/-- `filterlist = 1*filter` -/
inductive IsFilterList : List Char → List Condition → Prop
  | one {text : List Char} {condition : Condition} (isFilter : IsFilter text condition) :
      IsFilterList text [condition]
  | more {text rest : List Char} {condition : Condition} {conditions : List Condition}
      (isFilter : IsFilter text condition) (listed : IsFilterList rest conditions) :
      IsFilterList (text ++ rest) (condition :: conditions)

end

mutual

def condition : Filter String → Condition
  | equal name value => .compare name .equal (encode value)
  | present name => .present name
  | all filters => .all (conditions filters)
  | any filters => .any (conditions filters)
  | not filter => .not (condition filter)

def conditions : List (Filter String) → List Condition
  | [] => []
  | filter :: rest => condition filter :: conditions rest

end

mutual

/-- The grammar has a text for the filter: names are names, and a combination has something to
combine. -/
def Expressible : Filter String → Prop
  | equal name _ => IsAttribute name.toList
  | present name => IsAttribute name.toList
  | all filters => filters ≠ [] ∧ AllExpressible filters
  | any filters => filters ≠ [] ∧ AllExpressible filters
  | not filter => Expressible filter

def AllExpressible : List (Filter String) → Prop
  | [] => True
  | filter :: rest => Expressible filter ∧ AllExpressible rest

end

end TeacherDirectory.Filter
