import TeacherDirectory.Json.Text

/-!
# JSON numbers

No number is ever the value of a member here. A number that is passed over has to be well formed. A
number that stands where a text should be is looked at more closely: it also has to be in the range of
binary64, and only then is its shape the fault. Its significand keeps what fits in 64 bits; digits
beyond that change the exponent only.
-/

namespace TeacherDirectory.Json

set_option autoImplicit false

def skipDigits (text : List Char) : List Char := text.dropWhile Char.isDigit

def skipExponent (text : List Char) : Except Fault (List Char) :=
  let digits := match text with
    | '+' :: rest => rest
    | '-' :: rest => rest
    | _ => text
  if digits.head?.any Char.isDigit then .ok (skipDigits digits) else .error .malformed

def skipFraction : List Char → Except Fault (List Char)
  | '.' :: text =>
      if text.head?.any Char.isDigit then
        match skipDigits text with
        | 'e' :: rest => skipExponent rest
        | 'E' :: rest => skipExponent rest
        | rest => .ok rest
      else .error .malformed
  | 'e' :: text => skipExponent text
  | 'E' :: text => skipExponent text
  | text => .ok text

/-- Passes over a number, its sign being read. -/
def skipNumber : List Char → Except Fault (List Char)
  | '0' :: text => if text.head?.any Char.isDigit then .error .malformed else skipFraction text
  | text => if text.head?.any Char.isDigit then skipFraction (skipDigits text) else .error .malformed

def isTooLarge (significand : Nat) (exponent : Int) : Bool :=
  significand ≠ 0 && 0 ≤ exponent &&
    (308 < exponent ||
      (Float.ofNat significand * Float.ofScientific 1 false exponent.toNat).isInf)

def completeFault (significand : Nat) (exponent : Int) : Fault :=
  if isTooLarge significand exponent then .malformed else .mismatched

def digitValue (digit : Char) : Nat := digit.toNat - '0'.toNat

def absorb? (significand : Nat) (digit : Char) : Option Nat :=
  let value := significand * 10 + digitValue digit
  if value < Nat.pow 2 64 then some value else none

def exponentFault (significand : Nat) (exponent : Int) (text : List Char) : Fault :=
  let (isNegative, digits) := match text with
    | '+' :: rest => (false, rest)
    | '-' :: rest => (true, rest)
    | _ => (false, text)
  match digits with
  | [] => .ended
  | digit :: _ =>
      if digit.isDigit then
        let value := (digits.takeWhile Char.isDigit).foldl
          (fun value digit => value * 10 + digitValue digit) 0
        if Nat.pow 2 31 ≤ value then
          if significand ≠ 0 && !isNegative then .malformed else .mismatched
        else completeFault significand (if isNegative then exponent - value else exponent + value)
      else .malformed

def tailFault (significand : Nat) (exponent : Int) : List Char → Fault
  | 'e' :: text => exponentFault significand exponent text
  | 'E' :: text => exponentFault significand exponent text
  | _ => completeFault significand exponent

def fractionFault (significand : Nat) (exponent : Int) (hasDigit : Bool) : List Char → Fault
  | [] => if hasDigit then completeFault significand exponent else .ended
  | digit :: text =>
      if digit.isDigit then
        match absorb? significand digit with
        | some significand => fractionFault significand (exponent - 1) true text
        | none => tailFault significand exponent (skipDigits text)
      else if hasDigit then tailFault significand exponent (digit :: text)
      else .malformed

def pointFault (significand : Nat) (exponent : Int) : List Char → Fault
  | '.' :: text => fractionFault significand exponent false text
  | text => tailFault significand exponent text

def integerFault (significand : Nat) : List Char → Fault
  | [] => pointFault significand 0 []
  | digit :: text =>
      if digit.isDigit then
        match absorb? significand digit with
        | some significand => integerFault significand text
        | none =>
            let surplus := (digit :: text).takeWhile Char.isDigit
            pointFault significand surplus.length (skipDigits text)
      else pointFault significand 0 (digit :: text)

/-- The fault of a number that stands in the wrong place, its sign being read. -/
def numberFault : List Char → Fault
  | [] => .ended
  | '0' :: text => if text.head?.any Char.isDigit then .malformed else pointFault 0 0 text
  | digit :: text => if digit.isDigit then integerFault 0 (digit :: text) else .malformed

end TeacherDirectory.Json
