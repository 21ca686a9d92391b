/-!
# Hexadecimal digits

Reading accepts both letter cases and writing uses lower case. A pair of digits stands for one
byte; an odd digit at the end makes the whole text unreadable.
-/

namespace TeacherDirectory.Text

set_option autoImplicit false

def hexValue? (digit : Char) : Option Nat :=
  if '0' ≤ digit ∧ digit ≤ '9' then some (digit.toNat - '0'.toNat)
  else if 'a' ≤ digit ∧ digit ≤ 'f' then some (digit.toNat - 'a'.toNat + 10)
  else if 'A' ≤ digit ∧ digit ≤ 'F' then some (digit.toNat - 'A'.toNat + 10)
  else none

def hexDigit (value : Nat) : Char :=
  if value < 10 then Char.ofNat ('0'.toNat + value) else Char.ofNat ('a'.toNat + (value - 10))

def hexByte? (high low : Char) : Option UInt8 := do
  let high ← hexValue? high
  let low ← hexValue? low
  some (UInt8.ofNat (16 * high + low))

def hexPair (byte : UInt8) : List Char :=
  [hexDigit (byte.toNat / 16), hexDigit (byte.toNat % 16)]

def encodeHex (bytes : List UInt8) : List Char := bytes.flatMap hexPair

def decodeHex? : List Char → Option (List UInt8)
  | [] => some []
  | [_] => none
  | high :: low :: rest => do
      let byte ← hexByte? high low
      let bytes ← decodeHex? rest
      some (byte :: bytes)

end TeacherDirectory.Text
