import TeacherDirectory.DomainName.Basic
import TeacherDirectory.Text.Utf8

/-!
# Hosts of URLs

A host is a name or an address. Which names are allowed depends on the scheme: the schemes of the web
take domain names, whose last part decides whether they are addresses in fact, and all other schemes
take any name without delimiters.
-/

namespace TeacherDirectory

set_option autoImplicit false

open Text

inductive UrlError
  | relative
  | emptyHost
  | invalidPort
  | invalidAddress4
  | invalidAddress6
  | invalidDomain
  | invalidCharacter
  deriving DecidableEq

def UrlError.message : UrlError → String
  | relative => "relative URL without a base"
  | emptyHost => "empty host"
  | invalidPort => "invalid port number"
  | invalidAddress4 => "invalid IPv4 address"
  | invalidAddress6 => "invalid IPv6 address"
  | invalidDomain => "invalid international domain name"
  | invalidCharacter => "invalid domain character"

inductive Host
  | name (text : String)
  | address4
  | address6
  deriving DecidableEq

namespace Host

/-- Replaces each percent sign with two hexadecimal digits by the byte they stand for. -/
def percentDecode : Bytes → Bytes
  | sign :: high :: low :: rest =>
      match hexByte? (Char.ofNat high.toNat) (Char.ofNat low.toNat) with
      | some decoded =>
          if sign.toNat = 0x25 then decoded :: percentDecode rest
          else sign :: percentDecode (high :: low :: rest)
      | none => sign :: percentDecode (high :: low :: rest)
  | bytes => bytes

def digit? (base : Nat) (character : Char) : Option Nat :=
  (hexValue? character).filter (· < base)

def number? (base : Nat) (digits : List Char) : Option Nat :=
  digits.foldlM (fun value character => (digit? base character).map fun digit => value * base + digit) 0

/-- A part of a four-part address: hexadecimal after `0x`, octal after `0`, decimal otherwise. -/
def part? : List Char → Option Nat
  | [] => none
  | '0' :: 'x' :: digits => number? 16 digits
  | '0' :: 'X' :: digits => number? 16 digits
  | '0' :: digit :: digits => number? 8 (digit :: digits)
  | digits => number? 10 digits

/-- The parts of a name between its periods, an empty last one left out. -/
def parts (name : List Char) : List (List Char) :=
  let all := name.splitOn '.'
  match all.getLast? with
  | some [] => all.dropLast
  | _ => all

/-- Whether the last part of a name is a number, which makes the name an address. -/
def endsInNumber (name : List Char) : Bool :=
  match (parts name).getLast? with
  | none => false
  | some last => (!last.isEmpty && last.all Char.isDigit) || (part? last).isSome

/-- Whether numbers make an address: all but the last are bytes, and the last fills what is left. -/
def isAddress4 (numbers : List Nat) : Bool :=
  match numbers.reverse with
  | [] => false
  | last :: before =>
      before.length < 4 && last < Nat.pow 256 (4 - before.length) && before.all (· < 256)

def address4? (name : List Char) : Bool :=
  match (parts name).mapM part? with
  | some numbers => isAddress4 numbers
  | none => false

def isByte (digits : List Char) : Bool :=
  match digits with
  | ['0'] => true
  | '0' :: _ => false
  | _ => !digits.isEmpty && (number? 10 digits).any (· < 256)

def isGroup (digits : List Char) : Bool :=
  !digits.isEmpty && digits.length ≤ 4 && digits.all fun digit => (hexValue? digit).isSome

/-- How many groups the parts between colons make; four bytes with periods may take the place of
the last two. -/
def groups? : List (List Char) → Option Nat
  | [] => some 0
  | [last] =>
      if isGroup last then some 1
      else
        let bytes := last.splitOn '.'
        if bytes.length = 4 && bytes.all isByte then some 2 else none
  | part :: rest => if isGroup part then (groups? rest).map (· + 1) else none

def groupCount? (text : List Char) : Option Nat :=
  if text.isEmpty then some 0 else groups? (text.splitOn ':')

def cutColons : List Char → Option (List Char × List Char)
  | [] => none
  | ':' :: ':' :: rest => some ([], rest)
  | character :: rest =>
      (cutColons rest).map fun (before, after) => (character :: before, after)

def isAddress6 (text : List Char) : Bool :=
  match cutColons text with
  | none => groupCount? text == some 8
  | some (before, after) =>
      match groupCount? before, groupCount? after with
      | some front, some back => !before.contains '.' && front + back ≤ 7
      | _, _ => false

def isDelimiter (character : Char) : Bool :=
  ['#', '/', ':', '<', '>', '?', '@', '[', '\\', ']', '^', '|'].contains character

def bracketed? : List Char → Option (List Char)
  | '[' :: rest => if rest.getLast? = some ']' then some rest.dropLast else none
  | _ => none

def readBracketed (text : List Char) : Except UrlError Host :=
  if (bracketed? text).any isAddress6 then .ok .address6 else .error .invalidAddress6

def readDomain (text : List Char) : Except UrlError Host :=
  if text.head? = some '[' then readBracketed text
  else
    let decoded := decode? (percentDecode (Text.encode (String.ofList text)))
    match decoded.bind fun decoded => DomainName.read? decoded.toList with
    | none => .error .invalidDomain
    | some domain =>
        if domain.isEmpty then .error .emptyHost
        else if endsInNumber domain then
          if address4? domain then .ok .address4 else .error .invalidAddress4
        else .ok (.name (String.ofList domain))

def readName (text : List Char) : Except UrlError Host :=
  if text.head? = some '[' then readBracketed text
  else if text.any fun character =>
      isDelimiter character || ['\x00', '\t', '\n', '\r', ' '].contains character then
    .error .invalidCharacter
  else .ok (.name (String.ofList text))

end Host

end TeacherDirectory
