import TeacherDirectory.Url.Host

/-!
# URLs

A URL is read as far as it can fail: the scheme, the credentials, the host and the number after the
host. What follows is never refused. Control characters and blanks around the text and tabs and line
ends inside it do not count.
-/

namespace TeacherDirectory

set_option autoImplicit false

structure Url where
  scheme : String
  host : Option Host
  deriving DecidableEq

namespace Url

/-- How the part after the scheme is read: as a host of the web, as a file, or in the general
way. -/
inductive SchemeKind
  | web
  | file
  | general
  deriving DecidableEq

def kindOf (scheme : String) : SchemeKind :=
  if ["http", "https", "ws", "wss", "ftp"].contains scheme then .web
  else if scheme = "file" then .file
  else .general

def clean (text : List Char) : List Char :=
  let isBlank (character : Char) : Bool := character.toNat ≤ 0x20
  let trimmed := (((text.dropWhile isBlank).reverse).dropWhile isBlank).reverse
  trimmed.filter fun character => !(character = '\t' || character = '\n' || character = '\r')

def isSchemeCharacter (character : Char) : Bool :=
  character.isAlphanum || character = '+' || character = '-' || character = '.'

def cutScheme? (text : List Char) : Option (String × List Char) :=
  if text.head?.any Char.isAlpha then
    match text.dropWhile isSchemeCharacter with
    | ':' :: rest =>
        some (String.ofList ((text.takeWhile isSchemeCharacter).map Char.toLower), rest)
    | _ => none
  else none

def endsAuthority (isWeb : Bool) (character : Char) : Bool :=
  character = '/' || character = '?' || character = '#' || (isWeb && character = '\\')

def cutCredentials (authority : List Char) : Option (List Char) × List Char :=
  if authority.contains '@' then
    let host := (authority.reverse.takeWhile (· ≠ '@')).reverse
    (some (authority.take (authority.length - host.length - 1)), host)
  else (none, authority)

/-- Whether credentials leave a trace; a lone colon leaves none. -/
def isTrace (credentials : List Char) : Bool := !(credentials = [] || credentials = [':'])

/-- Cuts at the first colon outside of brackets. -/
def cutPort (inside : Bool) : List Char → List Char × Option (List Char)
  | [] => ([], none)
  | character :: rest =>
      if character = ':' && !inside then ([], some rest)
      else
        let inside := if character = '[' then true else if character = ']' then false else inside
        let (host, digits) := cutPort inside rest
        (character :: host, digits)

/-- Checks the number after a host, which may be empty and has 16 bits. A backslash ends it under
any scheme. -/
def checkPort (text : List Char) : Except UrlError Unit :=
  match Host.number? 10 (text.takeWhile (· ≠ '\\')) with
  | some number => if number < Nat.pow 2 16 then .ok () else .error .invalidPort
  | none => .error .invalidPort

def readAuthority (scheme : String) (isWeb : Bool) (rest : List Char) : Except UrlError Url := do
  let authority := rest.takeWhile fun character => !endsAuthority isWeb character
  let ends := (rest.drop authority.length).isEmpty
  let (credentials, place) := cutCredentials authority
  if credentials = some [] && place.isEmpty && !ends then throw .emptyHost
  let (hostText, portText) := cutPort false place
  if isWeb && hostText.isEmpty then throw .emptyHost
  let host ← if isWeb then Host.readDomain hostText else Host.readName hostText
  if hostText.isEmpty && portText.isSome then throw .emptyHost
  portText.forM checkPort
  if hostText.isEmpty && credentials.any isTrace then throw .emptyHost
  return ⟨scheme, if hostText.isEmpty then none else some host⟩

def isDrive : List Char → Bool
  | [letter, mark] => letter.isAlpha && (mark = ':' || mark = '|')
  | _ => false

/-- Reads the host of a file, which may be left out. -/
def readFile (scheme : String) (rest : List Char) : Except UrlError Url :=
  let isSlash (character : Char) : Bool := character = '/' || character = '\\'
  match rest with
  | first :: second :: rest =>
      if isSlash first && isSlash second then do
        let text := rest.takeWhile fun character => !endsAuthority true character
        if text.isEmpty || isDrive text then return ⟨scheme, none⟩
        return ⟨scheme, some (← Host.readDomain text)⟩
      else .ok ⟨scheme, none⟩
  | _ => .ok ⟨scheme, none⟩

def read (text : String) : Except UrlError Url :=
  match cutScheme? (clean text.toList) with
  | none => .error .relative
  | some (scheme, rest) =>
      match kindOf scheme with
      | .web =>
          readAuthority scheme true (rest.dropWhile fun character =>
            character = '/' || character = '\\')
      | .file => readFile scheme rest
      | .general =>
          match rest with
          | '/' :: '/' :: rest => readAuthority scheme false rest
          | _ => .ok ⟨scheme, none⟩

end Url

end TeacherDirectory
