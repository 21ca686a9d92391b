/-!
# Requests

A request names a method and a target. A target is a path, a star, an authority, or a whole address;
of either form only the path tells what is asked for, and an authority alone and a star have none that
a page could have. Letters beyond ASCII and a few more characters may stand in a path as they are.
-/

namespace TeacherDirectory.Http

set_option autoImplicit false

structure Request where
  method : String
  path : String
  deriving DecidableEq

namespace Request

def isMethodCharacter (character : Char) : Bool :=
  character.isAlphanum || "!#$%&'*+-.^_`|~".toList.contains character

def isMethod (method : String) : Bool := !method.isEmpty && method.toList.all isMethodCharacter

def isSchemeCharacter (character : Char) : Bool :=
  character.isAlphanum || "+-.~".toList.contains character

def isAuthorityCharacter (character : Char) : Bool :=
  character.isAlphanum || "!$&'()*+,-.:;=@[]_~%".toList.contains character

/-- A character of a path: none that delimits, and of the other marks not `<`, `>`, the backtick and
blanks. -/
def isPathCharacter (character : Char) : Bool :=
  0x21 ≤ character.toNat && !"#<>?`".toList.contains character

def isQueryCharacter (character : Char) : Bool :=
  0x21 ≤ character.toNat && !"\"#<>".toList.contains character

def endsAuthority (character : Char) : Bool :=
  character = '/' || character = '?' || character = '#'

/-- Whether the runs of an authority between at signs and closing brackets are fine. The last one is
the host outside of brackets: it holds a colon at most, and no percent sign. The others hold up to
eight colons, and percent signs, but none before an opening bracket. -/
def areRuns : List (List Char) → Bool
  | [] => true
  | [last] => last.count ':' ≤ 1 && !last.contains '%'
  | run :: rest =>
      run.count ':' ≤ 8 && !(run.contains '[' && (run.takeWhile (· ≠ '[')).contains '%') &&
        areRuns rest

/-- Whether a text is an authority. There is one pair of brackets at most, and something after an at
sign. -/
def isAuthority (text : List Char) : Bool :=
  let brackets := text.filter fun character => character = '[' || character = ']'
  text.all isAuthorityCharacter && (brackets = [] || brackets = ['[', ']']) &&
    text.getLast? ≠ some '@' &&
    areRuns (text.splitOnP fun character => character = '@' || character = ']')

def path? (text : List Char) : Option String :=
  let text := text.takeWhile (· ≠ '#')
  let path := text.takeWhile (· ≠ '?')
  let query := (text.drop path.length).drop 1
  if path.all isPathCharacter && query.all isQueryCharacter then some (String.ofList path) else none

def afterScheme? (text : List Char) : Option (List Char) :=
  match text.dropWhile isSchemeCharacter with
  | ':' :: '/' :: '/' :: rest =>
      if (text.takeWhile isSchemeCharacter).length ≤ 64 then some rest else none
  | _ => none

/-- The path of a whole address; it has an authority. -/
def addressPath? (text : List Char) : Option String :=
  let authority := text.takeWhile fun character => !endsAuthority character
  if !authority.isEmpty && isAuthority authority then path? (text.drop authority.length) else none

def tooLong : Nat := 65535

def targetPath? (target : String) : Option String :=
  if tooLong ≤ target.utf8ByteSize then none
  else match target.toList with
    | [] => none
    | '/' :: rest => path? ('/' :: rest)
    | ['*'] => some "*"
    | text =>
        match afterScheme? text with
        | some rest => addressPath? rest
        | none => if isAuthority text then some "" else none

def read? (method target : String) : Option Request :=
  if isMethod method then (targetPath? target).map fun path => ⟨method, path⟩ else none

end Request

end TeacherDirectory.Http
