import TeacherDirectory.Yaml.Scalar
import TeacherDirectory.Yaml.Tag

/-!
# YAML tokens

A text is cut into tokens. Outside of brackets the structure follows the columns: a deeper column opens
a sequence or a mapping, and a column further left closes them. Whether a word is a key shows only at
the colon after it, so the places where a key may have begun are remembered, and the token that marks a
key is put in front afterwards. A key has to end on its line, at most 1024 bytes of UTF-8 after its
beginning.
-/

namespace TeacherDirectory.Yaml

set_option autoImplicit false

inductive Token
  | directive (directive : Directive)
  | documentStart
  | documentEnd
  | blockSequenceStart
  | blockMappingStart
  | blockEnd
  | flowSequenceStart
  | flowSequenceEnd
  | flowMappingStart
  | flowMappingEnd
  | blockEntry
  | flowEntry
  | key
  | value
  | reference (name : String)
  | anchor (name : String)
  | tag (tag : Tag)
  | scalar (text : String) (style : ScalarStyle)
  deriving DecidableEq

/-- A place where a key may have begun: the number of tokens before it and where it stands. In some
places there must be a key. -/
structure KeyPlace where
  tokens : Nat
  required : Bool
  column : Nat
  line : Nat
  index : Nat

/-- A text that is cut up to a place. The open collections are kept by their columns, of which none is
`-1`; for each level of brackets, and for the level outside, there may be a place for a key. -/
structure Lexer where
  cursor : Cursor
  tokens : Array Token
  indent : Int
  outer : List Int
  place : Option KeyPlace
  outerPlaces : List (Option KeyPlace)
  keyAllowed : Bool

namespace Lexer

def start (text : List Char) : Lexer := ⟨.start text, #[], -1, [], none, [], true⟩

def inFlow (lexer : Lexer) : Bool := !lexer.outerPlaces.isEmpty

def push (lexer : Lexer) (token : Token) : Lexer :=
  { lexer with tokens := lexer.tokens.push token }

def insert (lexer : Lexer) (number : Nat) (token : Token) : Lexer :=
  let tokens := lexer.tokens.toList
  { lexer with tokens := (tokens.take number ++ token :: tokens.drop number).toArray }

def indentTo (lexer : Lexer) (column : Nat) (number : Nat) (token : Token) : Lexer :=
  if lexer.inFlow || (column : Int) ≤ lexer.indent then lexer
  else { lexer.insert number token with indent := column, outer := lexer.indent :: lexer.outer }

def closeTo (column : Int) : List Int → Lexer → Lexer
  | [], lexer => lexer
  | outer :: rest, lexer =>
      if column < lexer.indent then
        closeTo column rest { lexer.push .blockEnd with indent := outer, outer := rest }
      else lexer

def unindentTo (lexer : Lexer) (column : Int) : Lexer :=
  if lexer.inFlow then lexer else closeTo column lexer.outer lexer

def dropPlace? (lexer : Lexer) : Option Lexer :=
  if lexer.place.any KeyPlace.required then none else some { lexer with place := none }

/-- Remembers that a key may begin here, if one is allowed. -/
def savePlace? (lexer : Lexer) : Option Lexer :=
  if lexer.keyAllowed then do
    let lexer ← lexer.dropPlace?
    let cursor := lexer.cursor
    some { lexer with place := some {
      tokens := lexer.tokens.size
      required := !lexer.inFlow && lexer.indent = cursor.column
      column := cursor.column
      line := cursor.line
      index := cursor.index } }
  else some lexer

/-- Whether a key that began at a place could still end here. -/
def isFresh (cursor : Cursor) (place : KeyPlace) : Bool :=
  cursor.line ≤ place.line && cursor.index ≤ place.index + 1024

/-- Gives up places that are too far back; where there must be a key, that is a fault. -/
def refresh? (cursor : Cursor) : Option KeyPlace → Option (Option KeyPlace)
  | none => some none
  | some place =>
      if isFresh cursor place then some (some place)
      else if place.required then none
      else some none

/-- Passes over white space and comments. A tab does not count as white space where a key may begin
outside of brackets. -/
def skipSpace : Nat → Lexer → Lexer
  | 0, lexer => lexer
  | budget + 1, lexer =>
      let mark := Char.ofNat 0xfeff
      let cursor :=
        if lexer.cursor.column = 0 && lexer.cursor.meets mark then lexer.cursor.skip 1
        else lexer.cursor
      let tabs := lexer.inFlow || !lexer.keyAllowed
      let cursor := (cursor.skipWhile fun character =>
        character = ' ' || (tabs && character = '\t')).skipComment
      if cursor.rest.head?.any isBreak then
        skipSpace budget { lexer with
          cursor := cursor.skipBreak
          keyAllowed := lexer.keyAllowed || !lexer.inFlow }
      else { lexer with cursor := cursor }

def mark (lexer : Lexer) (width : Nat) (keyAllowed : Bool) (token : Token) : Lexer :=
  { lexer.push token with cursor := lexer.cursor.skip width, keyAllowed := keyAllowed }

def closeAll? (lexer : Lexer) : Option Lexer := (lexer.unindentTo (-1)).dropPlace?

def openFlow? (lexer : Lexer) (token : Token) : Option Lexer := do
  let lexer ← lexer.savePlace?
  some ({ lexer with
    place := none
    outerPlaces := lexer.place :: lexer.outerPlaces }.mark 1 true token)

def closeFlow? (lexer : Lexer) (token : Token) : Option Lexer := do
  let lexer ← lexer.dropPlace?
  let lexer := match lexer.outerPlaces with
    | [] => lexer
    | place :: rest => { lexer with place := place, outerPlaces := rest }
  some (lexer.mark 1 false token)

def blockEntry? (lexer : Lexer) : Option Lexer := do
  if !lexer.inFlow && !lexer.keyAllowed then none
  else
    let lexer := lexer.indentTo lexer.cursor.column lexer.tokens.size .blockSequenceStart
    let lexer ← lexer.dropPlace?
    some (lexer.mark 1 true .blockEntry)

/-- The mark of a key that may be longer than a line. -/
def explicitKey? (lexer : Lexer) : Option Lexer := do
  if !lexer.inFlow && !lexer.keyAllowed then none
  else
    let lexer := lexer.indentTo lexer.cursor.column lexer.tokens.size .blockMappingStart
    let lexer ← lexer.dropPlace?
    some (lexer.mark 1 (!lexer.inFlow) .key)

def value? (lexer : Lexer) : Option Lexer :=
  match lexer.place with
  | some place =>
      let lexer := lexer.insert place.tokens .key
      let lexer := lexer.indentTo place.column place.tokens .blockMappingStart
      some ({ lexer with place := none }.mark 1 false .value)
  | none =>
      if !lexer.inFlow && !lexer.keyAllowed then none
      else
        let lexer := lexer.indentTo lexer.cursor.column lexer.tokens.size .blockMappingStart
        some (lexer.mark 1 (!lexer.inFlow) .value)

def accept (lexer : Lexer) (token : Token) (keyAllowed : Bool) (cursor : Cursor) : Lexer :=
  { lexer.push token with cursor := cursor, keyAllowed := keyAllowed }

def anchor? (lexer : Lexer) (token : String → Token) : Option Lexer := do
  let lexer ← lexer.savePlace?
  let (name, after) ← readAnchor? lexer.cursor
  some (lexer.accept (token name) false after)

def tag? (lexer : Lexer) : Option Lexer := do
  let lexer ← lexer.savePlace?
  let (tag, after) ← readTag? lexer.inFlow lexer.cursor
  some (lexer.accept (.tag tag) false after)

def block? (lexer : Lexer) (isLiteral : Bool) : Option Lexer := do
  let lexer ← lexer.dropPlace?
  let (text, after) ← readBlock? isLiteral lexer.indent (lexer.cursor.skip 1)
  let style := if isLiteral then ScalarStyle.literal else ScalarStyle.folded
  some (lexer.accept (.scalar (String.ofList text) style) true after)

def quoted? (lexer : Lexer) (isSingle : Bool) : Option Lexer := do
  let lexer ← lexer.savePlace?
  let cursor := lexer.cursor.skip 1
  let (text, after) ← readQuoted? isSingle (cursor.rest.length + 1) [] cursor
  let style := if isSingle then ScalarStyle.singleQuoted else ScalarStyle.doubleQuoted
  some (lexer.accept (.scalar (String.ofList text) style) false after)

def plain? (lexer : Lexer) : Option Lexer := do
  let lexer ← lexer.savePlace?
  let limit := (lexer.indent + 1).toNat
  let (text, isBroken, after) ←
    readPlain? lexer.inFlow limit (lexer.cursor.rest.length + 1) [] Gap.none lexer.cursor
  some (lexer.accept (.scalar (String.ofList text) .plain) isBroken after)

def isIndicator (character : Char) : Bool :=
  ['-', '?', ':', ',', '[', ']', '{', '}', '#', '&', '*', '!', '|', '>', '\'', '"', '%', '@',
    '\x60'].contains character

def beginsPlain (inFlow : Bool) (character : Char) (rest : List Char) : Bool :=
  !(isSpace character || isIndicator character) ||
    (character = '-' && !rest.head?.any isBlank) ||
    (!inFlow && (character = '?' || character = ':') && !endsWord rest)

def token? (lexer : Lexer) (character : Char) (rest : List Char) : Option Lexer :=
  let cursor := lexer.cursor
  if cursor.column = 0 && character = '%' then do
    let lexer ← lexer.closeAll?
    let (directive, after) ← readDirective? cursor
    some (lexer.accept (.directive directive) false after)
  else if cursor.atDocumentMark then do
    let lexer ← lexer.closeAll?
    some (lexer.mark 3 false (if character = '-' then .documentStart else .documentEnd))
  else if character = '[' then lexer.openFlow? .flowSequenceStart
  else if character = '{' then lexer.openFlow? .flowMappingStart
  else if character = ']' then lexer.closeFlow? .flowSequenceEnd
  else if character = '}' then lexer.closeFlow? .flowMappingEnd
  else if character = ',' then do
    let lexer ← lexer.dropPlace?
    some (lexer.mark 1 true .flowEntry)
  else if character = '-' && endsWord rest then lexer.blockEntry?
  else if character = '?' && (lexer.inFlow || endsWord rest) then lexer.explicitKey?
  else if character = ':' && (lexer.inFlow || endsWord rest) then lexer.value?
  else if character = '*' then lexer.anchor? .reference
  else if character = '&' then lexer.anchor? .anchor
  else if character = '!' then lexer.tag?
  else if character = '|' && !lexer.inFlow then lexer.block? true
  else if character = '>' && !lexer.inFlow then lexer.block? false
  else if character = '\'' then lexer.quoted? true
  else if character = '"' then lexer.quoted? false
  else if beginsPlain lexer.inFlow character rest then lexer.plain?
  else none

def finish? : Nat → Lexer → Option (List Token)
  | 0, _ => none
  | budget + 1, lexer => do
      let lexer := lexer.skipSpace (lexer.cursor.rest.length + 1)
      let place ← refresh? lexer.cursor lexer.place
      let outerPlaces ← lexer.outerPlaces.mapM (refresh? lexer.cursor)
      let lexer := { lexer with place := place, outerPlaces := outerPlaces }
      let lexer := lexer.unindentTo lexer.cursor.column
      match lexer.cursor.rest with
      | [] => (lexer.closeAll?).map fun lexer => lexer.tokens.toList
      | character :: rest => (lexer.token? character rest).bind (finish? budget)

end Lexer

def Token.scan? (text : String) : Option (List Token) :=
  if text.toList.all isAllowed then
    (Lexer.start text.toList).finish? (text.toList.length + 1)
  else none

end TeacherDirectory.Yaml
