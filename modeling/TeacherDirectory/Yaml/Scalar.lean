import TeacherDirectory.Text.Hex
import TeacherDirectory.Yaml.Cursor

/-!
# YAML scalars

A scalar is a text, written plainly, in quotation marks, or as a block of lines. Inside a scalar that
goes over several lines, a single line end becomes a blank and further ones stay; blanks around it are
dropped. A block keeps its line ends if it is literal, and how it ends is up to its header.
-/

namespace TeacherDirectory.Yaml

set_option autoImplicit false

inductive ScalarStyle
  | plain
  | singleQuoted
  | doubleQuoted
  | literal
  | folded
  deriving DecidableEq

structure Gap where
  blanks : List Char
  firstBreak : List Char
  moreBreaks : List Char
  isBroken : Bool

namespace Gap

def none : Gap := ⟨[], [], [], false⟩

def joined (gap : Gap) : List Char :=
  if gap.isBroken then
    if gap.firstBreak = ['\n'] then
      if gap.moreBreaks.isEmpty then [' '] else gap.moreBreaks
    else gap.firstBreak ++ gap.moreBreaks
  else gap.blanks

/-- Reads white space as far as it goes. On a new line a tab is refused before the column given. -/
def read? (limit : Nat) : Nat → Gap → Cursor → Option (Gap × Cursor)
  | 0, _, _ => Option.none
  | budget + 1, gap, cursor =>
      match cursor.peek? with
      | Option.none => some (gap, cursor)
      | some character =>
          if isBlank character then
            if gap.isBroken then
              if character = '\t' && cursor.column < limit then Option.none
              else read? limit budget gap (cursor.skip 1)
            else
              read? limit budget { gap with blanks := gap.blanks ++ [character] } (cursor.skip 1)
          else if isBreak character then
            let (ending, after) := cursor.takeBreak
            if gap.isBroken then
              read? limit budget { gap with moreBreaks := gap.moreBreaks ++ ending } after
            else
              read? limit budget { gap with
                blanks := []
                firstBreak := ending
                isBroken := true } after
          else some (gap, cursor)

end Gap

def isFlowMark (character : Char) : Bool := [',', '[', ']', '{', '}'].contains character

/-- Reads one word of a plain scalar. Between brackets a colon directly before a mark is refused. -/
def plainWord? (inFlow : Bool) : List Char → Option (List Char)
  | [] => some []
  | character :: rest =>
      if isSpace character then some []
      else if inFlow && character = ':' &&
          rest.head?.any (fun next => isFlowMark next || next = '?') then none
      else if (character = ':' && endsWord rest) || (inFlow && isFlowMark character) then some []
      else (plainWord? inFlow rest).map (character :: ·)

/-- Reads a plain scalar; tells too whether a line end was passed after its last word. -/
def readPlain? (inFlow : Bool) (limit : Nat) :
    Nat → List Char → Gap → Cursor → Option (List Char × Bool × Cursor)
  | 0, _, _, _ => none
  | budget + 1, text, gap, cursor =>
      if cursor.atDocumentMark || cursor.meets '#' then some (text, gap.isBroken, cursor)
      else
        match plainWord? inFlow cursor.rest with
        | none => none
        | some word =>
            let after := cursor.skip word.length
            let (text, gap) :=
              if word.isEmpty then (text, gap) else (text ++ gap.joined ++ word, Gap.none)
            if after.rest.head?.any isSpace then
              match gap.read? limit (after.rest.length + 1) after with
              | none => none
              | some (gap, next) =>
                  if !inFlow && next.column < limit then some (text, gap.isBroken, next)
                  else readPlain? inFlow limit budget text gap next
            else some (text, gap.isBroken, after)

def shortEscape? (letter : Char) : Option Char :=
  match letter with
  | '0' => some '\x00'
  | 'a' => some '\x07'
  | 'b' => some '\x08'
  | 't' => some '\t'
  | '\t' => some '\t'
  | 'n' => some '\n'
  | 'v' => some '\x0b'
  | 'f' => some '\x0c'
  | 'r' => some '\r'
  | 'e' => some '\x1b'
  | ' ' => some ' '
  | '"' => some '"'
  | '/' => some '/'
  | '\\' => some '\\'
  | 'N' => some nextLine
  | '_' => some (Char.ofNat 0xa0)
  | 'L' => some lineSeparator
  | 'P' => some paragraphSeparator
  | _ => none

def escapeDigits? (letter : Char) : Option Nat :=
  match letter with
  | 'x' => some 2
  | 'u' => some 4
  | 'U' => some 8
  | _ => none

def codeCharacter? (digits : List Char) : Option Char := do
  let code ← digits.foldlM (fun value digit => do some (value * 16 + (← Text.hexValue? digit))) 0
  if h : code.isValidChar then some (Char.ofNatAux code h) else none

/-- Reads one word between quotation marks; tells too whether an escaped line end came after it. -/
def quotedWord? (isSingle : Bool) : Nat → Cursor → Option (List Char × Bool × Cursor)
  | 0, _ => none
  | budget + 1, cursor =>
      match cursor.rest with
      | [] => some ([], false, cursor)
      | character :: rest =>
          let continued (read : Char) (after : Cursor) :=
            (quotedWord? isSingle budget after).map fun (word, isEscaped, last) =>
              (read :: word, isEscaped, last)
          if isSpace character then some ([], false, cursor)
          else if isSingle then
            if character = '\'' then
              if rest.head? == some '\'' then continued '\'' (cursor.skip 2)
              else some ([], false, cursor)
            else continued character (cursor.skip 1)
          else if character = '"' then some ([], false, cursor)
          else if character = '\\' then
            match rest with
            | [] => none
            | letter :: digits =>
                if isBreak letter then some ([], true, (cursor.skip 1).skipBreak)
                else
                  match shortEscape? letter, escapeDigits? letter with
                  | some escaped, _ => continued escaped (cursor.skip 2)
                  | none, some count =>
                      if digits.length < count then none
                      else
                        match codeCharacter? (digits.take count) with
                        | some escaped => continued escaped (cursor.skip (2 + count))
                        | none => none
                  | none, none => none
          else continued character (cursor.skip 1)

def readQuoted? (isSingle : Bool) : Nat → List Char → Cursor → Option (List Char × Cursor)
  | 0, _, _ => none
  | budget + 1, text, cursor =>
      if cursor.atDocumentMark || cursor.rest.isEmpty then none
      else
        match quotedWord? isSingle (cursor.rest.length + 1) cursor with
        | none => none
        | some (word, isEscaped, after) =>
            if after.meets (if isSingle then '\'' else '"') then some (text ++ word, after.skip 1)
            else
              match Gap.read? 0 (after.rest.length + 1) { Gap.none with isBroken := isEscaped }
                after with
              | none => none
              | some (gap, next) => readQuoted? isSingle budget (text ++ word ++ gap.joined) next

inductive Chomping
  | strip
  | clip
  | keep
  deriving DecidableEq

def chompingOf? (character : Char) : Option Chomping :=
  match character with
  | '-' => some .strip
  | '+' => some .keep
  | _ => none

def takeIncrement? (cursor : Cursor) : Option (Nat × Cursor) :=
  match cursor.peek? with
  | some digit =>
      if digit.isDigit then
        if digit = '0' then none else some (digit.toNat - '0'.toNat, cursor.skip 1)
      else some (0, cursor)
  | none => some (0, cursor)

/-- Reads the header of a block: how it ends and how far it is indented beyond its parent, in either
order. -/
def readHeader? (cursor : Cursor) : Option (Chomping × Nat × Cursor) :=
  match cursor.peek?.bind chompingOf? with
  | some chomping =>
      (takeIncrement? (cursor.skip 1)).map fun (increment, after) => (chomping, increment, after)
  | none =>
      (takeIncrement? cursor).map fun (increment, after) =>
        match if increment = 0 then none else after.peek?.bind chompingOf? with
        | some chomping => (chomping, increment, after.skip 1)
        | none => (.clip, increment, after)

/-- Passes over empty lines and indentation. An indentation of zero is not known yet. Gives the line
ends and the widest indentation that was seen. -/
def readMargin? (indent : Nat) :
    Nat → List Char → Nat → Cursor → Option (List Char × Nat × Cursor)
  | 0, _, _, _ => none
  | budget + 1, breaks, widest, cursor =>
      let margin := (cursor.rest.takeWhile (· = ' ')).length
      let indented :=
        cursor.skip (if indent = 0 then margin else Nat.min margin (indent - cursor.column))
      let widest := Nat.max widest indented.column
      if (indent = 0 || indented.column < indent) && indented.meets '\t' then none
      else if indented.rest.head?.any isBreak then
        let (ending, after) := indented.takeBreak
        readMargin? indent budget (breaks ++ ending) widest after
      else some (breaks, widest, indented)

/-- Reads the lines of a block. `leading` is the line end before the next line, `trailing` are the
empty lines after it, and `wasBlank` tells that the line before began with a blank. -/
def readLines? (isLiteral : Bool) (indent : Nat) : Nat → List Char → List Char → List Char → Bool →
    Cursor → Option (List Char × List Char × List Char × Cursor)
  | 0, _, _, _, _, _ => none
  | budget + 1, text, leading, trailing, wasBlank, cursor =>
      if cursor.column = indent && !cursor.rest.isEmpty then
        let isBlankLine := cursor.rest.head?.any isBlank
        let separator :=
          if !isLiteral && leading = ['\n'] && !wasBlank && !isBlankLine then
            if trailing.isEmpty then [' '] else []
          else leading
        let line := cursor.rest.takeWhile fun character => !isBreak character
        let (ending, after) := (cursor.skip line.length).takeBreak
        match readMargin? indent (after.rest.length + 1) [] 0 after with
        | none => none
        | some (trailingAfter, _, next) =>
            readLines? isLiteral indent budget (text ++ separator ++ trailing ++ line) ending
              trailingAfter isBlankLine next
      else some (text, leading, trailing, cursor)

def readBlock? (isLiteral : Bool) (parent : Int) (cursor : Cursor) :
    Option (List Char × Cursor) := do
  let (chomping, increment, afterHeader) ← readHeader? cursor
  let first ← afterHeader.finishLine?
  let known := if increment = 0 then 0 else parent.toNat + increment
  let budget := first.rest.length + 1
  let (breaks, widest, start) ← readMargin? known budget [] 0 first
  let indent :=
    if known = 0 then Nat.max (Nat.max widest (parent + 1).toNat) 1 else known
  let (text, leading, trailing, after) ←
    readLines? isLiteral indent budget [] [] breaks false start
  let text := if chomping = .strip then text else text ++ leading
  some (if chomping = .keep then text ++ trailing else text, after)

end TeacherDirectory.Yaml
