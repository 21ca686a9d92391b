import TeacherDirectory.Text.Hex

/-!
# Reading JSON texts

Readers work from left to right and stop at the first fault: the text ends too early, it is no JSON,
or it is JSON of the wrong shape. A text in quotation marks is read in two ways. Where its value
counts, escapes must make characters, so surrogates come in pairs; where it is only passed over, any
four digits will do.
-/

namespace TeacherDirectory.Json

set_option autoImplicit false

/-- What is wrong with a text at the first place that is wrong. -/
inductive Fault
  | ended
  | malformed
  | mismatched
  deriving DecidableEq

def isBlank (character : Char) : Bool :=
  character = ' ' || character = '\n' || character = '\t' || character = '\r'

def skipBlanks (text : List Char) : List Char := text.dropWhile isBlank

def skipWord : List Char → List Char → Except Fault (List Char)
  | [], text => .ok text
  | _, [] => .error .ended
  | expected :: word, character :: text =>
      if character = expected then skipWord word text else .error .malformed

/-- Four hexadecimal digits; fewer than four bytes of text end too early. -/
def readUnit : List Char → Except Fault (Nat × List Char)
  | first :: second :: third :: fourth :: rest =>
      match Text.hexValue? first, Text.hexValue? second, Text.hexValue? third,
        Text.hexValue? fourth with
      | some first, some second, some third, some fourth =>
          .ok (((first * 16 + second) * 16 + third) * 16 + fourth, rest)
      | _, _, _, _ => .error .malformed
  | rest => if (String.ofList rest).utf8ByteSize < 4 then .error .ended else .error .malformed

theorem read_unit_length {text rest : List Char} {unit : Nat}
    (read : readUnit text = .ok (unit, rest)) : rest.length < text.length := by
  unfold readUnit at read
  split at read
  · split at read
    · simp only [Except.ok.injEq, Prod.mk.injEq] at read
      rw [← read.2]
      simp only [List.length_cons]
      omega
    · simp at read
  · split at read <;> simp at read

def shortEscape? (letter : Char) : Option Char :=
  match letter with
  | '"' => some '"'
  | '\\' => some '\\'
  | '/' => some '/'
  | 'b' => some '\x08'
  | 'f' => some '\x0c'
  | 'n' => some '\n'
  | 'r' => some '\r'
  | 't' => some '\t'
  | _ => none

def isLeading (unit : Nat) : Bool := 0xd800 ≤ unit && unit ≤ 0xdbff

def isTrailing (unit : Nat) : Bool := 0xdc00 ≤ unit && unit ≤ 0xdfff

def readTrailing (leading : Nat) : List Char → Except Fault (Char × List Char)
  | [] => .error .ended
  | ['\\'] => .error .ended
  | '\\' :: 'u' :: text => do
      let (trailing, rest) ← readUnit text
      if isTrailing trailing then
        return (Char.ofNat (0x10000 + (leading - 0xd800) * 0x400 + (trailing - 0xdc00)), rest)
      else throw .malformed
  | _ => .error .malformed

def readEscape : List Char → Except Fault (Char × List Char)
  | [] => .error .ended
  | letter :: text =>
      if letter = 'u' then
        match readUnit text with
        | .error fault => .error fault
        | .ok (unit, rest) =>
            if isTrailing unit then .error .malformed
            else if isLeading unit then readTrailing unit rest
            else .ok (Char.ofNat unit, rest)
      else
        match shortEscape? letter with
        | some character => .ok (character, text)
        | none => .error .malformed

theorem read_trailing_length {leading : Nat} {text rest : List Char} {character : Char}
    (read : readTrailing leading text = .ok (character, rest)) : rest.length ≤ text.length := by
  unfold readTrailing at read
  split at read
  · simp at read
  · simp at read
  · rename_i after
    cases unit : readUnit after with
    | error fault => simp [unit, bind, Except.bind] at read
    | ok pair =>
        have shorter := read_unit_length unit
        simp only [unit, bind, Except.bind] at read
        split at read
        · simp only [pure, Except.pure, Except.ok.injEq, Prod.mk.injEq] at read
          rw [← read.2]
          simp only [List.length_cons]
          omega
        · simp [throw, throwThe, MonadExceptOf.throw] at read
  · simp at read

theorem read_escape_length {text rest : List Char} {character : Char}
    (read : readEscape text = .ok (character, rest)) : rest.length < text.length := by
  unfold readEscape at read
  split at read
  · simp at read
  · split at read
    · split at read
      · simp at read
      · rename_i unit after unitRead
        have shorter := read_unit_length unitRead
        split at read
        · simp at read
        · split at read
          · have bounded := read_trailing_length read
            simp only [List.length_cons]
            omega
          · simp only [Except.ok.injEq, Prod.mk.injEq] at read
            rw [← read.2]
            simp only [List.length_cons]
            omega
    · split at read
      · simp only [Except.ok.injEq, Prod.mk.injEq] at read
        rw [← read.2]
        simp
      · simp at read

def readQuoted (text : List Char) : Except Fault (List Char × List Char) :=
  match text with
  | [] => .error .ended
  | character :: rest =>
      if character = '"' then .ok ([], rest)
      else if character = '\\' then
        match read : readEscape rest with
        | .error fault => .error fault
        | .ok (escaped, after) =>
            have := read_escape_length read
            (readQuoted after).map fun (value, left) => (escaped :: value, left)
      else if character.toNat < 0x20 then .error .malformed
      else (readQuoted rest).map fun (value, left) => (character :: value, left)
termination_by text.length
decreasing_by all_goals simp only [List.length_cons]; omega

def skipEscape : List Char → Except Fault (List Char)
  | [] => .error .ended
  | letter :: text =>
      if letter = 'u' then
        match readUnit text with
        | .error fault => .error fault
        | .ok (_, rest) => .ok rest
      else if (shortEscape? letter).isSome then .ok text
      else .error .malformed

theorem skip_escape_length {text rest : List Char}
    (skipped : skipEscape text = .ok rest) : rest.length < text.length := by
  unfold skipEscape at skipped
  split at skipped
  · simp at skipped
  · split at skipped
    · split at skipped
      · simp at skipped
      · rename_i unit after unitRead
        have shorter := read_unit_length unitRead
        simp only [Except.ok.injEq] at skipped
        rw [← skipped]
        simp only [List.length_cons]
        omega
    · split at skipped
      · simp only [Except.ok.injEq] at skipped
        rw [← skipped]
        simp
      · simp at skipped

def skipQuoted (text : List Char) : Except Fault (List Char) :=
  match text with
  | [] => .error .ended
  | character :: rest =>
      if character = '"' then .ok rest
      else if character = '\\' then
        match skipped : skipEscape rest with
        | .error fault => .error fault
        | .ok after =>
            have := skip_escape_length skipped
            skipQuoted after
      else if character.toNat < 0x20 then .error .malformed
      else skipQuoted rest
termination_by text.length
decreasing_by all_goals simp only [List.length_cons]; omega

end TeacherDirectory.Json
