/-!
# Punycode

A label with characters beyond ASCII can be written in ASCII: first its ASCII characters, then a hyphen,
then numbers that say where further characters are inserted and which. The numbers follow each other in
the order of the inserted characters and are written with digits of changing weight, the lowest first. No
number reaches `2^32`.
-/

namespace TeacherDirectory.DomainName.Punycode

set_option autoImplicit false

def base : Nat := 36

/-- The value of a digit: a letter of either case, or a decimal digit after all letters. -/
def digit? (character : Char) : Option Nat :=
  if character.isLower then some (character.toNat - 'a'.toNat)
  else if character.isUpper then some (character.toNat - 'A'.toNat)
  else if character.isDigit then some (character.toNat - '0'.toNat + 26)
  else none

/-- Digits below the threshold of their position end a number. The bias moves the thresholds. -/
def threshold (bias position : Nat) : Nat := max 1 (min 26 (position - bias))

def limit : Nat := Nat.pow 2 32

def number? (bias : Nat) : List Char → Nat → Nat → Nat → Option (Nat × List Char)
  | [], _, _, _ => none
  | character :: rest, position, weight, value =>
      match digit? character with
      | none => none
      | some digit =>
          let value := value + digit * weight
          let threshold := threshold bias position
          let next := weight * (base - threshold)
          if limit ≤ value then none
          else if digit < threshold then some (value, rest)
          else if limit ≤ next then none
          else number? bias rest (position + base) next value

theorem number_length {bias : Nat} {text : List Char} {position weight value number : Nat}
    {rest : List Char} (read : number? bias text position weight value = some (number, rest)) :
    rest.length < text.length := by
  induction text generalizing position weight value with
  | nil => simp [number?] at read
  | cons character tail induction =>
      unfold number? at read
      split at read
      · simp at read
      · dsimp only at read
        split at read
        · simp at read
        · split at read
          · simp only [Option.some.injEq, Prod.mk.injEq] at read
            obtain ⟨_, same⟩ := read
            simp [same]
          · split at read
            · simp at read
            · have shorter := induction read
              simp only [List.length_cons]
              omega

def scale (step : Nat) : Nat × Nat :=
  if 455 < step then
    let (step, count) := scale (step / 35)
    (step, count + 1)
  else (step, 0)
termination_by step
decreasing_by omega

def adapt (step length : Nat) (isFirst : Bool) : Nat :=
  let damped := if isFirst then step / 700 else step / 2
  let (step, count) := scale (damped + damped / length)
  count * base + base * step / (step + 38)

structure State where
  text : List Char
  place : Nat
  code : Nat
  bias : Nat

def State.start (text : List Char) : State := ⟨text, 0, 128, 72⟩

def character? (code : Nat) : Option Char :=
  if code.isValidChar then some (Char.ofNat code) else none

def State.insert? (state : State) (number : Nat) : Option State := do
  let length := state.text.length + 1
  let code := state.code + number / length
  let place := number % length
  let character ← character? code
  some {
    text := state.text.take place ++ character :: state.text.drop place
    place := place + 1
    code := code
    bias := adapt (number - state.place) length (state.place = 0) }

def insertions? (state : State) (text : List Char) : Option (List Char) :=
  match text with
  | [] => some state.text
  | character :: rest =>
      match read : number? state.bias (character :: rest) base 1 state.place with
      | none => none
      | some (number, after) =>
          have := number_length read
          match state.insert? number with
          | none => none
          | some state => insertions? state after
termination_by text.length
decreasing_by assumption

/-- The label that a text stands for. Letters of the ASCII part lose their case. -/
def decode? (text : List Char) : Option (List Char) :=
  let insertions := (text.reverse.takeWhile (· ≠ '-')).reverse
  let ascii := text.take (text.length - insertions.length - 1)
  if ascii.isEmpty then insertions? (.start []) text
  else insertions? (.start (ascii.map Char.toLower)) insertions

end TeacherDirectory.DomainName.Punycode
