/-!
# UTF-8

Bytes are read one character at a time. Which second bytes may follow a lead byte is a table, so a
sequence that would be overlong, a surrogate or above the last code point is refused at its second
byte. Reading with replacement turns every longest run of bytes that begins a sequence without
completing it, and every byte that begins none, into one replacement character.
-/

namespace TeacherDirectory.Text

set_option autoImplicit false

abbrev Bytes := List UInt8

def replacement : Char := Char.ofNat 0xfffd

/-- What a lead byte announces: the payload bits it holds, the range of its second byte, and how
many further bytes follow that one. -/
structure Lead where
  payload : Nat
  least : Nat
  greatest : Nat
  further : Nat

def Lead.ofByte? (byte : UInt8) : Option Lead :=
  let value := byte.toNat
  if 0xc2 ≤ value ∧ value ≤ 0xdf then some ⟨value - 0xc0, 0x80, 0xbf, 0⟩
  else if value = 0xe0 then some ⟨0, 0xa0, 0xbf, 1⟩
  else if value = 0xed then some ⟨value - 0xe0, 0x80, 0x9f, 1⟩
  else if 0xe1 ≤ value ∧ value ≤ 0xef then some ⟨value - 0xe0, 0x80, 0xbf, 1⟩
  else if value = 0xf0 then some ⟨0, 0x90, 0xbf, 2⟩
  else if 0xf1 ≤ value ∧ value ≤ 0xf3 then some ⟨value - 0xf0, 0x80, 0xbf, 2⟩
  else if value = 0xf4 then some ⟨value - 0xf0, 0x80, 0x8f, 2⟩
  else none

/-- Reads the bytes after a lead byte. Without a character the rest begins at the first byte that
does not continue the sequence. -/
def continueSequence (payload least greatest : Nat) : Nat → Bytes → Option Char × Bytes
  | _, [] => (none, [])
  | further, byte :: rest =>
      if least ≤ byte.toNat ∧ byte.toNat ≤ greatest then
        let payload := payload * 64 + (byte.toNat - 0x80)
        match further with
        | 0 => (some (Char.ofNat payload), rest)
        | further + 1 => continueSequence payload 0x80 0xbf further rest
      else (none, byte :: rest)

theorem continue_sequence_length (payload least greatest further : Nat) (bytes : Bytes) :
    (continueSequence payload least greatest further bytes).2.length ≤ bytes.length := by
  induction bytes generalizing payload least greatest further with
  | nil => simp [continueSequence]
  | cons byte rest induction =>
      unfold continueSequence
      split
      · cases further with
        | zero => simp
        | succ further =>
            have shorter := induction (payload * 64 + (byte.toNat - 0x80)) 0x80 0xbf further
            simp only [List.length_cons]
            omega
      · simp

/-- Reads one character off the front; `none` stands for bytes that are not text. -/
def takeCharacter (byte : UInt8) (rest : Bytes) : Option Char × Bytes :=
  if byte.toNat < 0x80 then (some (Char.ofNat byte.toNat), rest)
  else match Lead.ofByte? byte with
    | none => (none, rest)
    | some lead => continueSequence lead.payload lead.least lead.greatest lead.further rest

theorem take_character_length (byte : UInt8) (rest : Bytes) :
    (takeCharacter byte rest).2.length ≤ rest.length := by
  unfold takeCharacter
  split
  · exact Nat.le_refl _
  · split
    · exact Nat.le_refl _
    · exact continue_sequence_length _ _ _ _ _

/-- The characters of a text, one `none` for each place that is not text. -/
def characters : Bytes → List (Option Char)
  | [] => []
  | byte :: rest =>
      have := take_character_length byte rest
      (takeCharacter byte rest).1 :: characters (takeCharacter byte rest).2
termination_by bytes => bytes.length
decreasing_by simp only [List.length_cons]; omega

def decodeLossy (bytes : Bytes) : String :=
  String.ofList ((characters bytes).map fun character => character.getD replacement)

def decode? (bytes : Bytes) : Option String :=
  ((characters bytes).mapM id).map String.ofList

def encode (text : String) : Bytes := text.toUTF8.toList

end TeacherDirectory.Text
