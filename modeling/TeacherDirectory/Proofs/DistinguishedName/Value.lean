import Mathlib.Data.List.DropRight
import TeacherDirectory.Proofs.DistinguishedName
import TeacherDirectory.Proofs.Text.Utf8
import TeacherDirectory.Text.Hex

/-!
# Values as names write them

RFC 4514 tells which texts stand for a value inside a name. Some characters have a backslash in front
wherever they stand, a number sign and a blank in front of all others, a blank behind all others; null
and any other byte can be given by two digits behind a backslash. A value that is escaped is such a
text, and it is read back as the value, whatever characters that holds. So different values make
different components.
-/

namespace TeacherDirectory.DistinguishedName

set_option autoImplicit false

open Text

/-- A part of a written value: a character as it is, one behind a backslash, or the digits of a byte
behind one. -/
inductive Piece
  | plain (letter : Char)
  | escaped (letter : Char)
  | byte (value : UInt8)

namespace Piece

def bytes : Piece → Bytes
  | plain letter => String.utf8EncodeChar letter
  | escaped letter => String.utf8EncodeChar letter
  | byte value => [value]

def canLead : Piece → Bool
  | plain letter => letter ≠ ' ' && letter ≠ '#'
  | _ => true

def canTrail : Piece → Bool
  | plain letter => letter ≠ ' '
  | _ => true

def isBlank : Piece → Bool
  | plain letter => letter = ' '
  | _ => false

end Piece

def isReserved (letter : Char) : Bool :=
  ['\x00', '"', '+', ',', ';', '<', '>', '\\'].contains letter

def isEscapable (letter : Char) : Bool :=
  ['\\', '"', '+', ',', ';', '<', '>', ' ', '#', '='].contains letter

def pieces? : List Char → Option (List Piece)
  | [] => some []
  | letter :: rest =>
      if letter = '\\' then
        match rest with
        | first :: rest =>
            if isEscapable first then (pieces? rest).map (.escaped first :: ·)
            else
              match rest with
              | second :: rest => do
                  let byte ← hexByte? first second
                  (pieces? rest).map (.byte byte :: ·)
              | [] => none
        | [] => none
      else if isReserved letter then none
      else (pieces? rest).map (.plain letter :: ·)

inductive Writes : List Char → Piece → Prop
  | plain {letter : Char} (unreserved : isReserved letter = false) : Writes [letter] (.plain letter)
  | escaped {letter : Char} (escapable : isEscapable letter = true) :
      Writes ['\\', letter] (.escaped letter)
  | byte {high low : Char} {value : UInt8} (digits : hexByte? high low = some value) :
      Writes ['\\', high, low] (.byte value)

/-- The text that a written value stands for, without the blanks around it that no backslash
escapes. -/
def unescape? (written : String) : Option String := do
  let pieces ← pieces? written.toList
  decode? (((pieces.dropWhile Piece.isBlank).rdropWhile Piece.isBlank).flatMap Piece.bytes)

def isWritten (written : String) : Bool :=
  (pieces? written.toList).any fun pieces =>
    pieces.head?.all Piece.canLead && pieces.getLast?.all Piece.canTrail

def readValue? (written : String) : Option String :=
  if isWritten written then unescape? written else none

def readComponent? (leaf : String) : Option (String × String) :=
  match leaf.toList.dropWhile (· ≠ '=') with
  | _ :: written =>
      (readValue? (String.ofList written)).map fun value =>
        (String.ofList (leaf.toList.takeWhile (· ≠ '=')), value)
  | [] => none

def pieceOf (isFirst isLast : Bool) (letter : Char) : Piece :=
  if isSpecial letter then .escaped letter
  else if letter = '#' && isFirst then .escaped '#'
  else if letter = ' ' && (isFirst || isLast) then .escaped ' '
  else if letter = '\x00' then .byte 0
  else .plain letter

def piecesFrom (isFirst : Bool) : List Char → List Piece
  | [] => []
  | letter :: rest => pieceOf isFirst rest.isEmpty letter :: piecesFrom false rest

variable {isFirst isLast : Bool} {letter : Char}

theorem special_escapable (special : isSpecial letter = true) : isEscapable letter = true := by
  simp only [isSpecial, Bool.or_eq_true, decide_eq_true_eq] at special
  simp only [isEscapable, List.contains_eq_mem, List.mem_cons, List.not_mem_nil, decide_eq_true_eq]
  grind

theorem digit_not_escapable {high low : Char} {value : UInt8}
    (digits : hexByte? high low = some value) : isEscapable high = false := by
  cases escapable : isEscapable high with
  | false => rfl
  | true =>
      have noDigit : hexValue? high = none := by
        simp only [isEscapable, List.contains_eq_mem, List.mem_cons, List.not_mem_nil, or_false,
          decide_eq_true_eq] at escapable
        rcases escapable with rfl | rfl | rfl | rfl | rfl | rfl | rfl | rfl | rfl | rfl <;> decide
      rw [hexByte?, noDigit] at digits
      cases digits

theorem pieces_written {part : List Char} {piece : Piece} (writes : Writes part piece)
    (rest : List Char) : pieces? (part ++ rest) = (pieces? rest).map (piece :: ·) := by
  cases writes with
  | @plain letter unreserved =>
      have noBackslash : letter ≠ '\\' := by
        rintro rfl
        cases unreserved
      rw [List.singleton_append, pieces?.eq_def]
      dsimp only
      rw [if_neg noBackslash, if_neg (Bool.eq_false_iff.mp unreserved)]
  | @escaped letter escapable =>
      rw [List.cons_append, List.singleton_append, pieces?.eq_def]
      dsimp only
      rw [if_pos rfl, if_pos escapable]
  | byte digits =>
      rw [List.cons_append, List.cons_append, List.singleton_append, pieces?.eq_def]
      dsimp only
      rw [if_pos rfl, if_neg (Bool.eq_false_iff.mp (digit_not_escapable digits)), digits]
      rfl

theorem escape_writes :
    Writes (escapeCharacter isFirst isLast letter) (pieceOf isFirst isLast letter) := by
  unfold escapeCharacter pieceOf
  split
  case isTrue special => exact .escaped (special_escapable special)
  case isFalse plain =>
    split
    case isTrue => exact .escaped (by decide)
    split
    case isTrue => exact .escaped (by decide)
    split
    case isTrue => exact .byte (by decide)
    case isFalse notNull =>
      refine .plain ?_
      simp only [isSpecial, Bool.or_eq_true, decide_eq_true_eq] at plain
      simp only [isReserved, List.contains_eq_mem, List.mem_cons, List.not_mem_nil,
        decide_eq_false_iff_not]
      grind

theorem pieces_escape_from (letters : List Char) :
    pieces? (escapeFrom isFirst letters) = some (piecesFrom isFirst letters) := by
  induction letters generalizing isFirst with
  | nil => rfl
  | cons letter rest induction =>
      rw [escapeFrom, pieces_written escape_writes, induction]
      rfl

theorem piece_bytes : (pieceOf isFirst isLast letter).bytes = String.utf8EncodeChar letter := by
  unfold pieceOf
  split
  case isTrue => rfl
  split
  case isTrue sign =>
    obtain rfl : letter = '#' := by simpa using (Bool.and_eq_true_iff.mp sign).1
    rfl
  split
  case isTrue blank =>
    obtain rfl : letter = ' ' := by simpa using (Bool.and_eq_true_iff.mp blank).1
    rfl
  split
  case isTrue null =>
    subst null
    rfl
  case isFalse => rfl

theorem pieces_bytes (letters : List Char) :
    (piecesFrom isFirst letters).flatMap Piece.bytes =
      letters.flatMap String.utf8EncodeChar := by
  induction letters generalizing isFirst with
  | nil => rfl
  | cons letter rest induction =>
      rw [piecesFrom, List.flatMap_cons, List.flatMap_cons, piece_bytes, induction]

theorem first_can_lead : (pieceOf true isLast letter).canLead = true := by
  unfold pieceOf
  split
  · rfl
  split
  · rfl
  split
  · rfl
  split
  · rfl
  · simp_all [Piece.canLead]

theorem last_can_trail : (pieceOf isFirst true letter).canTrail = true := by
  unfold pieceOf
  split
  · rfl
  split
  · rfl
  split
  · rfl
  split
  · rfl
  · simp_all [Piece.canTrail]

theorem pieces_lead (letters : List Char) :
    (piecesFrom true letters).head?.all Piece.canLead = true := by
  cases letters with
  | nil => rfl
  | cons letter rest => exact first_can_lead

theorem pieces_trail (letters : List Char) :
    (piecesFrom isFirst letters).getLast?.all Piece.canTrail = true := by
  induction letters generalizing isFirst with
  | nil => rfl
  | cons letter rest induction =>
      cases rest with
      | nil => exact last_can_trail
      | cons next rest =>
          rw [piecesFrom, piecesFrom, List.getLast?_cons_cons]
          exact induction

theorem can_trail_of_lead {piece : Piece} (leads : piece.canLead = true) :
    piece.canTrail = true := by
  cases piece with
  | plain letter => exact (Bool.and_eq_true_iff.mp leads).1
  | escaped letter => rfl
  | byte value => rfl

theorem trail_not_blank {piece : Piece} (trails : piece.canTrail = true) :
    ¬piece.isBlank = true := by
  cases piece with
  | plain letter => simpa [Piece.canTrail, Piece.isBlank] using trails
  | escaped letter => exact Bool.false_ne_true
  | byte value => exact Bool.false_ne_true

/-- Nothing is dropped where the first part can lead and the last one can trail. -/
theorem trimmed_same {pieces : List Piece} (canLead : pieces.head?.all Piece.canLead = true)
    (canTrail : pieces.getLast?.all Piece.canTrail = true) :
    (pieces.dropWhile Piece.isBlank).rdropWhile Piece.isBlank = pieces := by
  have front : pieces.dropWhile Piece.isBlank = pieces := by
    cases pieces with
    | nil => rfl
    | cons first others =>
        exact List.dropWhile_cons_of_neg (trail_not_blank (can_trail_of_lead canLead))
  rw [front, List.rdropWhile_eq_self_iff]
  intro filled
  rw [List.getLast?_eq_getLast_of_ne_nil filled] at canTrail
  exact trail_not_blank canTrail

theorem read_escaped_value (value : String) : readValue? (escapeValue value) = some value := by
  have parts : pieces? (escapeValue value).toList = some (piecesFrom true value.toList) := by
    rw [escapeValue, String.toList_ofList, pieces_escape_from]
  have written : isWritten (escapeValue value) = true := by
    rw [isWritten, parts, Option.any_some, pieces_lead, pieces_trail, Bool.and_self]
  rw [readValue?, if_pos written, unescape?, parts, Option.bind_eq_bind, Option.bind_some,
    trimmed_same (pieces_lead _) (pieces_trail _), pieces_bytes, encode_letters, decode_encode]

/-- A component is read as the type and the value that it was written from. -/
theorem read_component {type : String} (isType : IsType type) (value : String) :
    readComponent? (component type value) = some (type, value) := by
  have written : (component type value).toList =
      type.toList ++ '=' :: escapeFrom true value.toList := by
    simp [component, escapeValue]
  have inType : ∀ letter ∈ type.toList, decide (letter ≠ '=') = true := fun letter member =>
    decide_eq_true (not_special (isType letter member)).2.2
  unfold readComponent?
  rw [written, List.dropWhile_append_of_pos inType, List.takeWhile_append_of_pos inType,
    List.dropWhile_cons_of_neg (by decide), List.takeWhile_cons_of_neg (by decide)]
  dsimp only
  rw [← escapeValue, read_escaped_value, Option.map_some, List.append_nil, String.ofList_toList]

example : readValue? "\\ a\\,b=\\00\\c3\\a9 #\\ " = some " a,b=\x00é # " := by decide +kernel

end TeacherDirectory.DistinguishedName
