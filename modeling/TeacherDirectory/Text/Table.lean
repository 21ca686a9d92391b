import TeacherDirectory.Text.Hex

/-!
# Tables of characters

A table lists ranges of characters and what belongs to each range. It is written as a text: commas
divide its rows, and a row consists of a range in hexadecimal and of the numbers that belong to it,
with blanks between them. Rows that cannot be read are left out.
-/

namespace TeacherDirectory.Text

set_option autoImplicit false

/-- A range of characters, both ends included, with the numbers that belong to it. -/
structure Row where
  first : Nat
  last : Nat
  numbers : List Nat
  deriving DecidableEq

def words (text : List Char) : List (List Char) :=
  let blanked := text.map fun character => if character = '\n' then ' ' else character
  (blanked.splitOn ' ').filter fun word => !word.isEmpty

def hexNumber? (digits : List Char) : Option Nat :=
  if digits.isEmpty then none
  else digits.foldlM (fun value digit => (hexValue? digit).map fun next => 16 * value + next) 0

namespace Row

def range? (text : List Char) : Option (Nat × Nat) := do
  match ← (text.splitOn '-').mapM hexNumber? with
  | [first] => some (first, first)
  | [first, last] => some (first, last)
  | _ => none

def read? (text : List Char) : Option Row :=
  match words text with
  | [] => none
  | range :: numbers => do
      let (first, last) ← range? range
      some ⟨first, last, ← numbers.mapM hexNumber?⟩

def holds (row : Row) (character : Char) : Bool :=
  row.first ≤ character.toNat && character.toNat ≤ row.last

def offset (row : Row) (character : Char) : Nat := character.toNat - row.first

def characters (row : Row) : List Char := row.numbers.map Char.ofNat

end Row

structure Table where
  rows : List Row

namespace Table

def read (text : String) : Table := ⟨(text.toList.splitOn ',').filterMap Row.read?⟩

def row? (table : Table) (character : Char) : Option Row :=
  table.rows.find? fun row => row.holds character

def lists (table : Table) (character : Char) : Bool := (table.row? character).isSome

end Table

end TeacherDirectory.Text
