import TeacherDirectory.DomainName.Mark

/-!
# Directions of writing

Some letters are written from right to left. In a domain name with such letters every label has to
show in which direction it is read: it begins with a letter of its direction, ends with a letter or
number that fits, and has no letters of the other direction. The tables are those of version 17 of
Unicode for characters in their plain form; their ranges may run across characters that are never
looked up, and all letters that are not listed are written from left to right.
-/

namespace TeacherDirectory.DomainName

set_option autoImplicit false

open Text

inductive Direction
  | leftToRight
  | rightToLeft
  | europeanNumber
  | arabicNumber
  | neutral
  | nonspacing
  deriving DecidableEq

def rightToLeftLetters : Table := .read "
  5be, 5c0, 5c3, 5c6, 5d0-5f4, 7c0-7ea, 7f4-7f5, 7fa, 7fe-815, 81a, 824, 828, 830-858, 85e,
  10800-1091b, 10920-10a00, 10a10-10a35, 10a40-10ae4, 10aeb-10b35, 10b40-10cff, 10d40-10d4f,
  10d6f-10d8f, 10e80-10ea9, 10ead-10eb1, 10f00-10f27, 10f70-10f81, 10f86-10ff6, 1e800-1e8cf,
  1e922-1e943, 1e94b-1e95f"

def arabicLetters : Table := .read "
  608, 60b, 60d, 61b-64a, 66d-66f, 671-6d5, 6e5-6e6, 6ee-6ef, 6fa-710, 712-72f, 74d-7a5, 7b1,
  860-88f, 8a0-8c9, fbb2-fbc2, fe73, 10d00-10d23, 10ec2-10ec7, 10f30-10f45, 10f51-10f59,
  1ec71-1ed3d"

def arabicNumbers : Table := .read "
  660-669, 66b-66c, 10d30-10d39, 10e60-10e7e"

def europeanNumbers : Table := .read "
  30-39, 6f0-6f9, 102e1-102fb"

def neutrals : Table := .read "
  21-2f, 3a-60, 7b-d7, f7, 2b9-2ba, 2c2-2cf, 2d2-2ed, 2ef-2ff, 375, 3f6, 58a-58f, 606-607, 609-60a,
  60c, 60e-60f, 66a, 6de, 6e9, 7f6-7f9, 9f2-9f3, 9fb, af1, bf3-bfa, c78-c7e, e3f, f3a-f3d,
  1390-1399, 1400, 169b-169c, 17db, 17f0-180a, 1940-1945, 19de-19ff, 200c-20c1, 2104-214d,
  218a-2335, 237b-2394, 2396-26ab, 26ad-27ff, 2900-2bff, 2ce5-2cea, 2cf9-2cff, 2e00-3004,
  3008-3020, 3030, 3037, 303d-303f, 30a0, 30fb, 31c0-31e5, 4dc0-4dff, a490-a4c6, a60d-a60f, a673,
  a67e-a67f, a700-a721, a788, a828-a82b, a838-a839, a874-a877, ab6a-ab6b, fbc3-fdff, fe45-fe46,
  10101, 10140-1018c, 10190-101a0, 1091f, 10b39-10b3f, 10d6e, 10ed0-10ed8, 11052-11065,
  11660-1166c, 11fd5-11ff1, 16fe2, 1cc00-1cef0, 1d1e9-1d241, 1d245, 1d300-1d356, 1e2ff,
  1eef0-1f12f, 1f16d-1f16f, 1f1ad, 1f260-1fbfa"

def Direction.ofCharacter (character : Char) : Direction :=
  if nonspacingMarks.lists character then .nonspacing
  else if neutrals.lists character then .neutral
  else if europeanNumbers.lists character then .europeanNumber
  else if arabicNumbers.lists character then .arabicNumber
  else if arabicLetters.lists character || rightToLeftLetters.lists character then .rightToLeft
  else .leftToRight

/-- Whether a character makes it matter how labels are read. -/
def Direction.isFromRight (direction : Direction) : Bool :=
  direction = .rightToLeft || direction = .arabicNumber

def readsFromLeft (rest : List Direction) : Bool :=
  match rest.reverse.dropWhile (· = .nonspacing) with
  | [] => true
  | last :: middle =>
      (last = .leftToRight || last = .europeanNumber) &&
        middle.all fun direction => !direction.isFromRight

/-- Whether the directions after the first show that a label is read from right to left. Numbers must
be of one kind. -/
def readsFromRight (rest : List Direction) : Bool :=
  match rest.reverse.dropWhile (· = .nonspacing) with
  | [] => true
  | last :: middle =>
      [.rightToLeft, .europeanNumber, .arabicNumber].contains last &&
        !middle.contains .leftToRight &&
        !((last :: middle).contains .europeanNumber && (last :: middle).contains .arabicNumber)

def isDirected (label : List Char) : Bool :=
  match label.map Direction.ofCharacter with
  | [] => true
  | .leftToRight :: rest => readsFromLeft rest
  | .rightToLeft :: rest => readsFromRight rest
  | _ => false

/-- Whether labels can be read without doubt: without characters from right to left any can. -/
def areDirected (labels : List (List Char)) : Bool :=
  let matters := labels.any fun label =>
    label.any fun character => (Direction.ofCharacter character).isFromRight
  !matters || labels.all isDirected

end TeacherDirectory.DomainName
