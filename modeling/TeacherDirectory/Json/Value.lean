import TeacherDirectory.Json.Number

/-!
# JSON values

A value of any shape, and how one is passed over in a text without being built.
-/

namespace TeacherDirectory.Json

set_option autoImplicit false

/-- A value; a number is kept as it is written. -/
inductive Value
  | null
  | bool (value : Bool)
  | number (digits : String)
  | text (value : String)
  | array (items : List Value)
  | object (members : List (String × Value))

mutual

/-- Passes over one value. The budget bounds the number of values and members passed over. -/
def skipValue : Nat → List Char → Except Fault (List Char)
  | 0, _ => .error .ended
  | budget + 1, text =>
      match skipBlanks text with
      | [] => .error .ended
      | first :: rest =>
          if first = 'n' then skipWord ['u', 'l', 'l'] rest
          else if first = 't' then skipWord ['r', 'u', 'e'] rest
          else if first = 'f' then skipWord ['a', 'l', 's', 'e'] rest
          else if first = '"' then skipQuoted rest
          else if first = '-' then skipNumber rest
          else if first.isDigit then skipNumber (first :: rest)
          else if first = '[' then
            match skipBlanks rest with
            | [] => .error .ended
            | next :: after => if next = ']' then .ok after else skipItems budget (next :: after)
          else if first = '\x7b' then
            match skipBlanks rest with
            | [] => .error .ended
            | next :: after => if next = '\x7d' then .ok after else skipMembers budget (next :: after)
          else .error .malformed

def skipItems : Nat → List Char → Except Fault (List Char)
  | 0, _ => .error .ended
  | budget + 1, text => do
      let rest ← skipValue budget text
      match skipBlanks rest with
      | [] => throw .ended
      | next :: after =>
          if next = ',' then skipItems budget after
          else if next = ']' then return after
          else throw .malformed

def skipMembers : Nat → List Char → Except Fault (List Char)
  | 0, _ => .error .ended
  | budget + 1, text => do
      match skipBlanks text with
      | [] => throw .ended
      | mark :: key =>
          if mark ≠ '"' then throw .malformed
          match skipBlanks (← skipQuoted key) with
          | [] => throw .ended
          | colon :: value =>
              if colon ≠ ':' then throw .malformed
              match skipBlanks (← skipValue budget value) with
              | [] => throw .ended
              | next :: after =>
                  if next = ',' then skipMembers budget after
                  else if next = '\x7d' then return after
                  else throw .malformed

end

def mismatch (text : List Char) : Fault :=
  let checked {Rest : Type} (read : Except Fault Rest) : Fault :=
    match read with
    | .error fault => fault
    | .ok _ => .mismatched
  match text with
  | [] => .ended
  | first :: rest =>
      if first = 'n' then checked (skipWord ['u', 'l', 'l'] rest)
      else if first = 't' then checked (skipWord ['r', 'u', 'e'] rest)
      else if first = 'f' then checked (skipWord ['a', 'l', 's', 'e'] rest)
      else if first = '"' then checked (readQuoted rest)
      else if first = '-' then numberFault rest
      else if first.isDigit then numberFault (first :: rest)
      else if first = '[' || first = '\x7b' then .mismatched
      else .malformed

end TeacherDirectory.Json
