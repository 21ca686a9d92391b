import TeacherDirectory.Json.Quote
import TeacherDirectory.Json.Value

/-!
# Records of texts

A record has named fields that hold texts; some may be left out or null. It is written as an object
with all fields in order. It is read from an object with the fields in any order, other members
being passed over, or from an array of all fields in order. A field that occurs twice and a required
field that is left out are faults of shape.
-/

namespace TeacherDirectory.Json

set_option autoImplicit false

structure Field where
  key : String
  required : Bool
  deriving DecidableEq

abbrev Found := List (String × Option String)

/-- The value of a field; one that was not found is null, unless it is required. -/
def Found.value (found : Found) (field : Field) : Except Fault (Option String) :=
  match found.lookup field.key with
  | some value => .ok value
  | none => if field.required then .error .mismatched else .ok none

def Found.values (found : Found) (fields : List Field) : Except Fault (List (Option String)) :=
  fields.mapM (Found.value found)

def readText (text : List Char) : Except Fault (String × List Char) :=
  match skipBlanks text with
  | [] => .error .ended
  | first :: rest =>
      if first = '"' then (readQuoted rest).map fun (value, left) => (String.ofList value, left)
      else .error (mismatch (first :: rest))

def readOptional (text : List Char) : Except Fault (Option String × List Char) :=
  match skipBlanks text with
  | [] => .error .ended
  | first :: rest =>
      if first = 'n' then (skipWord ['u', 'l', 'l'] rest).map fun left => (none, left)
      else (readText (first :: rest)).map fun (value, left) => (some value, left)

def readField (field : Field) (text : List Char) : Except Fault (Option String × List Char) :=
  if field.required then (readText text).map fun (value, left) => (some value, left)
  else readOptional text

def readMembers (fields : List Field) : Nat → Found → List Char →
    Except Fault (Found × List Char)
  | 0, _, _ => .error .ended
  | budget + 1, found, text => do
      let (key, afterKey) ← readQuoted text
      let key := String.ofList key
      let field := fields.find? fun field => field.key = key
      if field.isSome && (found.lookup key).isSome then throw .mismatched
      match skipBlanks afterKey with
      | [] => throw .ended
      | colon :: afterColon =>
          if colon ≠ ':' then throw .malformed
          let (found, afterValue) ← match field with
            | some field => do
                let (value, rest) ← readField field afterColon
                pure ((key, value) :: found, rest)
            | none => do
                let rest ← skipValue budget afterColon
                pure (found, rest)
          match skipBlanks afterValue with
          | [] => throw .ended
          | next :: rest =>
              if next = '\x7d' then return (found, rest)
              else if next = ',' then
                match skipBlanks rest with
                | [] => throw .ended
                | mark :: rest =>
                    if mark = '"' then readMembers fields budget found rest
                    else throw .malformed
              else throw .malformed

def readObject (fields : List Field) (text : List Char) :
    Except Fault (List (Option String) × List Char) := do
  let (found, rest) ← match skipBlanks text with
    | [] => throw .ended
    | first :: rest =>
        if first = '\x7d' then pure ([], rest)
        else if first = '"' then readMembers fields (text.length + 1) [] rest
        else throw .malformed
  return (← Found.values found fields, rest)

/-- Reads the items of an array, the first of which has no comma in front. -/
def readItems (isFirst : Bool) : List Field → List Char →
    Except Fault (List (Option String) × List Char)
  | [], text =>
      match skipBlanks text with
      | [] => .error .ended
      | next :: rest => if next = ']' then .ok ([], rest) else .error .malformed
  | field :: fields, text => do
      let text ← match skipBlanks text with
        | [] => throw .ended
        | next :: rest =>
            if next = ']' then throw .mismatched
            else if isFirst then pure (next :: rest)
            else if next = ',' then
              match skipBlanks rest with
              | [] => throw .ended
              | item :: rest => if item = ']' then throw .malformed else pure (item :: rest)
            else throw .malformed
      let (value, rest) ← readField field text
      let (values, rest) ← readItems false fields rest
      return (value :: values, rest)

def readRecord (fields : List Field) (text : String) : Except Fault (List (Option String)) := do
  match skipBlanks text.toList with
  | [] => throw .ended
  | first :: rest =>
      let (values, rest) ←
        if first = '[' then readItems true fields rest
        else if first = '\x7b' then readObject fields rest
        else throw (mismatch (first :: rest))
      if (skipBlanks rest).isEmpty then return values else throw .malformed

def Field.ofValue (field : Field) : Value → Except Fault (Option String)
  | .text value => .ok (some value)
  | .null => if field.required then .error .mismatched else .ok none
  | _ => .error .mismatched

/-- Takes the fields from the members of an object; no key occurs twice. -/
def findMembers (fields : List Field) : List (String × Value) → Except Fault Found
  | [] => .ok []
  | (key, value) :: members =>
      match fields.find? fun field => field.key = key with
      | some field => do
          let value ← field.ofValue value
          let found ← findMembers fields members
          return (key, value) :: found
      | none => findMembers fields members

def takeItems : List Field → List Value → Except Fault (List (Option String))
  | [], [] => .ok []
  | field :: fields, value :: values => do
      let value ← field.ofValue value
      let rest ← takeItems fields values
      return value :: rest
  | _, _ => .error .mismatched

/-- Reads a record from a value. Every fault is one of shape. -/
def recordOfValue (fields : List Field) : Value → Except Fault (List (Option String))
  | .array items => takeItems fields items
  | .object members => do
      Found.values (← findMembers fields members) fields
  | _ => .error .mismatched

def fieldText (field : Field) (value : Option String) : String :=
  member field.key (match value with
    | some value => quote value
    | none => "null")

def recordText (fields : List Field) (values : List (Option String)) : String :=
  object (fields.zipWith fieldText values)

end TeacherDirectory.Json
