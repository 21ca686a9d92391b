import TeacherDirectory.Text.Hex

/-!
# Quoted JSON texts

A text is written between quotation marks. The quotation mark, the backslash and the characters
below the blank are escaped, with the short escape where there is one; everything else stands for
itself.
-/

namespace TeacherDirectory.Json

set_option autoImplicit false

def escapeCharacter (character : Char) : List Char :=
  if character = '"' then ['\\', '"']
  else if character = '\\' then ['\\', '\\']
  else if character = '\x08' then ['\\', 'b']
  else if character = '\x09' then ['\\', 't']
  else if character = '\x0a' then ['\\', 'n']
  else if character = '\x0c' then ['\\', 'f']
  else if character = '\x0d' then ['\\', 'r']
  else if character.toNat < 0x20 then
    ['\\', 'u', '0', '0', Text.hexDigit (character.toNat / 16), Text.hexDigit (character.toNat % 16)]
  else [character]

def quoteList (text : List Char) : List Char := '"' :: (text.flatMap escapeCharacter ++ ['"'])

def quote (text : String) : String := String.ofList (quoteList text.toList)

def member (key value : String) : String := quote key ++ ":" ++ value

def object (members : List String) : String := "\x7b" ++ ",".intercalate members ++ "\x7d"

end TeacherDirectory.Json
