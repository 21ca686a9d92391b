/-!
# Occurrences

A text occurs in another where the other goes on with it; the empty text occurs everywhere.
-/

namespace TeacherDirectory.Text

set_option autoImplicit false

def occursIn (part : List Char) : List Char → Bool
  | [] => part.isEmpty
  | character :: rest => part.isPrefixOf (character :: rest) || occursIn part rest

end TeacherDirectory.Text
