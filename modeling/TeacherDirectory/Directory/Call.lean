import TeacherDirectory.Directory.Change
import TeacherDirectory.Directory.Entry
import TeacherDirectory.Filter

/-!
# Directory calls

What a client can ask of a directory, what a successful answer carries, and how a call fails. Every
call belongs to the connection opened last.
-/

namespace TeacherDirectory

set_option autoImplicit false

inductive SearchScope
  | base
  | oneLevel
  | subtree
  deriving DecidableEq

inductive DirectoryError
  | transport (reason : String)
  | rejected (code : UInt32) (text : String)
  deriving DecidableEq

def DirectoryError.message : DirectoryError → String
  | transport reason => s!"directory unreachable: {reason}"
  | rejected code text => s!"directory returned rc={code.toNat}: {text}"

inductive Call
  | connect
  | bind (name password : String)
  | search (base : String) (scope : SearchScope) (filter : Filter String) (names : List String)
  | add (name : String) (attributes : Attributes)
  | modify (name : String) (changes : List Change)
  | rename (name leaf : String)
  | delete (name : String)

/-- What a successful call gives back: the entries of a search, and nothing otherwise. -/
abbrev Call.Reply : Call → Type
  | search .. => List Entry
  | _ => Unit

abbrev Call.Answer (call : Call) : Type := Except DirectoryError call.Reply

end TeacherDirectory
