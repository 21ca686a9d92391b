import TeacherDirectory.Directory.Call

/-!
# Messages to a directory server

What a client asks of an open connection, the requests that reach the server, and what it replies.
A request carries a filter that was read from its text, and the values of an attribute as a set.
-/

namespace TeacherDirectory.Wire

set_option autoImplicit false

open Text

inductive Action
  | bind (name password : String)
  | search (base : String) (scope : SearchScope) (filter : String) (names : List String)
  | add (name : String) (attributes : Attributes)
  | modify (name : String) (changes : List Change)
  | rename (name leaf : String)
  | delete (name : String)

/-- A request as the server gets it. A rename deletes the old leaf and keeps the parent. -/
inductive Request
  | bind (name password : String)
  | search (base : String) (scope : SearchScope) (filter : Filter Bytes) (names : List String)
  | add (name : String) (attributes : Attributes)
  | modify (name : String) (changes : List Change)
  | rename (name leaf : String)
  | delete (name : String)

/-- An extension that a request asks for. A critical one must not be ignored. -/
structure Control where
  identifier : String
  critical : Bool
  deriving DecidableEq

def Control.relaxedRules : Control := ⟨"1.3.6.1.4.1.4203.666.5.12", true⟩

structure Message where
  request : Request
  controls : List Control

structure ReplyEntry where
  name : String
  attributes : List (String × List Bytes)

structure Reply where
  code : UInt32
  text : String
  entries : List ReplyEntry

/-- An attribute is text if all its values are; otherwise all are bytes, those first that are no
text. -/
def ReplyEntry.result (entry : ReplyEntry) : SearchResult :=
  let isText (value : Bytes) : Bool := (decode? value).isSome
  { name := entry.name
    texts := (entry.attributes.filter fun (_, values) => values.all isText).map
      fun (name, values) => (name, values.filterMap decode?)
    binaries := (entry.attributes.filter fun (_, values) => !values.all isText).map
      fun (name, values) =>
        (name, (values.filter fun value => !isText value) ++ values.filter isText) }

end TeacherDirectory.Wire
