import TeacherDirectory.Text.Utf8

/-!
# Sockets of this machine

A socket is named by a path, or by a name of its own after a leading NUL. No server listens at any, so
opening one always fails. The reason tells whether the text can name a socket at all and whether the
machine has something at the path; of what it has, only places that such machines share are known.
-/

namespace TeacherDirectory.Wire

set_option autoImplicit false

open Text

inductive SocketError
  | nulInPath
  | longPath
  | longName
  | missing
  | notFolder
  | refused
  deriving DecidableEq

def SocketError.message : SocketError → String
  | nulInPath => "paths must not contain interior null bytes"
  | longPath => "path must be shorter than SUN_LEN"
  | longName => "abstract socket name must be shorter than SUN_LEN"
  | missing => "No such file or directory (os error 2)"
  | notFolder => "Not a directory (os error 20)"
  | refused => "Connection refused (os error 111)"

namespace Socket

/-- How many bytes of a path, or of a name after its NUL, are too many. -/
def tooLong : Nat := 108

abbrev Place := List String

def folders : List Place :=
  [[], ["bin"], ["boot"], ["dev"], ["dev", "pts"], ["dev", "shm"], ["etc"], ["home"], ["lib"],
    ["media"], ["mnt"], ["opt"], ["proc"], ["proc", "self"], ["proc", "sys"], ["root"], ["run"],
    ["run", "lock"], ["sbin"], ["srv"], ["sys"], ["tmp"], ["usr"], ["usr", "bin"], ["usr", "lib"],
    ["usr", "local"], ["usr", "local", "bin"], ["usr", "sbin"], ["usr", "share"], ["var"],
    ["var", "cache"], ["var", "lib"], ["var", "log"], ["var", "run"], ["var", "tmp"]]

def files : List Place :=
  [["dev", "full"], ["dev", "null"], ["dev", "ptmx"], ["dev", "random"], ["dev", "tty"],
    ["dev", "urandom"], ["dev", "zero"], ["etc", "group"], ["etc", "hostname"], ["etc", "hosts"],
    ["etc", "passwd"], ["etc", "resolv.conf"]]

def workingFolder : Place := ["tmp"]

/-- The place that a part of a path leads to: two periods lead up, no name and one period nowhere. -/
def step (place : Place) (part : String) : Place :=
  if part = "" || part = "." then place
  else if part = ".." then place.dropLast
  else place ++ [part]

/-- Follows the parts of a path. Only a folder leads on, and what is there at the end refuses. -/
def follow (place : Place) : List String → SocketError
  | [] => if folders.contains place || files.contains place then .refused else .missing
  | part :: rest =>
      if folders.contains place then follow (step place part) rest
      else if files.contains place then .notFolder
      else .missing

def failure (path : List Char) : SocketError :=
  let size (text : List Char) : Nat := (encode (String.ofList text)).length
  match path with
  | '\x00' :: name => if tooLong ≤ size name then .longName else .refused
  | _ =>
      if path.contains '\x00' then .nulInPath
      else if tooLong ≤ size path then .longPath
      else
        let start := if path.head? = some '/' then [] else workingFolder
        follow start ((path.splitOn '/').map String.ofList)

end Socket

end TeacherDirectory.Wire
