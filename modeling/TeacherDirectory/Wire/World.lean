import TeacherDirectory.Program
import TeacherDirectory.Wire.Client

/-!
# The world of the network client

Programs run over the network client when their calls are sent to the server of a URL. The server is
given by the reply it makes to each message; the messages it got are kept. Time does not pass, and
every draw gives the first letter.
-/

namespace TeacherDirectory.Wire

set_option autoImplicit false

structure Link where
  connection : Connection
  received : List Message

def Link.fresh : Link := ⟨.fresh, []⟩

/-- Performs an action and keeps its message. -/
def Link.perform (link : Link) (action : Action) (reply : Message → Reply) :
    Except DirectoryError (List Entry) × Link :=
  match link.connection.message action with
  | (.error failure, connection) =>
      (.error failure.directoryError, { link with connection := connection })
  | (.ok message, connection) =>
      ((readReply (reply message) action).mapError ClientError.directoryError,
        ⟨connection, link.received ++ [message]⟩)

def Link.answerCall (network : Network) (url : String) (reply : Message → Reply) (link : Link) :
    (request : Call) → request.Answer × Link
  | .connect =>
      ((connect network url).mapError ClientError.directoryError,
        { link with connection := .fresh })
  | .search base scope filter names =>
      link.perform (.search base scope filter.render names) reply
  | .bind name password =>
      let (outcome, link) := link.perform (.bind name password) reply
      (outcome.map fun _ => (), link)
  | .add name attributes =>
      let (outcome, link) := link.perform (.add name attributes) reply
      (outcome.map fun _ => (), link)
  | .modify name changes =>
      let (outcome, link) := link.perform (.modify name changes) reply
      (outcome.map fun _ => (), link)
  | .rename name leaf =>
      let (outcome, link) := link.perform (.rename name leaf) reply
      (outcome.map fun _ => (), link)
  | .delete name =>
      let (outcome, link) := link.perform (.delete name) reply
      (outcome.map fun _ => (), link)

def world (network : Network) (url : String) (reply : Message → Reply) : World Link where
  answer
    | .call request, link => link.answerCall network url reply request
    | .log _, link => ((), link)
    | .count _, link => ((), link)
    | .wait _, link => ((), link)
    | .publish _, link => (.ok (), link)
    | .draw, link => (Vector.replicate 12 ⟨0, by decide⟩, link)

end TeacherDirectory.Wire
