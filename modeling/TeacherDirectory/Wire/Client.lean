import TeacherDirectory.Url.Basic
import TeacherDirectory.Wire.Message
import TeacherDirectory.Wire.Socket

/-!
# The network client

The client opens a connection to the server that a URL names, turns actions into messages and replies
into answers. Writing the identifier of an entry needs a control on the request; a control that is
set for a request which is then not sent stays for the next one.
-/

namespace TeacherDirectory.Wire

set_option autoImplicit false

inductive ClientError
  | result (code : UInt32) (text : String)
  | io (reason : String)
  | url (reason : UrlError)
  | unknownScheme (scheme : String)
  | emptySocketPath
  | portInSocketPath
  | filter
  | noValues
  | endOfStream

/-- Only the server's own result is a rejection. -/
def ClientError.directoryError : ClientError → DirectoryError
  | result code text => .rejected code text
  | io reason => .transport s!"I/O error: {reason}"
  | url reason => .transport s!"url parse error: {reason.message}"
  | unknownScheme scheme => .transport s!"unknown LDAP URL scheme: {scheme}"
  | emptySocketPath => .transport "empty Unix domain socket path"
  | portInSocketPath => .transport "the port must be empty in the ldapi scheme"
  | filter => .transport "filter parse error"
  | noValues => .transport "empty value set for Add"
  | endOfStream => .transport "premature end of search stream"

inductive Network
  | serving
  | refusing
  | unreachable
  deriving DecidableEq

/-- Whether a name is an address of up to four numbers, each with digits of its base. -/
def isNumeric (name : List Char) : Bool :=
  let parts := name.splitOn '.'
  match parts.mapM Host.part? with
  | some numbers =>
      Host.isAddress4 numbers && !parts.any fun part => part = ['0', 'x'] || part = ['0', 'X']
  | none => false

/-- Whether a host can be found without a network: an address, and the name of this machine, which
is also meant where there is no host. -/
def isFoundLocally : Option Host → Bool
  | some (.name name) => name.map Char.toLower = "localhost" || isNumeric name.toList
  | _ => true

def Network.reach (network : Network) (host : Option Host) : Except ClientError Unit :=
  match network with
  | serving => .ok ()
  | refusing => .error (.io "Connection refused (os error 111)")
  | unreachable =>
      if isFoundLocally host then .error (.io "Network is unreachable (os error 101)")
      else .error
        (.io "failed to lookup address information: Temporary failure in name resolution")

/-- Opens the socket at the path that the host of a URL stands for. An address in four parts is no
place, and one in eight has colons, as a number after a host has. -/
def openSocket (host : Option Host) : Except ClientError Unit :=
  match host with
  | none => .error .emptySocketPath
  | some .address6 => .error .portInSocketPath
  | some .address4 => .error (.io SocketError.missing.message)
  | some (.name name) =>
      let path := Text.decodeLossy (Host.percentDecode (Text.encode name))
      .error (.io (Socket.failure path.toList).message)

def connect (network : Network) (url : String) : Except ClientError Unit :=
  match Url.read url with
  | .error reason => .error (.url reason)
  | .ok url =>
      if url.scheme = "ldapi" then openSocket url.host
      else if url.scheme = "ldap" || url.scheme = "ldaps" then network.reach url.host
      else .error (.unknownScheme url.scheme)

structure Connection where
  pending : List Control

def Connection.fresh : Connection := ⟨[]⟩

def valueSets (attributes : Attributes) : Attributes :=
  attributes.map fun (name, values) => (name, valueSet values)

def addsNothing (changes : List Change) : Bool :=
  changes.any fun change => change.kind = .add && change.values.isEmpty

/-- Takes the pending controls along with a request. -/
def Connection.send (connection : Connection) (request : Request) :
    Except ClientError Message × Connection :=
  (.ok ⟨request, connection.pending⟩, .fresh)

def Connection.message (connection : Connection) :
    Action → Except ClientError Message × Connection
  | .bind name password => connection.send (.bind name password)
  | .search base scope filter names =>
      match Filter.read? filter with
      | some filter => connection.send (.search base scope filter names)
      | none => (.error .filter, .fresh)
  | .add name attributes =>
      let identifies := attributes.any fun (name, _) => Entry.key name = Entry.key "entryUUID"
      let connection : Connection :=
        if identifies then ⟨[Control.relaxedRules]⟩ else connection
      if attributes.any fun (_, values) => values.isEmpty then (.error .noValues, connection)
      else connection.send (.add name (valueSets attributes))
  | .modify name changes =>
      if addsNothing changes then (.error .noValues, connection)
      else connection.send (.modify name (changes.map Change.sent))
  | .rename name leaf => connection.send (.rename name leaf)
  | .delete name => connection.send (.delete name)

def success : UInt32 := 0

def noSuchObject : UInt32 := 32

/-- Reads the reply to a search. A base that does not exist holds no entries. -/
def readEntries (reply : Reply) : Except ClientError (List Entry) :=
  if reply.code = noSuchObject then .ok []
  else if reply.code = success then .ok (reply.entries.map fun entry => entry.result.entry)
  else .error (.result reply.code reply.text)

def readSuccess (reply : Reply) : Except ClientError Unit :=
  if reply.code = success then .ok () else .error (.result reply.code reply.text)

def readReply (reply : Reply) : Action → Except ClientError (List Entry)
  | .search .. => readEntries reply
  | _ => (readSuccess reply).map fun _ => []

end TeacherDirectory.Wire
