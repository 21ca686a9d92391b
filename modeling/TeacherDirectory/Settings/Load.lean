import TeacherDirectory.Settings.File
import TeacherDirectory.Url.Basic

/-!
# Finding the settings

There are three places for a settings file: the one that was given, if a file is there; otherwise the
one that the environment names, whether or not a file is there; otherwise the standard one. Where no
settings can be read the standard ones apply. The URL of the directory is checked, and the environment
may replace the password. The version is the program's own, whatever the file states.
-/

namespace TeacherDirectory

set_option autoImplicit false

/-- What is found at a place. A sealed file is one that cannot be opened. A stream can be read, but it
is no file. -/
inductive FilePlace
  | nothing
  | folder
  | sealed
  | file (content : Text.Bytes)
  | stream (content : Text.Bytes)
  deriving DecidableEq

namespace FilePlace

def isFile : FilePlace → Bool
  | .file _ | .sealed => true
  | _ => false

def content? : FilePlace → Option Text.Bytes
  | .file content | .stream content => some content
  | _ => none

def settings? (place : FilePlace) : Option Settings := place.content?.bind Settings.ofBytes?

end FilePlace

/-- The places for a settings file, and what the environment holds. A place that was not given is one
where nothing is found. -/
structure Surroundings where
  given : FilePlace
  named : Option FilePlace
  standard : FilePlace
  password : Option String

def Surroundings.place (surroundings : Surroundings) : FilePlace :=
  if surroundings.given.isFile then surroundings.given
  else surroundings.named.getD surroundings.standard

inductive SettingsError
  | url (reason : UrlError)
  | scheme (name : String)
  deriving DecidableEq

def SettingsError.message : SettingsError → String
  | .url reason => s!"invalid LDAP URL: {reason.message}"
  | .scheme name => s!"unsupported LDAP scheme `{name}`"

namespace DirectorySettings

def isScheme (scheme : String) : Bool := ["ldap", "ldaps"].contains scheme

/-- Checks the URL, which is kept as it is written. -/
def checkUrl (settings : DirectorySettings) : Except SettingsError Unit :=
  match Url.read settings.url with
  | .error reason => .error (.url reason)
  | .ok url => if isScheme url.scheme then .ok () else .error (.scheme url.scheme)

def withPassword (settings : DirectorySettings) (password : Option String) : DirectorySettings :=
  match password with
  | some password => { settings with password := some password }
  | none => settings

def accept (password : Option String) (settings : DirectorySettings) :
    Except SettingsError DirectorySettings := do
  settings.checkUrl
  return settings.withPassword password

end DirectorySettings

/-- Checks the section on the directory, if there is one, and states the program's version. -/
def Settings.accept (password : Option String) (settings : Settings) :
    Except SettingsError Settings := do
  let directory ← settings.directory.mapM (DirectorySettings.accept password)
  return { settings with version := programVersion, directory := directory }

def Surroundings.read (surroundings : Surroundings) : Except SettingsError (Option Settings) :=
  surroundings.place.settings?.mapM (Settings.accept surroundings.password)

def Surroundings.settings (surroundings : Surroundings) : Except SettingsError Settings :=
  surroundings.read.map fun settings => settings.getD Settings.standard

end TeacherDirectory
