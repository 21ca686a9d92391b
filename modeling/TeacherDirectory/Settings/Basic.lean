import TeacherDirectory.Realm
import TeacherDirectory.Retry.Policy

/-!
# Settings

What an installation is told: its name and address, the directory it works on, where it hands
events over and where logs are exported to. Everything but the names may be left out.
-/

namespace TeacherDirectory

set_option autoImplicit false

structure DirectorySettings where
  url : String
  bindName : String
  password : Option String
  base : String
  publicDomain : Option String
  privateDomain : Option String
  maxRetries : Option UInt32
  initialDelay : Option UInt64
  maxDelay : Option UInt64
  connectionTimeout : Option UInt64
  deriving DecidableEq

namespace DirectorySettings

/-- The password to bind with; empty if none is given. -/
def bindPassword (settings : DirectorySettings) : String := settings.password.getD ""

/-- The domain of a realm, the built-in one if none is given. -/
def domain (settings : DirectorySettings) : Realm → String
  | .publicSchools => settings.publicDomain.getD (Realm.builtInDomain .publicSchools)
  | .privateSchools => settings.privateDomain.getD (Realm.builtInDomain .privateSchools)

def timeout (settings : DirectorySettings) : Option Span :=
  settings.connectionTimeout.map fun seconds => .ofSeconds seconds.toNat

/-- The retry policy, with the standard value for what is not given. Delays are given in
milliseconds. -/
def retryPolicy (settings : DirectorySettings) : RetryPolicy where
  maxRetries := settings.maxRetries.getD RetryPolicy.defaultRetries
  initialDelay := (settings.initialDelay.map fun delay => Span.ofMilliseconds delay.toNat).getD
    RetryPolicy.defaultInitialDelay
  backoff := RetryPolicy.doubling
  maxDelay := (settings.maxDelay.map fun delay => Span.ofMilliseconds delay.toNat).getD
    RetryPolicy.defaultMaxDelay

/-- The realm of a mail domain. Public schools come first, with the configured domain and with the
built-in one; then private schools in the same way. -/
def realm? (settings : DirectorySettings) (domain : String) : Option Realm :=
  [Realm.publicSchools, Realm.privateSchools].find? fun realm =>
    domain == settings.domain realm || domain == realm.builtInDomain

end DirectorySettings

structure BrokerSettings where
  address : String
  queue : String
  deriving DecidableEq

structure TelemetrySettings where
  endpoint : Option String
  deriving DecidableEq

structure Settings where
  name : String
  address : Option String
  version : String
  directory : Option DirectorySettings
  broker : Option BrokerSettings
  telemetry : Option TelemetrySettings
  deriving DecidableEq

def programVersion : String := "0.1.0"

def Settings.standard : Settings := ⟨"", none, programVersion, none, none, none⟩

end TeacherDirectory
