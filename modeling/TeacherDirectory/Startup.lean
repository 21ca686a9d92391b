import TeacherDirectory.Service.Basic
import TeacherDirectory.Url.Basic

/-!
# Starting up

Before requests are served, the settings are turned into a service and a place for events. Without a
directory there is nothing to serve; without a broker events are dropped.
-/

namespace TeacherDirectory

set_option autoImplicit false

structure App where
  name : String
  service : Service

inductive EventSink
  | dropped
  | broker (settings : BrokerSettings)

/-- Hands an event over. Where it is dropped, that is logged. -/
def EventSink.publish (sink : EventSink) (event : PersonEvent) :
    Program (Except PublishError Unit) := do
  match sink with
  | .dropped =>
      Program.log .debug "no broker configured, event dropped" [("event_type", PersonEvent.type)]
      return .ok ()
  | .broker _ => Program.publish event

inductive StartupError
  | noDirectory
  | brokerAddress (reason : UrlError)
  deriving DecidableEq

def StartupError.message : StartupError → String
  | noDirectory => "missing `ldap` entry on `config.yaml` file"
  | brokerAddress reason => s!"invalid broker address: {reason.message}"

/-- The place for events; the broker's address has to be a URL. -/
def EventSink.ofSettings (broker : Option BrokerSettings) :
    ExceptT StartupError Program EventSink := do
  match broker with
  | none =>
      Program.log .warn "no `broker` entry, domain events are dropped" []
      return .dropped
  | some broker =>
      match Url.read broker.address with
      | .ok _ => return .broker broker
      | .error reason => throw (.brokerAddress reason)

def App.start (settings : Settings) : ExceptT StartupError Program (App × EventSink) := do
  match settings.directory with
  | none =>
      Program.log .error StartupError.noDirectory.message []
      throw .noDirectory
  | some directory =>
      let sink ← EventSink.ofSettings settings.broker
      return (⟨settings.name, .ofSettings directory⟩, sink)

inductive InstallError
  | alreadyInstalled
  deriving DecidableEq

def InstallError.message : InstallError → String
  | alreadyInstalled =>
      "failed to install exporter as global recorder: attempted to set a recorder after the metrics system was already initialized"

/-- Installs the recorder that counts everything. There can be one only. -/
def Recorder.install (installed : Option Recorder) : Except InstallError Recorder :=
  match installed with
  | none => .ok .described
  | some _ => .error .alreadyInstalled

end TeacherDirectory
