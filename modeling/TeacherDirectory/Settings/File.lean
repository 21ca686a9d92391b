import TeacherDirectory.Settings.Basic
import TeacherDirectory.Text.Utf8
import TeacherDirectory.Yaml.Document

/-!
# The settings file

The settings are a YAML mapping, whose fields may stand in any order and among others. A section that
is null is the same as none. The file may state a version.
-/

namespace TeacherDirectory

set_option autoImplicit false

open Yaml

def DirectorySettings.ofNode? (document : Document) (node : Node) : Option DirectorySettings := do
  let fields ← document.fields?
    ["url", "bind_dn", "admin_password", "base_dn", "oeffentliche_schulen_domain",
      "ersatzschulen_domain", "retry_wrapper_default_retries", "retry_initial_delay_ms",
      "retry_max_delay_ms", "connection_timeout_secs"] node
  let optionalText (name : String) := fields.optional? name document document.text?
  let number (name : String) := fields.optional? name document (document.natural? (Nat.pow 2 64))
  return {
    url := ← fields.required? "url" document.text?
    bindName := ← fields.required? "bind_dn" document.text?
    password := ← optionalText "admin_password"
    base := ← fields.required? "base_dn" document.text?
    publicDomain := ← optionalText "oeffentliche_schulen_domain"
    privateDomain := ← optionalText "ersatzschulen_domain"
    maxRetries := (← fields.optional? "retry_wrapper_default_retries" document
      (document.natural? (Nat.pow 2 32))).map UInt32.ofNat
    initialDelay := (← number "retry_initial_delay_ms").map UInt64.ofNat
    maxDelay := (← number "retry_max_delay_ms").map UInt64.ofNat
    connectionTimeout := (← number "connection_timeout_secs").map UInt64.ofNat }

def BrokerSettings.ofNode? (document : Document) (node : Node) : Option BrokerSettings := do
  let fields ← document.fields? ["address", "queue"] node
  return {
    address := ← fields.required? "address" document.text?
    queue := ← fields.required? "queue" document.text? }

def TelemetrySettings.ofNode? (document : Document) (node : Node) : Option TelemetrySettings := do
  let fields ← document.fields? ["otlp_endpoint"] node
  return { endpoint := ← fields.optional? "otlp_endpoint" document document.text? }

/-- Reads the settings as the document states them. -/
def Settings.ofDocument? (document : Document) : Option Settings := do
  let fields ← document.fields?
    ["name", "address", "version", "ldap", "broker", "telemetry"] document.root
  let name ← fields.required? "name" document.text?
  let address ← fields.optional? "address" document document.text?
  let version ← match fields.lookup "version" with
    | some node => document.text? node
    | none => some ""
  return {
    name := name
    address := address
    version := version
    directory := ← fields.optional? "ldap" document (DirectorySettings.ofNode? document)
    broker := ← fields.optional? "broker" document (BrokerSettings.ofNode? document)
    telemetry := ← fields.optional? "telemetry" document (TelemetrySettings.ofNode? document) }

def Settings.ofBytes? (bytes : Text.Bytes) : Option Settings :=
  ((Text.decode? bytes).bind Document.read?).bind Settings.ofDocument?

end TeacherDirectory
