import LinkWarden.Config.Settings
import LinkWarden.Document.Value

/-!
# Writing settings as a document

The document of settings: a table for each group, with every field, and null for a text that is
absent. A rule has the keys of its effect beside its own.
-/

namespace LinkWarden.Encode

def text (s : String) : Value := .text s

def optionalText : Option String → Value
  | none => .null
  | some s => .text s

def linkState (s : LinkState) : Value := .text s.key

/-- The entries that describe an effect. -/
def effectEntries : Effect → List (String × Value)
  | .off => [("effect", .text "off")]
  | .on => [("effect", .text "on")]
  | .blink ms => [("effect", .text "blink"), ("interval_ms", .int ms.toNat)]

def effect (e : Effect) : Value := .table (effectEntries e)

def rule (r : StatusRule) : Value :=
  .table (("component", .text r.component) :: effectEntries r.effect ++
    [("state", linkState r.state)])

def general (s : GeneralSettings) : Value :=
  .table [("device", text s.device), ("log_level", optionalText s.logLevel)]

def wifi (s : WifiCredentials) : Value :=
  .table [("password", text s.password), ("ssid", text s.ssid)]

def broker (s : BrokerEndpoint) : Value :=
  .table [
    ("client_id", optionalText s.clientId),
    ("host", text s.host),
    ("password", optionalText s.password),
    ("port", .int s.port.toNat),
    ("username", optionalText s.username)]

def strategy : ReconnectStrategy → Value
  | .escalate => .text "escalate"
  | .persist => .text "persist"

def reconnect (s : ReconnectSettings) : Value :=
  .table [
    ("initial_delay_ms", .int s.initialDelayMs.toNat),
    ("max_attempts", .int s.maxAttempts.toNat),
    ("max_delay_ms", .int s.maxDelayMs.toNat),
    ("strategy", strategy s.strategy)]

def health (s : HealthSettings) : Value :=
  .table [
    ("enabled", .bool s.enabled),
    ("interval_ms", .int s.intervalMs.toNat),
    ("unreachable_threshold", .int s.unreachableThreshold.toNat)]

def diagnostics (s : DiagnosticsSettings) : Value :=
  .table [("dump_on_exit", .bool s.dumpOnExit), ("log_capacity", .int s.logCapacity.toNat)]

def status (s : StatusSettings) : Value :=
  .table [("rules", .seq (s.rules.map rule)), ("use_defaults", .bool s.useDefaults)]

def behavior (s : LinkBehavior) : Value :=
  .table [
    ("connect_latency_ms", .int s.connectLatencyMs.toNat),
    ("drop_after_ms", .int s.dropAfterMs.toNat),
    ("fail_first_attempts", .int s.failFirstAttempts.toNat),
    ("rssi_dbm", .int s.rssiDbm.toInt),
    ("unreachable_after_ms", .int s.unreachableAfterMs.toNat)]

def simulation (s : SimulationSettings) : Value :=
  .table [("broker", behavior s.broker), ("wifi", behavior s.wifi)]

/-- All settings. -/
def settings (s : Settings) : Value :=
  .table [
    ("broker", broker s.broker),
    ("diagnostics", diagnostics s.diagnostics),
    ("general", general s.general),
    ("health", health s.health),
    ("reconnect", reconnect s.reconnect),
    ("sim", simulation s.simulation),
    ("status", status s.status),
    ("wifi", wifi s.wifi)]

end LinkWarden.Encode
