import LinkWarden.Config.Settings
import LinkWarden.Toml.Blank

/-!
# Settings as a TOML document to start from

`Settings.toml` writes settings as a document with a header for each group. A text that is absent is
left out. `Settings.sample` is a complete set of settings.
-/

namespace LinkWarden

namespace Toml

/-- How a character is written between quotation marks. -/
def spell (c : Char) : List Char :=
  if c = '"' then ['\\', '"']
  else if c = '\\' then ['\\', '\\']
  else if c = '\n' then ['\\', 'n']
  else if c = '\r' then ['\\', 'r']
  else if c = '\t' then ['\\', 't']
  else if isPlain c then [c]
  else
    let digits := Nat.toDigits 16 c.toNat
    ['\\', 'u'] ++ List.replicate (4 - digits.length) '0' ++ digits

/-- A text between quotation marks. -/
def quoted (s : String) : String := String.ofList (['"'] ++ s.toList.flatMap spell ++ ['"'])

/-- A header and the keys below it with their values. -/
structure Section where
  header : String
  entries : List (String × String)

/-- The lines of a section. -/
def Section.text (s : Section) : String :=
  s.header ++ "\n" ++ String.join (s.entries.map fun (key, v) => key ++ " = " ++ v ++ "\n")

/-- An entry for a text that may be absent. -/
def optionalEntry (key : String) : Option String → List (String × String)
  | none => []
  | some s => [(key, quoted s)]

end Toml

open Toml

/-- The entries of an effect. -/
def Effect.tomlEntries : Effect → List (String × String)
  | .off => [("effect", quoted "off")]
  | .on => [("effect", quoted "on")]
  | .blink ms => [("effect", quoted "blink"), ("interval_ms", toString ms.toNat)]

/-- The section of a rule. -/
def StatusRule.tomlSection (r : StatusRule) : Section :=
  { header := "[[lnk-agent.status.rules]]"
    entries := ("component", quoted r.component) :: ("state", quoted r.state.key) ::
      r.effect.tomlEntries }

/-- The section of a simulated link. -/
def LinkBehavior.tomlSection (name : String) (b : LinkBehavior) : Section :=
  { header := "[lnk-agent.sim." ++ name ++ "]"
    entries := [
      ("connect_latency_ms", toString b.connectLatencyMs.toNat),
      ("fail_first_attempts", toString b.failFirstAttempts.toNat),
      ("drop_after_ms", toString b.dropAfterMs.toNat),
      ("unreachable_after_ms", toString b.unreachableAfterMs.toNat),
      ("rssi_dbm", toString b.rssiDbm.toInt)] }

namespace Settings

/-- The name of a strategy. -/
def strategyKey : ReconnectStrategy → String
  | .escalate => "escalate"
  | .persist => "persist"

/-- The sections of a document of settings. -/
def tomlSections (s : Settings) : List Section := [
  { header := "[lnk-agent.general]"
    entries := optionalEntry "log_level" s.general.logLevel ++
      [("device", quoted s.general.device)] },
  { header := "[lnk-agent.wifi]"
    entries := [("ssid", quoted s.wifi.ssid), ("password", quoted s.wifi.password)] },
  { header := "[lnk-agent.broker]"
    entries := [("host", quoted s.broker.host), ("port", toString s.broker.port.toNat)] ++
      optionalEntry "username" s.broker.username ++ optionalEntry "password" s.broker.password ++
      optionalEntry "client_id" s.broker.clientId },
  { header := "[lnk-agent.reconnect]"
    entries := [
      ("strategy", quoted (strategyKey s.reconnect.strategy)),
      ("initial_delay_ms", toString s.reconnect.initialDelayMs.toNat),
      ("max_delay_ms", toString s.reconnect.maxDelayMs.toNat),
      ("max_attempts", toString s.reconnect.maxAttempts.toNat)] },
  { header := "[lnk-agent.health]"
    entries := [
      ("enabled", toString s.health.enabled),
      ("interval_ms", toString s.health.intervalMs.toNat),
      ("unreachable_threshold", toString s.health.unreachableThreshold.toNat)] },
  { header := "[lnk-agent.diagnostics]"
    entries := [
      ("log_capacity", toString s.diagnostics.logCapacity.toNat),
      ("dump_on_exit", toString s.diagnostics.dumpOnExit)] },
  { header := "[lnk-agent.status]"
    entries := [("use_defaults", toString s.status.useDefaults)] }] ++
  s.status.rules.map StatusRule.tomlSection ++
  [s.simulation.wifi.tomlSection "wifi", s.simulation.broker.tomlSection "broker"]

/-- The settings as a document, a blank line between two sections. -/
def toml (s : Settings) : String := "\n".intercalate (s.tomlSections.map Section.text)

/-- A complete set of settings. -/
def sample : Settings :=
  { general := { logLevel := some "info", device := "greenhouse-node" }
    wifi := { ssid := "home-ap", password := "correct horse battery" }
    broker := {
      host := "broker.local"
      username := some "device"
      password := some "secret"
      clientId := some "greenhouse-node" }
    status := { rules := [⟨"BrokerSession", .connecting, .on⟩] } }

end Settings

end LinkWarden
