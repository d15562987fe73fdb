import LinkWarden.Config.Settings
import LinkWarden.Document.Struct

/-!
# Reading settings from a document

The fields of every group of settings, by their names in a document and in order of their
declaration. An effect is a table with the name of the effect under `effect`, or an array that
begins with the name; inside a rule its keys stand beside those of the rule.
-/

namespace LinkWarden.Decode

/-! ### States and effects -/

/-- The states by their names. -/
def stateNames : List (String × LinkState) := LinkState.all.map fun s => (s.key, s)

def linkState (f : Format) : Value → Decoded LinkState := variant f stateNames

/-- The kinds of effects, of which only one has a field. -/
inductive EffectKind
  | off
  | on
  | blink
  deriving DecidableEq, Repr

def effectNames : List (String × EffectKind) := [("off", .off), ("on", .on), ("blink", .blink)]

/-- What the name of an effect is called where something else was found. -/
def effectTagExpected : String := "variant identifier"

/-- The kind of an effect that stands by itself. -/
def effectKind : Value → Decoded EffectKind
  | .text s => variantNamed effectNames s
  | .moment s => variantNamed effectNames s
  | v => mismatch v effectTagExpected

/-- The kind of an effect inside a rule. Here a natural number in JSON counts the kinds. -/
def ruleEffectKind (f : Format) : Value → Decoded EffectKind
  | .int n =>
    match f with
    | .json =>
      if n < 0 then mismatch (.int n) effectTagExpected
      else match effectNames[n.toNat]? with
        | some entry => .ok entry.2
        | none => .fail (.invalidValue (.int n) "variant index 0 <= i < 3")
    | .toml => mismatch (.int n) effectTagExpected
  | v => effectKind v

/-- The effect of a kind, its field taken from entries. -/
def effectFrom (entries : List (String × Value)) : EffectKind → Decoded Effect
  | .off => .ok .off
  | .on => .ok .on
  | .blink =>
    match Value.lookup? entries "interval_ms" with
    | none => .fail (.missingField "interval_ms")
    | some v => (uint32 v).map .blink

/-- The effect described by entries of a table, its kind read by `kind`. -/
def effectOf (kind : Value → Decoded EffectKind) (entries : List (String × Value)) :
    Decoded Effect :=
  match Value.lookup? entries "effect" with
  | none => .fail (.missingField "effect")
  | some v => do
    let k ← kind v
    effectFrom entries k

/-- The effect of a kind, its field taken from the rest of an array. -/
def effectFromItems (items : List Value) : EffectKind → Decoded Effect
  | .blink =>
    match items with
    | [] => .fail (.invalidLength 0 "struct variant IndicatorEffect::Blink with 1 element")
    | v :: rest => do
      let ms ← uint32 v
      if rest.isEmpty then .ok (.blink ms)
      else .fail (.invalidLength items.length "1 element in sequence")
  | k =>
    if items.isEmpty then .ok (if k = .on then .on else .off)
    else .fail (.invalidLength items.length "0 elements in sequence")

/-- An effect that stands by itself. -/
def effect : Value → Decoded Effect
  | .table entries => effectOf effectKind entries
  | .seq [] => .fail (.missingField "effect")
  | .seq (tag :: rest) => do
    let k ← effectKind tag
    effectFromItems rest k
  | v => mismatch v "internally tagged enum IndicatorEffect"

/-! ### Rules -/

/-- What the entries of a rule have given so far. -/
structure PartialRule where
  component : Option String := none
  state : Option LinkState := none

/-- The fields of a rule that are its own. -/
def ruleFields : List (Field PartialRule) := [
  .plain "component" text fun s r => { r with component := some s },
  .of "state" linkState fun s r => { r with state := some s }]

/-- The entries of a rule that describe its effect. -/
def effectEntries (entries : List (String × Value)) : List (String × Value) :=
  entries.filter fun e => e.1 != "component" && e.1 != "state"

/-- A rule. Its component and state are decoded in the order of the entries, and then the effect
from the other ones. -/
def rule (f : Format) : Value → Decoded StatusRule
  | .table es => do
    let own ← entries ruleFields f es {}
    match own.component, own.state with
    | none, _ => .fail (.missingField "component")
    | _, none => .fail (.missingField "state")
    | some component, some state =>
      let effect ← effectOf (ruleEffectKind f) (effectEntries es)
      .ok { component, state, effect }
  | v => mismatch v "struct StatusRule"

/-! ### Groups of settings -/

def generalFields : List (Field GeneralSettings) := [
  .plain "log_level" optionalText fun x s => { s with logLevel := x },
  .plain "device" text fun x s => { s with device := x }]

def wifiFields : List (Field WifiCredentials) := [
  .plain "ssid" text fun x s => { s with ssid := x },
  .plain "password" text fun x s => { s with password := x }]

def brokerFields : List (Field BrokerEndpoint) := [
  .plain "host" text fun x s => { s with host := x },
  .plain "port" uint16 fun x s => { s with port := x },
  .plain "username" optionalText fun x s => { s with username := x },
  .plain "password" optionalText fun x s => { s with password := x },
  .plain "client_id" optionalText fun x s => { s with clientId := x }]

def strategyNames : List (String × ReconnectStrategy) :=
  [("escalate", .escalate), ("persist", .persist)]

def reconnectFields : List (Field ReconnectSettings) := [
  .of "strategy" (fun f => variant f strategyNames) fun x s => { s with strategy := x },
  .plain "initial_delay_ms" uint64 fun x s => { s with initialDelayMs := x },
  .plain "max_delay_ms" uint64 fun x s => { s with maxDelayMs := x },
  .plain "max_attempts" uint32 fun x s => { s with maxAttempts := x }]

def healthFields : List (Field HealthSettings) := [
  .plain "enabled" bool fun x s => { s with enabled := x },
  .plain "interval_ms" uint64 fun x s => { s with intervalMs := x },
  .plain "unreachable_threshold" uint32 fun x s => { s with unreachableThreshold := x }]

def diagnosticsFields : List (Field DiagnosticsSettings) := [
  .plain "log_capacity" size fun x s => { s with logCapacity := x },
  .plain "dump_on_exit" bool fun x s => { s with dumpOnExit := x }]

def statusFields : List (Field StatusSettings) := [
  .plain "use_defaults" bool fun x s => { s with useDefaults := x },
  .of "rules" (fun f => seqOf (rule f)) fun x s => { s with rules := x }]

def behaviorFields : List (Field LinkBehavior) := [
  .plain "connect_latency_ms" uint64 fun x s => { s with connectLatencyMs := x },
  .plain "fail_first_attempts" uint32 fun x s => { s with failFirstAttempts := x },
  .plain "drop_after_ms" uint64 fun x s => { s with dropAfterMs := x },
  .plain "unreachable_after_ms" uint64 fun x s => { s with unreachableAfterMs := x },
  .plain "rssi_dbm" int32 fun x s => { s with rssiDbm := x }]

def general (f : Format) : Value → Decoded GeneralSettings :=
  struct "GeneralConfig" generalFields {} f

def wifi (f : Format) : Value → Decoded WifiCredentials :=
  struct "WifiCredentials" wifiFields {} f

def broker (f : Format) : Value → Decoded BrokerEndpoint :=
  struct "BrokerEndpoint" brokerFields {} f

def reconnect (f : Format) : Value → Decoded ReconnectSettings :=
  struct "ReconnectConfig" reconnectFields {} f

def health (f : Format) : Value → Decoded HealthSettings :=
  struct "HealthConfig" healthFields {} f

def diagnostics (f : Format) : Value → Decoded DiagnosticsSettings :=
  struct "DiagnosticsConfig" diagnosticsFields {} f

def status (f : Format) : Value → Decoded StatusSettings :=
  struct "StatusConfig" statusFields {} f

def behavior (f : Format) : Value → Decoded LinkBehavior :=
  struct "SimLinkConfig" behaviorFields {} f

def simulationFields : List (Field SimulationSettings) := [
  .of "wifi" behavior fun x s => { s with wifi := x },
  .of "broker" behavior fun x s => { s with broker := x }]

def simulation (f : Format) : Value → Decoded SimulationSettings :=
  struct "SimConfig" simulationFields {} f

def settingsFields : List (Field Settings) := [
  .of "general" general fun x s => { s with general := x },
  .of "wifi" wifi fun x s => { s with wifi := x },
  .of "broker" broker fun x s => { s with broker := x },
  .of "reconnect" reconnect fun x s => { s with reconnect := x },
  .of "health" health fun x s => { s with health := x },
  .of "diagnostics" diagnostics fun x s => { s with diagnostics := x },
  .of "status" status fun x s => { s with status := x },
  .of "sim" simulation fun x s => { s with simulation := x }]

/-- All settings. -/
def settings (f : Format) : Value → Decoded Settings :=
  struct "AgentConfig" settingsFields {} f

end LinkWarden.Decode
